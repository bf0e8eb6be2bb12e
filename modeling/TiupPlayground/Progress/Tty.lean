import TiupPlayground.Progress.Timestamps
import Mathlib.Data.String.Basic

/-!
What the TTY renderer's active area shows (`renderTTYBlocks`, `ttyGroupComponent.Lines`): a
block for each unsealed group with tasks, and in a block the header, a row for each of the
first `activeLimit` visible tasks, in title order when the group asks for it, and the count of
the visible tasks left without a row. A line is described by what it shows: the header's icon,
title, elapsed time and `" ..."`, a row's task and guide, the count. The text of a row
(`ttyTaskComponent.Line`), the column widths, lipgloss styles and `clipLine` are not modelled.

`groupState.canAutoSeal` says when the TTY program may seal a group and move its block to the
history: the block it prints then shows the group's final icon, and none of its lines depends
on the clock any more.
-/
namespace TiupPlayground

/-- `ttyTaskVisible(t, now)`: a task hidden while fast appears once it fails, retries, or has
    run for `revealAfter`; `clock` is what `time.Now()` returns when `now` is zero. -/
def ttyTaskVisible (clock : Time) (t : TaskState) (now : Time) : Bool :=
  if !t.hideIfFast then true
  else
    match t.status with
    | .error | .retrying => true
    | .running =>
      if t.revealAfter ≤ 0 then true
      else if t.startAt.isZero then true
      else decide (t.revealAfter ≤ (if now.isZero then clock else now).sub t.startAt)
    | _ => false

inductive GroupIcon where
  | running
  | error
  | success
  deriving DecidableEq, Repr

inductive Guide where
  | running
  | success
  deriving DecidableEq, Repr

inductive TtyLine where
  /-- The icon, the title, the elapsed time when `showMeta` is set, and `" ..."`. -/
  | header (icon : GroupIcon) (title : String) (elapsed : Option Duration) (ellipsis : Bool)
  | task (t : TaskState) (guide : Guide)
  /-- `"  … and %d more"` -/
  | more (n : Nat)

/-- `strings.ToLower(t.title)`. -/
def lowerTitle (t : TaskState) : String := t.title.toLower

/-- `sort.SliceStable` by lower-cased title: a stable sort that keeps `a` before `b` unless
    `b`'s key is the smaller. -/
def sortByTitle (ts : List TaskState) : List TaskState :=
  ts.mergeSort fun a b => !decide (lowerTitle b < lowerTitle a)

def TaskState.isActive (t : TaskState) : Bool := t.status == .running || t.status == .retrying

/-- The rows of `Lines` after the header: the first `activeLimit` visible tasks (all of them for
    a negative limit), then the count of the others. -/
def ttyRows (visible : List TaskState) (guide : Guide) (activeLimit : Int) : List TtyLine :=
  let shown := if 0 ≤ activeLimit && activeLimit < visible.length then activeLimit.toNat
    else visible.length
  (visible.take shown).map (TtyLine.task · guide) ++
    (if shown < visible.length then [.more (visible.length - shown)] else [])

/-- The group's tasks in the order `Lines` lists them. -/
def ttyTasks (s : EngineState) (g : GroupState) : List TaskState :=
  let tasks := g.tasks.map s.taskHeap
  if g.sortTasksByTitle && 1 < tasks.length then sortByTitle tasks else tasks

/-- `ttyGroupComponent{group: g}.Lines(ctx, activeLimit)` with `ctx.now = ctxNow`. -/
def ttyGroupLines (clock : Time) (s : EngineState) (g : GroupState) (ctxNow : Time)
    (activeLimit : Int) : List TtyLine :=
  let now := if ctxNow.isZero then clock else ctxNow
  let visible := (ttyTasks s g).filter (ttyTaskVisible clock · now)
  let active := visible.countP TaskState.isActive
  let hasError := visible.any (·.status == .error)
  let icon : GroupIcon :=
    if g.closed && active == 0 then (if hasError then .error else .success) else .running
  let header := TtyLine.header icon g.title
    (if g.showMeta then some (g.elapsed s.taskHeap clock now) else none)
    (0 < active && !g.showMeta)
  if g.closed && active == 0 && !hasError && g.hideDetailsOnSuccess then [header]
  else
    let guide : Guide :=
      if g.closed && active == 0 && !hasError && !g.hideDetailsOnSuccess then .success
      else .running
    header :: ttyRows visible guide activeLimit

/-- `renderTTYBlocks`: the blocks of the unsealed groups with tasks, in the engine's order. -/
def renderTTYBlocks (clock : Time) (s : EngineState) (ctxNow : Time) (activeLimit : Int) :
    List (List TtyLine) :=
  ((s.groups.map s.groupHeap).filter fun g => !g.sealed && !g.tasks.isEmpty).map
    fun g => ttyGroupLines clock s g ctxNow activeLimit

/-- `flattenBlocks`. -/
def flattenBlocks (blocks : List (List TtyLine)) : List TtyLine := blocks.flatten

/-- `groupState.canAutoSeal`: closed, not sealed, with tasks, none running or retrying. -/
def GroupState.canAutoSeal (g : GroupState) (tasks : Nat → TaskState) : Bool :=
  if g.sealed || !g.closed || g.tasks.isEmpty then false
  else (g.tasks.map tasks).all fun t => !t.isActive

theorem ttyRows_length_le (visible : List TaskState) (guide : Guide) {activeLimit : Int}
    (h : 0 ≤ activeLimit) : (ttyRows visible guide activeLimit).length ≤ activeLimit.toNat + 1 := by
  unfold ttyRows
  by_cases hl : activeLimit < visible.length
  · simp [h, hl]
  · simp [h, hl]
    omega

theorem ttyGroupLines_length_le (clock : Time) (s : EngineState) (g : GroupState) (ctxNow : Time)
    {activeLimit : Int} (h : 0 ≤ activeLimit) :
    (ttyGroupLines clock s g ctxNow activeLimit).length ≤ activeLimit.toNat + 2 := by
  have block : ∀ (c : Bool) (x : TtyLine) (rows : List TtyLine),
      rows.length ≤ activeLimit.toNat + 1 →
        (if c then [x] else x :: rows).length ≤ activeLimit.toNat + 2 := by
    intro c x rows hr
    cases c <;> simp [hr]
  exact block _ _ _ (ttyRows_length_le _ _ h)

theorem active_area_bounded (clock : Time) (s : EngineState) (ctxNow : Time) {activeLimit : Int}
    (h : 0 ≤ activeLimit) :
    (flattenBlocks (renderTTYBlocks clock s ctxNow activeLimit)).length ≤
      ((s.groups.map s.groupHeap).countP fun g => !g.sealed && !g.tasks.isEmpty) *
        (activeLimit.toNat + 2) := by
  unfold flattenBlocks renderTTYBlocks
  rw [List.length_flatten, List.countP_eq_length_filter]
  generalize (s.groups.map s.groupHeap).filter _ = gs
  induction gs with
  | nil => simp
  | cons g gs ih =>
    simp only [List.map_cons, List.sum_cons, List.length_cons, Nat.succ_mul]
    have := ttyGroupLines_length_le clock s g ctxNow h
    omega

def sealRun : List Applied :=
  [⟨Time.zero, ⟨1, 0⟩, { Event.empty EventGroupAdd with groupID := 1, title := some "A" }⟩,
   ⟨Time.zero, ⟨1, 0⟩,
     { Event.empty EventTaskAdd with groupID := 1, taskID := 10, title := some "task-a" }⟩,
   ⟨Time.zero, ⟨1, 0⟩, { Event.empty EventGroupAdd with groupID := 2, title := some "B" }⟩,
   ⟨Time.zero, ⟨1, 0⟩,
     { Event.empty EventTaskAdd with groupID := 2, taskID := 20, title := some "task-b" }⟩,
   ⟨Time.zero, ⟨1, 0⟩, { Event.empty EventGroupClose with groupID := 2 }⟩,
   ⟨Time.zero, ⟨1, 0⟩,
     { Event.empty EventTaskState with taskID := 20, status := some TaskStatusDone }⟩]

def sealEngine : EngineState := runEvents newEngineState sealRun

theorem active_area_bounded_sealRun :
    (0 : Int) ≤ 3 ∧ (flattenBlocks (renderTTYBlocks Time.zero sealEngine ⟨1, 0⟩ 3)).length ≤
      ((sealEngine.groups.map sealEngine.groupHeap).countP fun g => !g.sealed && !g.tasks.isEmpty) *
        ((3 : Int).toNat + 2) :=
  ⟨by decide, active_area_bounded Time.zero sealEngine ⟨1, 0⟩ (by decide)⟩

theorem ttyTasks_perm (s : EngineState) (g : GroupState) :
    List.Perm (ttyTasks s g) (g.tasks.map s.taskHeap) := by
  unfold ttyTasks
  dsimp only
  split
  · exact List.mergeSort_perm _ _
  · exact List.Perm.refl _

theorem ttyTaskVisible_of_error {clock now : Time} {t : TaskState} (h : t.status = .error) :
    ttyTaskVisible clock t now = true := by
  unfold ttyTaskVisible
  rw [h]
  split <;> rfl

theorem canAutoSeal_visible {g : GroupState} {s : EngineState}
    (h : g.canAutoSeal s.taskHeap = true) (clock now : Time) :
    ((ttyTasks s g).filter (ttyTaskVisible clock · now)).countP TaskState.isActive = 0 ∧
      ((ttyTasks s g).filter (ttyTaskVisible clock · now)).any (·.status == .error) =
        (g.tasks.map s.taskHeap).any (·.status == .error) := by
  have hall : ∀ t ∈ ttyTasks s g, t.isActive = false := by
    unfold GroupState.canAutoSeal at h
    split at h
    · cases h
    · intro t ht
      simpa using List.all_eq_true.1 h t ((ttyTasks_perm s g).mem_iff.1 ht)
  refine ⟨List.countP_eq_zero.2 fun t ht => by simp [hall t (List.mem_filter.1 ht).1], ?_⟩
  have hshown : ((ttyTasks s g).filter (ttyTaskVisible clock · now)).any (·.status == .error) =
      (ttyTasks s g).any (·.status == .error) := by
    rw [List.any_filter]
    congr 1
    funext t
    cases he : t.status == .error
    · simp
    · simp [ttyTaskVisible_of_error (beq_iff_eq.1 he)]
  rw [hshown]
  simp only [List.any_eq, (ttyTasks_perm s g).mem_iff]

theorem sealed_block_header (clock : Time) (s : EngineState) (g : GroupState) (ctxNow : Time)
    (activeLimit : Int) (h : g.canAutoSeal s.taskHeap = true) :
    ∃ elapsed, (ttyGroupLines clock s g ctxNow activeLimit).head? =
      some (.header (if (g.tasks.map s.taskHeap).any (·.status == .error) then .error else .success)
        g.title elapsed false) := by
  have hclosed : g.closed = true := by
    unfold GroupState.canAutoSeal at h
    split at h
    · cases h
    · simp_all
  obtain ⟨hact, herr⟩ := canAutoSeal_visible h clock (if ctxNow.isZero then clock else ctxNow)
  refine ⟨if g.showMeta then some (g.elapsed s.taskHeap clock
    (if ctxNow.isZero then clock else ctxNow)) else none, ?_⟩
  unfold ttyGroupLines
  dsimp only
  rw [hact, herr]
  split <;> simp [hclosed]

theorem sealed_block_header_B :
    (sealEngine.groupHeap 1).canAutoSeal sealEngine.taskHeap = true ∧
      ∃ elapsed, (ttyGroupLines Time.zero sealEngine (sealEngine.groupHeap 1) ⟨1, 0⟩ 3).head? =
        some (.header (if ((sealEngine.groupHeap 1).tasks.map sealEngine.taskHeap).any
            (·.status == .error) then .error else .success)
          (sealEngine.groupHeap 1).title elapsed false) := by
  have h : (sealEngine.groupHeap 1).canAutoSeal sealEngine.taskHeap = true := by decide
  exact ⟨h, sealed_block_header Time.zero sealEngine _ ⟨1, 0⟩ 3 h⟩

theorem ttyTaskVisible_of_not_running {t : TaskState} (h : t.status ≠ .running)
    (clock now clock' now' : Time) : ttyTaskVisible clock t now = ttyTaskVisible clock' t now' := by
  unfold ttyTaskVisible
  split
  · rfl
  · split
    · rfl
    · rfl
    · exact absurd ‹_› h
    · rfl

theorem canAutoSeal_idle {g : GroupState} {tasks : Nat → TaskState} (h : g.canAutoSeal tasks = true) :
    g.closed = true ∧ ∀ r ∈ g.tasks, (tasks r).isActive = false := by
  unfold GroupState.canAutoSeal at h
  split at h
  · cases h
  · rename_i hc
    simp only [Bool.or_eq_true, Bool.not_eq_true', not_or, Bool.not_eq_false] at hc
    exact ⟨hc.1.2, fun r hr => by simpa using List.all_eq_true.1 h _ (List.mem_map_of_mem _ hr)⟩

theorem ttyGroupLines_frozen {s : EngineState} {g : GroupState} (h : g.canAutoSeal s.taskHeap = true)
    (hpos : 0 < g.closedAt.ns) (activeLimit : Int) (clock ctxNow clock' ctxNow' : Time) :
    ttyGroupLines clock s g ctxNow activeLimit = ttyGroupLines clock' s g ctxNow' activeLimit := by
  obtain ⟨hc, hidle⟩ := canAutoSeal_idle h
  have hnot : ∀ r ∈ g.tasks, (s.taskHeap r).status ≠ .running ∧ (s.taskHeap r).status ≠ .retrying :=
    fun r hr => by simpa [TaskState.isActive] using hidle r hr
  have hvis : ∀ n n', (ttyTasks s g).filter (ttyTaskVisible clock · n) =
      (ttyTasks s g).filter (ttyTaskVisible clock' · n') := fun n n' =>
    List.filter_congr fun t ht => by
      obtain ⟨r, hr, rfl⟩ := List.mem_map.1 ((ttyTasks_perm s g).mem_iff.1 ht)
      exact ttyTaskVisible_of_not_running (hnot r hr).1 _ _ _ _
  have hel : ∀ n n', g.elapsed s.taskHeap clock n = g.elapsed s.taskHeap clock' n' :=
    fun n n' => GroupState.elapsed_frozen hc hpos hnot clock n clock' n'
  unfold ttyGroupLines
  dsimp only
  rw [hvis _ (if ctxNow'.isZero then clock' else ctxNow'),
    hel _ (if ctxNow'.isZero then clock' else ctxNow')]

theorem sealed_block_frozen (xs : List Applied)
    (hpos : ∀ x ∈ xs, 0 < (if x.now.isZero then x.clock else x.now).ns) (a : Nat)
    (h : ((runEvents newEngineState xs).groupHeap a).canAutoSeal
      (runEvents newEngineState xs).taskHeap = true)
    (activeLimit : Int) (clock ctxNow clock' ctxNow' : Time) :
    ttyGroupLines clock (runEvents newEngineState xs) ((runEvents newEngineState xs).groupHeap a)
        ctxNow activeLimit =
      ttyGroupLines clock' (runEvents newEngineState xs) ((runEvents newEngineState xs).groupHeap a)
        ctxNow' activeLimit :=
  ttyGroupLines_frozen h
    (EngineState.runEvents_closedStamped EngineState.newEngineState_closedStamped xs hpos a
      (canAutoSeal_idle h).1) _ _ _ _ _

theorem sealed_block_frozen_B :
    (∀ x ∈ sealRun, 0 < (if x.now.isZero then x.clock else x.now).ns) ∧
      (sealEngine.groupHeap 1).canAutoSeal sealEngine.taskHeap = true ∧
      ttyGroupLines Time.zero sealEngine (sealEngine.groupHeap 1) ⟨1, 0⟩ 3 =
        ttyGroupLines ⟨7, 0⟩ sealEngine (sealEngine.groupHeap 1) Time.zero 3 := by
  have hpos : ∀ x ∈ sealRun, 0 < (if x.now.isZero then x.clock else x.now).ns := by decide
  have h : (sealEngine.groupHeap 1).canAutoSeal sealEngine.taskHeap = true := by decide
  exact ⟨hpos, h, sealed_block_frozen sealRun hpos 1 h 3 _ _ _ _⟩

end TiupPlayground
