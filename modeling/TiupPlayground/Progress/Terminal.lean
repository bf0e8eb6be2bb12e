import TiupPlayground.Progress.Invariant

/-!
What becomes of a finished task (done, error, skipped or canceled). Every handler but one
leaves its status, end time, progress and speed alone: the `pending` case of
`applyTaskState` has no terminal-status guard, unlike the running, retrying, done, skipped
and canceled cases, and moves a finished task back to pending.
-/
namespace TiupPlayground

def TaskState.outcome (t : TaskState) : TaskStatus × Time × Int × Int × Float :=
  (t.status, t.endAt, t.current, t.total, t.speedBps)

namespace EngineState

theorem statusTransition_of_terminal {cur : TaskStatus} (h : cur.isTerminal = true)
    {status : String} {x : TaskStatus × Bool × Bool} (hx : statusTransition cur status = some x) :
    status = TaskStatusPending ∨ (cur = .error ∧ status = TaskStatusError) := by
  by_contra hne
  push_neg at hne
  unfold statusTransition at hx
  cases cur <;> simp [TaskStatus.isTerminal, hne.1, hne.2] at h hx

@[simp] theorem applyGroupUpdate_taskHeap (s : EngineState) (e : Event) :
    (s.applyGroupUpdate e).taskHeap = s.taskHeap := by
  unfold applyGroupUpdate; dsimp only; split
  · rfl
  · split <;> rfl

@[simp] theorem applyGroupClose_taskHeap (s : EngineState) (now : Time) (e : Event) :
    (s.applyGroupClose now e).taskHeap = s.taskHeap := by
  unfold applyGroupClose; dsimp only; split
  · rfl
  · split_ifs <;> rfl

theorem applyTaskUpdate_outcome (s : EngineState) (e : Event) (r : Nat) :
    ((s.applyTaskUpdate e).taskHeap r).outcome = (s.taskHeap r).outcome := by
  unfold applyTaskUpdate
  split
  · rfl
  · rename_i q _ _
    by_cases h : r = q
    · subst h; simp [setTask, TaskState.outcome]
    · simp [setTask, h]

theorem applyTaskProgress_outcome (s : EngineState) (now : Time) (e : Event) {r : Nat}
    (hterm : (s.taskHeap r).status.isTerminal = true) :
    ((s.applyTaskProgress now e).taskHeap r).outcome = (s.taskHeap r).outcome := by
  unfold applyTaskProgress
  split
  · rfl
  · rename_i q _ _
    by_cases h : r = q
    · subst h
      have inactive : (s.taskHeap r).status.isActive = false := by
        revert hterm; cases (s.taskHeap r).status <;> decide
      have running : (s.taskHeap r).status ≠ .running := by
        intro h; simp [h, TaskStatus.isTerminal] at hterm
      simp [recordProgress_of_inactive _ _ inactive, running, setTask]
    · dsimp only; split_ifs <;> simp [setTask, h]

theorem applyTaskState_outcome (s : EngineState) (now : Time) (e : Event) {r : Nat}
    (hterm : (s.taskHeap r).status.isTerminal = true)
    (keep : ¬ (s.taskByID e.taskID = some r ∧ e.status = some TaskStatusPending)) :
    ((s.applyTaskState now e).taskHeap r).outcome = (s.taskHeap r).outcome := by
  unfold applyTaskState
  dsimp only
  split
  · rfl
  · rename_i q a hq
    obtain ⟨hk, -, -⟩ := openTask_spec hq
    split
    · rfl
    · rename_i status hstatus
      split
      · rfl
      · split
        · rfl
        · rename_i x st ends starts htr
          by_cases h : r = q
          · subst h
            rcases statusTransition_of_terminal hterm htr with rfl | ⟨herr, rfl⟩
            · exact absurd ⟨hk, hstatus⟩ keep
            · simp_all
          · split <;> simp [setTask, setGroup, h]

theorem applyEvent_outcome {s : EngineState} (clock now : Time) (e : Event) {r : Nat}
    (hr : r < s.nextTask) (hterm : (s.taskHeap r).status.isTerminal = true)
    (keep : ¬ (e.type = EventTaskState ∧ s.taskByID e.taskID = some r ∧
      e.status = some TaskStatusPending)) :
    ((s.applyEvent clock now e).taskHeap r).outcome = (s.taskHeap r).outcome :=
  applyEvent_rec (P := fun s' => (s'.taskHeap r).outcome = (s.taskHeap r).outcome) s clock now e
    (fun _ => by simp) (fun _ => by simp) (fun _ => by simp)
    (fun _ => congrArg TaskState.outcome (applyTaskAdd_old _ e hr))
    (fun _ => applyTaskUpdate_outcome s e r)
    (fun _ => applyTaskProgress_outcome s _ e hterm)
    (fun h7 => applyTaskState_outcome s _ e hterm fun h => keep ⟨h7, h⟩) rfl

structure FinishedWith (s : EngineState) (k : UInt64) (r : Nat)
    (o : TaskStatus × Time × Int × Int × Float) : Prop where
  wf : s.WF
  key : s.taskByID k = some r
  terminal : (s.taskHeap r).status.isTerminal = true
  outcome : (s.taskHeap r).outcome = o

section FinishedWith

variable {s : EngineState} {k : UInt64} {r : Nat} {o : TaskStatus × Time × Int × Int × Float}

theorem FinishedWith.applyEvent (h : s.FinishedWith k r o) (y : Applied)
    (hy : ¬ (y.event.type = EventTaskState ∧ y.event.taskID = k ∧
      y.event.status = some TaskStatusPending)) :
    (s.applyEvent y.clock y.now y.event).FinishedWith k r o := by
  have step : ((s.applyEvent y.clock y.now y.event).taskHeap r).outcome = (s.taskHeap r).outcome := by
    refine applyEvent_outcome _ _ _ (h.wf.task_key k r h.key).2.2 h.terminal ?_
    rintro ⟨htype, hr, hpending⟩
    exact hy ⟨htype, (h.wf.task_key _ r hr).2.1.symm.trans (h.wf.task_key k r h.key).2.1, hpending⟩
  exact ⟨applyEvent_wf h.wf _ _ _, applyEvent_taskByID _ _ _ h.key,
    (congrArg (fun o => o.1.isTerminal) step).trans h.terminal, step.trans h.outcome⟩

theorem FinishedWith.run (h : s.FinishedWith k r o) (ys : List Applied)
    (hys : ∀ y ∈ ys, ¬ (y.event.type = EventTaskState ∧ y.event.taskID = k ∧
      y.event.status = some TaskStatusPending)) :
    (runEvents s ys).FinishedWith k r o := by
  induction ys generalizing s with
  | nil => exact h
  | cons y ys ih =>
    exact ih (h.applyEvent y (hys y (List.mem_cons_self _ _))) fun z hz =>
      hys z (List.mem_cons_of_mem _ hz)

end FinishedWith

theorem finished_task_outcome_fixed {s : EngineState} (hs : s.WF) {k : UInt64} {r : Nat}
    (hk : s.taskByID k = some r) (hterm : (s.taskHeap r).status.isTerminal = true)
    (ys : List Applied) (hys : ∀ y ∈ ys, ¬ (y.event.type = EventTaskState ∧ y.event.taskID = k ∧
      y.event.status = some TaskStatusPending)) :
    ((runEvents s ys).taskHeap r).outcome = (s.taskHeap r).outcome :=
  (FinishedWith.run ⟨hs, hk, hterm, rfl⟩ ys hys).outcome

theorem finished_task_outcome_fixed_after_error :
    let s := runEvents newEngineState
      [⟨Time.zero, ⟨1, 0⟩, { Event.empty EventGroupAdd with groupID := 1 }⟩,
       ⟨Time.zero, ⟨1, 0⟩, { Event.empty EventTaskAdd with groupID := 1, taskID := 10 }⟩,
       ⟨Time.zero, ⟨2, 0⟩,
         { Event.empty EventTaskState with taskID := 10, status := some TaskStatusDone }⟩]
    let ys : List Applied :=
      [⟨Time.zero, ⟨3, 0⟩,
         { Event.empty EventTaskState with taskID := 10, status := some TaskStatusError }⟩]
    ((runEvents s ys).taskHeap 0).outcome = (s.taskHeap 0).outcome :=
  finished_task_outcome_fixed (k := 10) (runEvents_wf newEngineState_wf _) (by decide) (by decide) _
    (by decide)

end EngineState

/-- The failing run: task 10 is done after three events, and a fourth, `task_state` with status
    `pending`, makes it pending again. -/
theorem pending_reopens_done_task :
    let steps : List Applied :=
      [⟨Time.zero, ⟨1, 0⟩, { Event.empty EventGroupAdd with groupID := 1 }⟩,
       ⟨Time.zero, ⟨1, 0⟩, { Event.empty EventTaskAdd with groupID := 1, taskID := 10 }⟩,
       ⟨Time.zero, ⟨2, 0⟩,
         { Event.empty EventTaskState with taskID := 10, status := some TaskStatusDone }⟩,
       ⟨Time.zero, ⟨3, 0⟩,
         { Event.empty EventTaskState with taskID := 10, status := some TaskStatusPending }⟩]
    (runEvents newEngineState (steps.take 3)).taskByID 10 = some 0 ∧
      ((runEvents newEngineState (steps.take 3)).taskHeap 0).status = .done ∧
      ((runEvents newEngineState steps).taskHeap 0).status = .pending := by
  decide

end TiupPlayground
