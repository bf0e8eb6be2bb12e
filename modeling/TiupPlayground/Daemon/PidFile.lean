import TiupPlayground.Daemon.Files

/-!
The pid record of a data directory: the lines `claimPlaygroundPIDFile` writes and the parser of
`readPIDFile`. The parser reads the record line by line, trimming each, and the last line of a
field wins; a record read back gives the writer's pid, the start time truncated to seconds and
the tag trimmed, when the tag is one line and the time one of the years 0 to 9999.
-/
namespace TiupPlayground

/-- `pidFile`. -/
structure PidFile where
  pid : Int
  startedAt : Time
  tag : List Char
  deriving DecidableEq, Repr

def PidFile.zero : PidFile := ⟨0, Time.zero, []⟩

/-- The errors of `readPIDFile`: `os.ReadFile`'s, then `"pid is empty"`, `"invalid pid %q"`,
    `"invalid started_at %q"` and `"missing pid field"`. -/
inductive PidFileError where
  | read (e : FsError)
  | pidEmpty
  | invalidPID (raw : List Char)
  | invalidStartedAt (raw : List Char)
  | missingPID
  deriving DecidableEq, Repr

/-- One pass of the loop of `readPIDFile`, over the record read so far and `seenPID`. -/
def readPIDLine (acc : PidFile × Bool) (line : List Char) : Except PidFileError (PidFile × Bool) :=
  let line := trimSpace line
  if line = [] then .ok acc
  else if "pid=".toList.isPrefixOf line then
    let raw := trimSpace (line.drop 4)
    if raw = [] then .error .pidEmpty
    else match atoi raw with
      | none => .error (.invalidPID raw)
      | some pid => .ok ({ acc.1 with pid }, true)
  else if "started_at=".toList.isPrefixOf line then
    let raw := trimSpace (line.drop 11)
    if raw = [] then .ok acc
    else match parseRFC3339 raw with
      | none => .error (.invalidStartedAt raw)
      | some startedAt => .ok ({ acc.1 with startedAt }, acc.2)
  else if "tag=".toList.isPrefixOf line then .ok ({ acc.1 with tag := trimSpace (line.drop 4) }, acc.2)
  else .ok acc

/-- What `readPIDFile` makes of the contents of a pid record. -/
def parsePIDFile (data : List Char) : Except PidFileError PidFile :=
  match (data.splitOn '\n').foldlM readPIDLine (PidFile.zero, false) with
  | .error e => .error e
  | .ok (out, seenPID) => if seenPID then .ok out else .error .missingPID

def readPIDFile (path : RuntimeFile) : Prog (Except PidFileError PidFile) := do
  match ← readFile path with
  | .error e => return .error (.read e)
  | .ok data => return parsePIDFile data

/-- The record `claimPlaygroundPIDFile` writes, `"pid=%d\nstarted_at=%s\ntag=%s\n"` of the
    process id, `time.Now().UTC().Format(time.RFC3339)` and the tag. -/
def pidRecord (pid : Int) (now : Time) (tag : List Char) : List Char :=
  "pid=".toList ++ formatInt pid ++ '\n' :: "started_at=".toList ++ formatRFC3339 false now.utc ++
    '\n' :: "tag=".toList ++ tag ++ ['\n']

@[simp] theorem run_readPIDFile (w : World) (path : RuntimeFile) :
    (readPIDFile path).run w =
      ((match w.fs.readFile path with
        | .error e => .error (.read e)
        | .ok data => parsePIDFile data), w) := by
  simp only [readPIDFile, readFile, Prog.bind_eq, Prog.call_bind, Prog.pure_bind, Prog.run_call,
    World.exec]
  split <;> rfl

theorem readPIDFile_readOnly (path : RuntimeFile) : (readPIDFile path).ReadOnly := fun w => by
  rw [run_readPIDFile]

theorem readPIDLine_ne_read (acc : PidFile × Bool) (line : List Char) (e : FsError) :
    readPIDLine acc line ≠ .error (.read e) := by
  unfold readPIDLine
  dsimp only
  split_ifs <;> (try split) <;> simp

theorem parsePIDFile_ne_read (data : List Char) (e : FsError) :
    parsePIDFile data ≠ .error (.read e) := by
  have fold : ∀ (lines : List (List Char)) acc, lines.foldlM readPIDLine acc ≠ .error (.read e) := by
    intro lines
    induction lines with
    | nil => intro acc h; cases h
    | cons l ls ih =>
      intro acc
      rw [List.foldlM_cons]
      cases h : readPIDLine acc l with
      | error e' => intro h'; cases h'; exact readPIDLine_ne_read acc l e h
      | ok a => exact ih a
  unfold parsePIDFile
  split
  · intro h'
    cases h'
    exact fold _ _ ‹_›
  · split_ifs <;> simp

theorem readPIDLine_empty (acc : PidFile × Bool) : readPIDLine acc [] = .ok acc := rfl

theorem formatInt_noSpace {x : Int} (h : 0 ≤ x) :
    formatInt x ≠ [] ∧ ∀ c ∈ formatInt x, isSpace c = false ∧ isDigit c = true := by
  obtain ⟨ne, all, -⟩ := toDigits_spec x.natAbs
  simp only [formatInt, show ¬ x < 0 by omega, ↓reduceIte, List.nil_append]
  exact ⟨ne, fun c hc => ⟨isSpace_digit (List.all_eq_true.1 all c hc), List.all_eq_true.1 all c hc⟩⟩

theorem readPIDLine_pid (acc : PidFile × Bool) {p : Int} (h0 : 0 < p) (h1 : p ≤ maxInt64) :
    readPIDLine acc ("pid=".toList ++ formatInt p) = .ok ({ acc.1 with pid := p }, true) := by
  obtain ⟨hne, hraw⟩ := formatInt_noSpace h0.le
  have hline : trimSpace ("pid=".toList ++ formatInt p) = "pid=".toList ++ formatInt p :=
    trimSpace_of_forall (List.forall_mem_append.2 ⟨by decide, fun c hc => (hraw c hc).1⟩)
  have hdrop : ("pid=".toList ++ formatInt p).drop 4 = formatInt p := rfl
  unfold readPIDLine
  dsimp only
  rw [hline, hdrop, trimSpace_of_forall fun c hc => (hraw c hc).1,
    atoi_formatInt (le_trans (by decide) h0.le) h1]
  simp [hne, List.isPrefixOf_iff_prefix]

theorem readPIDLine_startedAt (acc : PidFile × Bool) {t : Time}
    (hy : 0 ≤ t.utcYear ∧ t.utcYear ≤ 9999) :
    readPIDLine acc ("started_at=".toList ++ formatRFC3339 false t.utc) =
      .ok ({ acc.1 with startedAt := ⟨t.ns / nsPerSecond * nsPerSecond, 0⟩ }, acc.2) := by
  have hraw := formatRFC3339_utc_noSpace t
  have hline : trimSpace ("started_at=".toList ++ formatRFC3339 false t.utc) =
      "started_at=".toList ++ formatRFC3339 false t.utc :=
    trimSpace_of_forall (List.forall_mem_append.2 ⟨by decide, hraw⟩)
  have hdrop : ("started_at=".toList ++ formatRFC3339 false t.utc).drop 11 =
      formatRFC3339 false t.utc := List.drop_left' (by decide)
  have hne : formatRFC3339 false t.utc ≠ [] := by rw [formatRFC3339_utc]; simp
  unfold readPIDLine
  dsimp only
  rw [hline, hdrop, trimSpace_of_forall hraw, parseRFC3339_formatUTC t hy]
  simp [hne, List.isPrefixOf_iff_prefix]

theorem readPIDLine_tag (acc : PidFile × Bool) (tag : List Char) :
    readPIDLine acc ("tag=".toList ++ tag) = .ok ({ acc.1 with tag := trimSpace tag }, acc.2) := by
  have hline : trimSpace ("tag=".toList ++ tag) = "tag=".toList ++ tag.rdropWhile isSpace :=
    trimSpace_append_of_forall (by decide) (by decide) tag
  have hdrop : ("tag=".toList ++ tag.rdropWhile isSpace).drop 4 = tag.rdropWhile isSpace := rfl
  unfold readPIDLine
  dsimp only
  rw [hline, hdrop, trimSpace_rdropWhile]
  simp [List.isPrefixOf_iff_prefix]

theorem pidRecord_lines {p : Int} (hp : 0 ≤ p) (t : Time) {tag : List Char} (hnl : '\n' ∉ tag) :
    (pidRecord p t tag).splitOn '\n' = ["pid=".toList ++ formatInt p,
      "started_at=".toList ++ formatRFC3339 false t.utc, "tag=".toList ++ tag, []] := by
  have noNl : ∀ {l : List Char}, (∀ c ∈ l, isSpace c = false) → ∀ c ∈ l, ¬ (c == '\n') = true :=
    fun h c hc he => by rw [beq_iff_eq.1 he] at hc; exact absurd (h _ hc) (by decide)
  have hpid : ∀ c ∈ "pid=".toList ++ formatInt p, ¬ (c == '\n') = true :=
    noNl (List.forall_mem_append.2 ⟨by decide, fun c hc => ((formatInt_noSpace hp).2 c hc).1⟩)
  have hstart : ∀ c ∈ "started_at=".toList ++ formatRFC3339 false t.utc, ¬ (c == '\n') = true :=
    noNl (List.forall_mem_append.2 ⟨by decide, formatRFC3339_utc_noSpace t⟩)
  have htag : ∀ c ∈ "tag=".toList ++ tag, ¬ (c == '\n') = true := by
    intro c hc he
    rw [beq_iff_eq.1 he] at hc
    rcases List.mem_append.1 hc with h | h
    · exact absurd h (by decide)
    · exact hnl h
  have hrec : pidRecord p t tag = ("pid=".toList ++ formatInt p) ++ '\n' ::
      (("started_at=".toList ++ formatRFC3339 false t.utc) ++ '\n' :: (("tag=".toList ++ tag) ++
        '\n' :: [])) := by
    simp [pidRecord]
  rw [hrec, List.splitOn, List.splitOnP_first _ _ hpid _ (beq_self_eq_true _), List.splitOnP_first _ _ hstart _
    (beq_self_eq_true _), List.splitOnP_first _ _ htag _ (beq_self_eq_true _), List.splitOnP_nil]

theorem readPIDFile_pidRecord {p : Int} (h0 : 0 < p) (h1 : p ≤ maxInt64) {t : Time}
    (hy : 0 ≤ t.utcYear ∧ t.utcYear ≤ 9999) {tag : List Char} (hnl : '\n' ∉ tag) {w : World}
    (hw : w.fs.readFile .pid = .ok (pidRecord p t tag)) :
    (readPIDFile .pid).run w =
      (.ok ⟨p, ⟨t.ns / nsPerSecond * nsPerSecond, 0⟩, trimSpace tag⟩, w) := by
  rw [run_readPIDFile, hw]
  simp only [parsePIDFile, pidRecord_lines h0.le t hnl, List.foldlM_cons, readPIDLine_pid _ h0 h1,
    readPIDLine_startedAt _ hy, readPIDLine_tag, readPIDLine_empty]
  rfl

theorem readPIDFile_pidRecord_my_cluster :
    let w : World := ⟨⟨true, false, fun _ => some (.file 0),
      fun _ => ⟨pidRecord 1 Time.zero "my-cluster".toList, Time.zero, true⟩, 1⟩, Time.zero,
      fun _ => .esrch, fun _ _ => .error .refused⟩
    (0 < (1 : Int) ∧ (1 : Int) ≤ maxInt64) ∧ (0 ≤ Time.zero.utcYear ∧ Time.zero.utcYear ≤ 9999) ∧
      '\n' ∉ "my-cluster".toList ∧
      w.fs.readFile .pid = .ok (pidRecord 1 Time.zero "my-cluster".toList) ∧
      (readPIDFile .pid).run w = (.ok ⟨1, ⟨Time.zero.ns / nsPerSecond * nsPerSecond, 0⟩,
        trimSpace "my-cluster".toList⟩, w) :=
  ⟨by decide, by decide, by decide, rfl,
    readPIDFile_pidRecord (by decide) (by decide) (by decide) (by decide) rfl⟩

/-- A tag with a line break adds lines to the record: `x` then `pid=1` make the record of
    process 7 read back as process 1's. -/
theorem pidRecord_newline_tag_rewrites_pid :
    (parsePIDFile (pidRecord 7 Time.zero "x\npid=1".toList)).toOption =
      some ⟨1, ⟨0, 0⟩, "x".toList⟩ := by
  decide

end TiupPlayground
