import TiupPlayground.Daemon.Claim

/-!
The two judgements of a pid record's staleness: `cleanupStaleRuntimeFiles`, before a claim, and
one pass of `waitPlaygroundStopped`'s loop. Both read the record, check the recorded process,
and treat a record they cannot parse by its age and the port probe; the grace test is written
`age >= 0 && age < grace` in the one and `age >= grace` in the other.

They agree wherever the record's modification time is not in the future. A future modification
time splits them: the cleanup removes the record, the waiter keeps polling. And the grace window
guards only records that fail to parse: a record cut short inside the pid digits parses as
another process's.
-/
namespace TiupPlayground

structure JudgedAlike (w : World) (i : Bool × World) (c : Except DaemonError Unit × World) :
    Prop where
  stopped_iff : i.1 = true ↔ c.1 = .ok ()
  pid_entry : i.2.fs.entry .pid = c.2.fs.entry .pid
  polling : i.1 = false → i.2 = w ∧ c.2 = w

theorem JudgedAlike.removed (w w' : World) : JudgedAlike w (true, w') (.ok (), w') :=
  ⟨by simp, rfl, fun h => by simp at h⟩

theorem JudgedAlike.kept (w : World) (e : DaemonError) : JudgedAlike w (false, w) (.error e, w) :=
  ⟨by simp, rfl, fun _ => ⟨rfl, rfl⟩⟩

theorem readPIDFile_ne_notExist {w : World} (hpid : w.fs.entry .pid ≠ none) {err : PidFileError}
    (hr : ((readPIDFile .pid).run w).1 = .error err) : err ≠ .read .notExist := by
  rintro rfl
  rw [run_readPIDFile] at hr
  split at hr
  · rename_i e he
    cases hr
    unfold FS.readFile at he
    split at he
    · exact hpid ‹_›
    · cases he
    · split_ifs at he
      cases he
  · exact parsePIDFile_ne_read _ _ hr

theorem judgedAlike_of_parsed {dataDir : List Char} (hd : trimSpace dataDir ≠ []) {w : World}
    {pid : PidFile} (hr : ((readPIDFile .pid).run w).1 = .ok pid) :
    JudgedAlike w (waitIteration.run w) ((cleanupStaleRuntimeFiles dataDir).run w) := by
  simp only [waitIteration, cleanupStaleRuntimeFiles, if_neg hd, Prog.bind_eq,
    Prog.run_bind_of_readOnly (readPIDFile_readOnly _), hr,
    Prog.run_bind_of_readOnly (isPIDRunning_readOnly _)]
  generalize (Prog.run w (isPIDRunning pid.pid)).1 = r
  obtain ⟨running, _ | e⟩ := r
  · cases running
    · refine ⟨by simp [removeRecords, remove], ?_, by simp [remove]⟩
      simp [removeRecords, remove, World.exec, FS.remove_entry_other]
    · exact ⟨by simp, rfl, fun _ => ⟨rfl, rfl⟩⟩
  · exact ⟨by simp, rfl, fun _ => ⟨rfl, rfl⟩⟩

theorem judgedAlike_of_unparsed {dataDir : List Char} (hd : trimSpace dataDir ≠ []) {w : World}
    {err : PidFileError} (hr : ((readPIDFile .pid).run w).1 = .error err)
    (herr : err ≠ .read .notExist) {m : Time} (hm : w.fs.stat .pid = .ok m)
    (hage : 0 ≤ w.clock.sub m) :
    JudgedAlike w (waitIteration.run w) ((cleanupStaleRuntimeFiles dataDir).run w) := by
  simp only [waitIteration, cleanupStaleRuntimeFiles, if_neg hd, Prog.bind_eq,
    Prog.run_bind_of_readOnly (readPIDFile_readOnly _), hr, if_neg herr, stat, now, Prog.call_bind,
    Prog.pure_eq, Prog.pure_bind, Prog.run_call, World.exec, hm]
  by_cases hg : pidFileWriteGracePeriod ≤ w.clock.sub m
  · have hng : ¬(0 ≤ w.clock.sub m ∧ w.clock.sub m < pidFileWriteGracePeriod) :=
      fun h => absurd hg (not_le.2 h.2)
    rw [if_pos hg, if_neg hng]
    simp only [cleanupInvalidPIDRecord, Prog.bind_eq, Prog.run_bind_of_readOnly loadPort_readOnly]
    generalize (loadPort.run w).1 = lp
    rcases lp with e | port
    · simp only [Prog.run_bind, Prog.pure_eq, Prog.run_pure]
      exact .removed _ _
    · by_cases hp : 0 < port
      · simp only [if_pos hp,
          Prog.run_bind_of_readOnly (probePlaygroundCommandServer_readOnly _)]
        generalize ((probePlaygroundCommandServer port).run w).1 = pr
        obtain ⟨ok, probeErr⟩ := pr
        by_cases hok : ok = true ∧ probeErr = none
        · obtain ⟨rfl, rfl⟩ := hok
          exact .kept w _
        by_cases ht : isTimeoutErr probeErr = true
        · simp only [decide_eq_false hok, ht, Bool.or_true, Bool.not_true, Bool.false_eq_true,
            if_false, if_neg hok, if_true]
          exact .kept w _
        · simp only [decide_eq_false hok, Bool.eq_false_iff.2 ht, Bool.or_false, Bool.not_false,
            if_true, if_neg hok, if_neg ht, Prog.run_bind, Prog.pure_eq, Prog.run_pure]
          exact .removed _ _
      · simp only [if_neg hp, Prog.run_bind, Prog.pure_eq, Prog.run_pure, Prog.pure_bind]
        exact .removed _ _
  · rw [if_neg hg, if_pos ⟨hage, not_le.1 hg⟩]
    exact .kept _ _

theorem staleness_judgements_agree {dataDir : List Char} (hd : trimSpace dataDir ≠ []) (w : World)
    (hpid : w.fs.entry .pid ≠ none) (hage : ∀ m, w.fs.stat .pid = .ok m → 0 ≤ w.clock.sub m) :
    JudgedAlike w (waitIteration.run w) ((cleanupStaleRuntimeFiles dataDir).run w) := by
  obtain ⟨m, hm⟩ := FS.stat_of_entry hpid
  rcases hr : ((readPIDFile .pid).run w).1 with err | pid
  · exact judgedAlike_of_unparsed hd hr (readPIDFile_ne_notExist hpid hr) hm (hage m hm)
  · exact judgedAlike_of_parsed hd hr

def recordWorld (data : List Char) (modTime : Time) : World where
  fs := ⟨true, false, fun f => if f = .pid then some (.file 0) else none,
    fun _ => ⟨data, modTime, true⟩, 1⟩
  clock := Time.zero
  signal := fun pid => if pid = 12345 then .ok else .esrch
  http := fun _ _ => .error .refused

theorem staleness_judgements_agree_stale_record :
    trimSpace "/data".toList ≠ [] ∧ (recordWorld [] ⟨-(3 * Second), 0⟩).fs.entry .pid ≠ none ∧
      (∀ m, (recordWorld [] ⟨-(3 * Second), 0⟩).fs.stat .pid = .ok m →
        0 ≤ (recordWorld [] ⟨-(3 * Second), 0⟩).clock.sub m) ∧
      JudgedAlike (recordWorld [] ⟨-(3 * Second), 0⟩)
        (waitIteration.run (recordWorld [] ⟨-(3 * Second), 0⟩))
        ((cleanupStaleRuntimeFiles "/data".toList).run (recordWorld [] ⟨-(3 * Second), 0⟩)) := by
  have hage : ∀ m, (recordWorld [] ⟨-(3 * Second), 0⟩).fs.stat .pid = .ok m →
      0 ≤ (recordWorld [] ⟨-(3 * Second), 0⟩).clock.sub m := fun m hm => by
    obtain rfl : (⟨-(3 * Second), 0⟩ : Time) = m := Except.ok.inj hm
    decide
  exact ⟨by decide, by decide, hage,
    staleness_judgements_agree (by decide) _ (by decide) hage⟩

def futureRecord : World := recordWorld [] ⟨Second, 0⟩

/-- The record's age is negative. The cleanup sees no write in progress and removes it; the
    waiter sees no stale record and polls on. -/
theorem future_record_judged_apart :
    futureRecord.fs.entry .pid = some (.file 0) ∧ futureRecord.clock.sub ⟨Second, 0⟩ < 0 ∧
      ((cleanupStaleRuntimeFiles "/data".toList).run futureRecord).1 = .ok () ∧
      ((cleanupStaleRuntimeFiles "/data".toList).run futureRecord).2.fs.entry .pid = none ∧
      (waitIteration.run futureRecord).1 = false ∧
      (waitIteration.run futureRecord).2.fs.entry .pid = some (.file 0) :=
  ⟨rfl, by decide, rfl, rfl, rfl, rfl⟩

/-- `"pid=12"`, the first bytes of process 12345's record whatever its start time and tag, is a
    whole record of process 12. Written just now by the live 12345, it is removed as the record
    of a dead process, where the empty record, a shorter cut, is kept as being written. -/
theorem truncated_record_names_other_pid (t : Time) (tag : List Char) :
    "pid=12".toList <+: pidRecord 12345 t tag ∧
      "pid=12".toList.length < (pidRecord 12345 t tag).length ∧
      parsePIDFile "pid=12".toList = .ok ⟨12, Time.zero, []⟩ ∧
      ((cleanupStaleRuntimeFiles "/data".toList).run (recordWorld "pid=12".toList Time.zero)).1 =
        .ok () ∧
      ((cleanupStaleRuntimeFiles "/data".toList).run
        (recordWorld "pid=12".toList Time.zero)).2.fs.entry .pid = none ∧
      ((cleanupStaleRuntimeFiles "/data".toList).run (recordWorld [] Time.zero)).1 =
        .error .starting := by
  refine ⟨⟨"345".toList ++ '\n' :: "started_at=".toList ++ formatRFC3339 false t.utc ++
    '\n' :: "tag=".toList ++ tag ++ ['\n'], rfl⟩, ?_, rfl, rfl, rfl, rfl⟩
  simp [pidRecord]
  omega

theorem run_isPIDRunning {p : Int} (h0 : 0 < p) (w : World) :
    (isPIDRunning p).run w =
      (match w.signal p with
        | .ok | .eperm => (true, none)
        | .esrch => (false, none)
        | .other => (false, some .errno), w) := by
  simp only [isPIDRunning, if_neg (not_le.2 h0), kill, Prog.bind_eq, Prog.call_bind,
    Prog.pure_bind, Prog.run_call, World.exec]
  cases w.signal p <;> rfl

theorem live_record_kept {dataDir : List Char} (hd : trimSpace dataDir ≠ []) {w : World}
    {p : Int} (h0 : 0 < p) (h1 : p ≤ maxInt64) {t : Time} (hy : 0 ≤ t.utcYear ∧ t.utcYear ≤ 9999)
    {tag : List Char} (hnl : '\n' ∉ tag) (hw : w.fs.readFile .pid = .ok (pidRecord p t tag))
    (hlive : w.signal p ≠ .esrch) :
    (cleanupStaleRuntimeFiles dataDir).run w =
        (.error (if w.signal p = .other then .checkPID p .errno else .runningPID p), w) ∧
      waitIteration.run w = (false, w) := by
  simp only [cleanupStaleRuntimeFiles, waitIteration, if_neg hd, Prog.bind_eq,
    Prog.run_bind_of_readOnly (readPIDFile_readOnly _), readPIDFile_pidRecord h0 h1 hy hnl hw,
    Prog.run_bind_of_readOnly (isPIDRunning_readOnly _), run_isPIDRunning h0]
  cases hs : w.signal p with
  | esrch => exact absurd hs hlive
  | ok | eperm | other => exact ⟨rfl, rfl⟩

theorem live_record_kept_12345 :
    trimSpace "/data".toList ≠ [] ∧ (0 : Int) < 12345 ∧ (12345 : Int) ≤ maxInt64 ∧
      (0 ≤ Time.zero.utcYear ∧ Time.zero.utcYear ≤ 9999) ∧ '\n' ∉ "t".toList ∧
      (recordWorld (pidRecord 12345 Time.zero "t".toList) Time.zero).fs.readFile .pid =
        .ok (pidRecord 12345 Time.zero "t".toList) ∧
      (recordWorld (pidRecord 12345 Time.zero "t".toList) Time.zero).signal 12345 ≠ .esrch ∧
      (cleanupStaleRuntimeFiles "/data".toList).run
          (recordWorld (pidRecord 12345 Time.zero "t".toList) Time.zero) =
        (.error (.runningPID 12345),
          recordWorld (pidRecord 12345 Time.zero "t".toList) Time.zero) ∧
      waitIteration.run (recordWorld (pidRecord 12345 Time.zero "t".toList) Time.zero) =
        (false, recordWorld (pidRecord 12345 Time.zero "t".toList) Time.zero) := by
  have h := @live_record_kept "/data".toList (by decide)
    (recordWorld (pidRecord 12345 Time.zero "t".toList) Time.zero) 12345 (by decide) (by decide)
    Time.zero (by decide) "t".toList (by decide) rfl (by decide)
  exact ⟨by decide, by decide, by decide, by decide, by decide, rfl, by decide, h.1, h.2⟩

end TiupPlayground
