import TiupPlayground.Progress.State

/-!
The percentage the TTY renderer prints for a running download (`ttyDownloadContent`), next to
the bar `renderProgressBar` draws for it. The percentage is `current * 100 / total` in int64
arithmetic; the bar first clamps `current` into `[0, total]`. The rest of the row (label, meta,
speed, widths and styles) and the bar's float arithmetic are not modelled.
-/
namespace TiupPlayground

/-- `percent` in `ttyDownloadContent` for a task with `total > 0`: Go's `t.current * 100 /
    t.total`, whose product wraps around in int64 and whose quotient is truncated. -/
def downloadPercent (t : TaskState) : Int :=
  if 0 < t.current then (wrapInt64 (t.current * 100)).tdiv t.total else 0

/-- `fmt.Sprintf("%d%%", percent)`. -/
def percentText (t : TaskState) : String := toString (downloadPercent t) ++ "%"

/-- The amount `renderProgressBar` fills the bar for: `current` clamped into `[0, total]`. -/
def progressBarCurrent (current total : Int) : Int :=
  let current := if current < 0 then 0 else current
  if current > total then total else current

theorem progressBarCurrent_of_le {current total : Int} (ht : 0 ≤ total) (h : current ≤ total) :
    progressBarCurrent current total = max current 0 := by
  unfold progressBarCurrent
  dsimp only
  split_ifs <;> omega

theorem downloadPercent_of_fits {t : TaskState} (ht : 0 < t.total) (hc : 0 < t.current)
    (hm : t.current * 100 ≤ maxInt64) : downloadPercent t = t.current * 100 / t.total := by
  have h0 : 0 ≤ t.current * 100 := by omega
  have hw : wrapInt64 (t.current * 100) = t.current * 100 := by
    unfold wrapInt64
    rw [Int.emod_eq_of_lt (by omega) (by unfold maxInt64 at hm; omega)]
    omega
  rw [downloadPercent, if_pos hc, hw, Int.tdiv_eq_ediv h0 ht.le]

theorem downloadPercent_agrees_with_bar (t : TaskState) (ht : 0 < t.total)
    (hc : t.current ≤ t.total) (hm : t.current * 100 ≤ maxInt64) :
    0 ≤ downloadPercent t ∧ downloadPercent t ≤ 100 ∧
      downloadPercent t = progressBarCurrent t.current t.total * 100 / t.total := by
  rw [progressBarCurrent_of_le ht.le hc]
  by_cases h0 : 0 < t.current
  · rw [downloadPercent_of_fits ht h0 hm, max_eq_left h0.le]
    exact ⟨Int.ediv_nonneg (by omega) ht.le, Int.ediv_le_of_le_mul ht (by omega), rfl⟩
  · rw [downloadPercent, if_neg h0, max_eq_right (not_lt.1 h0)]
    simp

theorem downloadPercent_agrees_with_bar_half :
    (0 : Int) < 100 ∧ (50 : Int) ≤ 100 ∧ (50 : Int) * 100 ≤ maxInt64 ∧
      downloadPercent { TaskState.zero with current := 50, total := 100 } = 50 :=
  ⟨by decide, by decide, by decide,
    (downloadPercent_agrees_with_bar { TaskState.zero with current := 50, total := 100 }
      (by decide) (by decide) (by decide)).2.2.trans (by decide)⟩

def downloadRun (current total : Int) : List Applied :=
  [⟨Time.zero, ⟨1, 0⟩, { Event.empty EventGroupAdd with groupID := 1, title := some "G" }⟩,
   ⟨Time.zero, ⟨1, 0⟩, { Event.empty EventTaskAdd with groupID := 1, taskID := 10, title := some "T" }⟩,
   ⟨Time.zero, ⟨1, 0⟩,
     { Event.empty EventTaskUpdate with taskID := 10, kind := some TaskKindDownload }⟩,
   ⟨Time.zero, ⟨2, 0⟩, { Event.empty EventTaskProgress with
      taskID := 10, current := some current, total := some total }⟩]

def downloadTask (current total : Int) : TaskState :=
  (runEvents newEngineState (downloadRun current total)).taskHeap 0

/-- `applyTaskProgress` clamps only negative values, so a report above the total prints a
    percentage above 100 beside a full bar; and `current * 100` wraps around in int64, so a
    download of `10^17` bytes, complete, prints a negative percentage beside a full bar. -/
theorem download_percent_out_of_range :
    ((downloadTask 200 100).status = .running ∧ (downloadTask 200 100).kind = .download ∧
      (downloadTask 200 100).current = 200 ∧ (downloadTask 200 100).total = 100 ∧
      percentText (downloadTask 200 100) = "200%" ∧ progressBarCurrent 200 100 = 100) ∧
    ((downloadTask (10 ^ 17) (10 ^ 17)).status = .running ∧
      (downloadTask (10 ^ 17) (10 ^ 17)).kind = .download ∧
      (downloadTask (10 ^ 17) (10 ^ 17)).current = 10 ^ 17 ∧
      (downloadTask (10 ^ 17) (10 ^ 17)).total = 10 ^ 17 ∧ (10 ^ 17 : Int) ≤ maxInt64 ∧
      percentText (downloadTask (10 ^ 17) (10 ^ 17)) = "-84%" ∧
      progressBarCurrent (10 ^ 17) (10 ^ 17) = 10 ^ 17) := by
  decide

end TiupPlayground
