import Mathlib.Tactic

/-!
The proleptic Gregorian calendar as Go's `time` package uses it for formatting and parsing.
Days are split from 0000-03-01 in 400-year eras, 100-year centuries, 4-year blocks and years,
so that February, with its leap day, ends the year; `joinDays` is the inverse, and the two
round-trip on every day. `civilOfDays` and `daysOfCivil` shift to Go's epoch, 0001-01-01.
-/
namespace TiupPlayground

/-- Year, month index (0 is March) and day index of a day counted from 0000-03-01. -/
def splitDays (z : Int) : Int × Int × Int :=
  let era := z / 146097
  let doe := z % 146097
  let cent := min (doe / 36524) 3
  let doc := doe - 36524 * cent
  let quad := doc / 1461
  let doq := doc % 1461
  let yiq := min (doq / 365) 3
  let doy := doq - 365 * yiq
  let mp := (5 * doy + 2) / 153
  (400 * era + 100 * cent + 4 * quad + yiq, mp, doy - (153 * mp + 2) / 5)

def joinDays (y mp dd : Int) : Int :=
  146097 * (y / 400) + 365 * (y % 400) + y % 400 / 4 - y % 400 / 100 + (153 * mp + 2) / 5 + dd

def isLeap (year : Int) : Bool := year % 4 = 0 ∧ (year % 100 ≠ 0 ∨ year % 400 = 0)

def daysIn (month year : Int) : Int :=
  if month = 2 then (if isLeap year then 29 else 28)
  else if month = 4 ∨ month = 6 ∨ month = 9 ∨ month = 11 then 30
  else 31

def civilOfDays (days : Int) : Int × Int × Int :=
  let (y, mp, dd) := splitDays (days + 306)
  let month := if mp < 10 then mp + 3 else mp - 9
  (if month ≤ 2 then y + 1 else y, month, dd + 1)

def daysOfCivil (year month day : Int) : Int :=
  joinDays (if month ≤ 2 then year - 1 else year) (if month ≤ 2 then month + 9 else month - 3)
    (day - 1) - 306

theorem splitDays_parts (z : Int) : ∃ era cent quad yiq doy,
    0 ≤ cent ∧ cent ≤ 3 ∧ 0 ≤ quad ∧ quad ≤ 24 ∧ 0 ≤ yiq ∧ yiq ≤ 3 ∧ 0 ≤ doy ∧ doy ≤ 365 ∧
    (doy = 365 → yiq = 3 ∧ (quad < 24 ∨ cent = 3)) ∧
    (quad = 24 ∧ cent < 3 → doy ≤ 364 ∨ yiq < 3) ∧
    z = 146097 * era + 36524 * cent + 1461 * quad + 365 * yiq + doy ∧
    splitDays z = (400 * era + 100 * cent + 4 * quad + yiq, (5 * doy + 2) / 153,
      doy - (153 * ((5 * doy + 2) / 153) + 2) / 5) := by
  refine ⟨z / 146097, min (z % 146097 / 36524) 3,
    (z % 146097 - 36524 * min (z % 146097 / 36524) 3) / 1461,
    min ((z % 146097 - 36524 * min (z % 146097 / 36524) 3) % 1461 / 365) 3,
    (z % 146097 - 36524 * min (z % 146097 / 36524) 3) % 1461 -
      365 * min ((z % 146097 - 36524 * min (z % 146097 / 36524) 3) % 1461 / 365) 3,
    ?_, ?_, ?_, ?_, ?_, ?_, ?_, ?_, ?_, ?_, ?_, rfl⟩ <;> omega

theorem month_split (doy : Int) :
    (153 * ((5 * doy + 2) / 153) + 2) / 5 + (doy - (153 * ((5 * doy + 2) / 153) + 2) / 5) = doy := by
  omega

theorem joinDays_splitDays (z : Int) :
    joinDays (splitDays z).1 (splitDays z).2.1 (splitDays z).2.2 = z := by
  obtain ⟨era, cent, quad, yiq, doy, c0, c1, q0, q1, y0, y1, -, -, -, -, hz, hs⟩ := splitDays_parts z
  have e1 : (400 * era + 100 * cent + 4 * quad + yiq) / 400 = era := by omega
  have e2 : (400 * era + 100 * cent + 4 * quad + yiq) % 400 = 100 * cent + 4 * quad + yiq := by
    omega
  have e3 : (100 * cent + 4 * quad + yiq) / 4 = 25 * cent + quad := by omega
  have e4 : (100 * cent + 4 * quad + yiq) / 100 = cent := by omega
  have hm := month_split doy
  rw [hs]
  dsimp only
  rw [joinDays, e1, e2, e3, e4]
  omega

theorem daysOfCivil_civilOfDays (days : Int) :
    daysOfCivil (civilOfDays days).1 (civilOfDays days).2.1 (civilOfDays days).2.2 = days := by
  have h := joinDays_splitDays (days + 306)
  obtain ⟨era, cent, quad, yiq, doy, -, -, -, -, -, -, d0, d1, -, -, -, hs⟩ := splitDays_parts (days + 306)
  rw [hs] at h
  dsimp only at h
  have hmp : 0 ≤ (5 * doy + 2) / 153 ∧ (5 * doy + 2) / 153 ≤ 11 := by omega
  simp only [civilOfDays, daysOfCivil, hs]
  split_ifs <;> simp only [add_sub_cancel_right, sub_add_cancel] <;> omega

theorem civilOfDays_valid (days : Int) :
    1 ≤ (civilOfDays days).2.1 ∧ (civilOfDays days).2.1 ≤ 12 ∧ 1 ≤ (civilOfDays days).2.2 ∧
      (civilOfDays days).2.2 ≤ daysIn (civilOfDays days).2.1 (civilOfDays days).1 := by
  obtain ⟨era, cent, quad, yiq, doy, c0, c1, q0, q1, y0, y1, d0, d1, leap, noleap, -, hs⟩ :=
    splitDays_parts (days + 306)
  simp only [civilOfDays, hs, daysIn, isLeap]
  obtain ⟨m, hm⟩ : ∃ m, m = (5 * doy + 2) / 153 := ⟨_, rfl⟩
  rw [← hm]
  have hm0 : 0 ≤ m := by omega
  have hm1 : m ≤ 11 := by omega
  have hd : (153 * m + 2) / 5 ≤ doy ∧ doy < (153 * (m + 1) + 2) / 5 := by omega
  interval_cases m <;> simp <;> omega

end TiupPlayground
