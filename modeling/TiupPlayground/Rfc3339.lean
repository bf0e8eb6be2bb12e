import TiupPlayground.Calendar
import TiupPlayground.Text

/-!
Go's RFC 3339 text form of a `Time`: `Time.Format` with the layouts `RFC3339` and
`RFC3339Nano`, the checks `Time.MarshalJSON` adds, and the strict parser `time.Parse` and
`Time.UnmarshalJSON` run first. The
parser's fallback to the general layout parser is not modelled; it accepts a few more spellings
(a comma before the fraction, for one), none of which the formatter writes.
-/
namespace TiupPlayground

def nsPerSecond : Int := 1000000000

/-- `appendInt` of the time formatter: the sign, then the digits zero-padded to `width`. -/
def appendInt (x : Int) (width : Nat) : List Char :=
  (if x < 0 then ['-'] else []) ++
    (List.replicate (width - (Nat.toDigits 10 x.natAbs).length) '0' ++ Nat.toDigits 10 x.natAbs)

/-- `appendNano` for `.999999999`: nothing for a whole second, else the nine digits without
    their trailing zeros. -/
def appendNano (nsec : Int) : List Char :=
  if nsec = 0 then [] else
    '.' :: ((appendInt nsec 9).reverse.dropWhile (· = '0')).reverse

/-- The `Z07:00` zone of an offset in seconds; Go divides by 60 rounding toward zero. -/
def appendZone (offset : Int) : List Char :=
  if offset = 0 then ['Z']
  else
    let zone := offset.tdiv 60
    (if zone < 0 then '-' else '+') :: appendInt (zone.natAbs / 60) 2 ++
      ':' :: appendInt (zone.natAbs % 60) 2

/-- `t.Format(time.RFC3339)`, or `t.Format(time.RFC3339Nano)` when `nano` holds. -/
def formatRFC3339 (nano : Bool) (t : Time) : List Char :=
  let clock := t.ns + t.offset * nsPerSecond
  let secs := clock / nsPerSecond
  let (year, month, day) := civilOfDays (secs / 86400)
  let sod := secs % 86400
  appendInt year 4 ++ '-' :: appendInt month 2 ++ '-' :: appendInt day 2 ++ 'T' ::
    appendInt (sod / 3600) 2 ++ ':' :: appendInt (sod % 3600 / 60) 2 ++ ':' ::
    appendInt (sod % 60) 2 ++ (if nano then appendNano (clock % nsPerSecond) else []) ++
    appendZone t.offset

/-- `parseUint` of `parseRFC3339`: only digits, and a value within the bounds. -/
def parseUint (s : List Char) (lo hi : Int) : Option Int :=
  if s.all isDigit then
    if lo ≤ digitsValue s ∧ (digitsValue s : Int) ≤ hi then some (digitsValue s) else none
  else none

/-- `parseNanoseconds` for a `.` and `n - 1` digits: the first nine digits, scaled. -/
def parseNanoseconds (digits : List Char) : Int :=
  digitsValue (digits.take 9) * 10 ^ (9 - min digits.length 9)

/-- The fractional second `parseRFC3339` reads after the seconds, and what follows it. -/
def splitFraction (s : List Char) : Int × List Char :=
  match s with
  | '.' :: d :: rest =>
    if isDigit d then
      let digits := d :: rest.takeWhile isDigit
      (parseNanoseconds digits, rest.dropWhile isDigit)
    else (0, s)
  | _ => (0, s)

/-- The zone offset `parseRFC3339` reads: `Z`, or a sign, two hour and two minute digits. -/
def parseZone (s : List Char) : Option Int :=
  if s = ['Z'] then some 0
  else
    match s with
    | [sign, h1, h2, ':', m1, m2] => do
      let hr ← parseUint [h1, h2] 0 23
      let mm ← parseUint [m1, m2] 0 59
      if sign = '-' then some (-((hr * 60 + mm) * 60))
      else if sign = '+' then some ((hr * 60 + mm) * 60)
      else none
    | _ => none

/-- Go's `parseRFC3339`. -/
def parseRFC3339 (s : List Char) : Option Time :=
  match s with
  | y1 :: y2 :: y3 :: y4 :: c1 :: mo1 :: mo2 :: c2 :: d1 :: d2 :: c3 :: h1 :: h2 :: c4 ::
      mi1 :: mi2 :: c5 :: s1 :: s2 :: rest => do
    let year ← parseUint [y1, y2, y3, y4] 0 9999
    let month ← parseUint [mo1, mo2] 1 12
    let day ← parseUint [d1, d2] 1 (daysIn month year)
    let hour ← parseUint [h1, h2] 0 23
    let minute ← parseUint [mi1, mi2] 0 59
    let sec ← parseUint [s1, s2] 0 59
    if c1 = '-' ∧ c2 = '-' ∧ c3 = 'T' ∧ c4 = ':' ∧ c5 = ':' then
      let (nsec, zone) := splitFraction rest
      let offset ← parseZone zone
      let secs := daysOfCivil year month day * 86400 + hour * 3600 + minute * 60 + sec - offset
      some ⟨secs * nsPerSecond + nsec, offset⟩
    else none
  | _ => none

theorem digitsValue_replicate_zero (k : Nat) (ds : List Char) :
    digitsValue (List.replicate k '0' ++ ds) = digitsValue ds := by
  induction k with
  | zero => rfl
  | succ k ih => simpa [digitsValue, List.replicate_succ] using ih

theorem appendInt_spec {x : Int} {w : Nat} (hw : 0 < w) (h0 : 0 ≤ x) (h1 : x < 10 ^ w) :
    (appendInt x w).length = w ∧ (appendInt x w).all isDigit = true ∧
      (digitsValue (appendInt x w) : Int) = x := by
  obtain ⟨-, all, val⟩ := toDigits_spec x.natAbs
  have hlen : (Nat.toDigits 10 x.natAbs).length ≤ w :=
    Nat.toDigitsCore_length 10 (by norm_num) _ _ w (by zify; rwa [abs_of_nonneg h0]) hw
  simp only [appendInt, show ¬ x < 0 by omega, ↓reduceIte, List.nil_append,
    digitsValue_replicate_zero, val]
  exact ⟨by simp; omega, by simp [all]; exact .inr (by decide), by omega⟩

theorem parseUint_appendInt {x : Int} {w : Nat} (hw : 0 < w) (h0 : 0 ≤ x) (h1 : x < 10 ^ w)
    {lo hi : Int} (hlo : lo ≤ x) (hhi : x ≤ hi) : parseUint (appendInt x w) lo hi = some x := by
  obtain ⟨-, all, val⟩ := appendInt_spec hw h0 h1
  simp [parseUint, all, val, hlo, hhi]

theorem appendInt_two {x : Int} (h0 : 0 ≤ x) (h1 : x ≤ 99) : ∃ a b, appendInt x 2 = [a, b] ∧
    ∀ {lo hi : Int}, lo ≤ x → x ≤ hi → parseUint [a, b] lo hi = some x := by
  obtain ⟨a, b, e⟩ := List.length_eq_two.1 (appendInt_spec (w := 2) (by norm_num) h0 (by omega)).1
  exact ⟨a, b, e, fun hlo hhi => e ▸ parseUint_appendInt (by norm_num) h0 (by omega) hlo hhi⟩

theorem appendInt_four {x : Int} (h0 : 0 ≤ x) (h1 : x ≤ 9999) : ∃ a b c d,
    appendInt x 4 = [a, b, c, d] ∧ parseUint [a, b, c, d] 0 9999 = some x := by
  have hp := parseUint_appendInt (w := 4) (by norm_num) h0 (by omega) h0 h1
  match e : appendInt x 4, (appendInt_spec (w := 4) (by norm_num) h0 (by omega)).1 with
  | [a, b, c, d], _ => exact ⟨a, b, c, d, rfl, e ▸ hp⟩

theorem daysIn_le (month year : Int) : daysIn month year ≤ 31 := by
  unfold daysIn; split_ifs <;> omega

theorem parseRFC3339_dateTime {y m d hh mm ss : Int} (hy : 0 ≤ y ∧ y ≤ 9999)
    (hm : 1 ≤ m ∧ m ≤ 12) (hd : 1 ≤ d ∧ d ≤ daysIn m y) (hhr : 0 ≤ hh ∧ hh ≤ 23)
    (hmm : 0 ≤ mm ∧ mm ≤ 59) (hss : 0 ≤ ss ∧ ss ≤ 59) (rest : List Char) :
    parseRFC3339 (appendInt y 4 ++ '-' :: appendInt m 2 ++ '-' :: appendInt d 2 ++ 'T' ::
      appendInt hh 2 ++ ':' :: appendInt mm 2 ++ ':' :: appendInt ss 2 ++ rest) =
      (parseZone (splitFraction rest).2).map fun offset =>
        ⟨(daysOfCivil y m d * 86400 + hh * 3600 + mm * 60 + ss - offset) * nsPerSecond +
          (splitFraction rest).1, offset⟩ := by
  have := daysIn_le m y
  obtain ⟨y1, y2, y3, y4, ey, py⟩ := appendInt_four hy.1 hy.2
  obtain ⟨m1, m2, em, pm⟩ := appendInt_two (x := m) (by omega) (by omega)
  obtain ⟨d1, d2, ed, pd⟩ := appendInt_two (x := d) (by omega) (by omega)
  obtain ⟨h1, h2, eh, ph⟩ := appendInt_two (x := hh) (by omega) (by omega)
  obtain ⟨i1, i2, ei, pi⟩ := appendInt_two (x := mm) (by omega) (by omega)
  obtain ⟨s1, s2, es, ps⟩ := appendInt_two (x := ss) (by omega) (by omega)
  rw [ey, em, ed, eh, ei, es]
  simp only [List.cons_append, List.nil_append, parseRFC3339, py, pm hm.1 hm.2, pd hd.1 hd.2,
    ph hhr.1 hhr.2, pi hmm.1 hmm.2, ps hss.1 hss.2, Option.bind_eq_bind, Option.some_bind]
  rcases parseZone (splitFraction rest).2 <;> rfl

def Time.utcYear (t : Time) : Int := (civilOfDays (t.ns / nsPerSecond / 86400)).1

theorem formatRFC3339_utc (t : Time) :
    let secs := t.ns / nsPerSecond
    let date := civilOfDays (secs / 86400)
    let sod := secs % 86400
    formatRFC3339 false t.utc = appendInt date.1 4 ++ '-' :: appendInt date.2.1 2 ++ '-' ::
      appendInt date.2.2 2 ++ 'T' :: appendInt (sod / 3600) 2 ++ ':' ::
      appendInt (sod % 3600 / 60) 2 ++ ':' :: appendInt (sod % 60) 2 ++ ['Z'] := by
  simp [formatRFC3339, appendZone, Time.utc]

theorem appendInt_noSpace (x : Int) (w : Nat) : ∀ c ∈ appendInt x w, isSpace c = false := by
  obtain ⟨-, all, -⟩ := toDigits_spec x.natAbs
  intro c hc
  simp only [appendInt, List.mem_append, List.mem_replicate] at hc
  rcases hc with hc | ⟨-, rfl⟩ | hc
  · split at hc <;> simp_all; decide
  · decide
  · exact isSpace_digit (List.all_eq_true.1 all c hc)

theorem formatRFC3339_utc_noSpace (t : Time) : ∀ c ∈ formatRFC3339 false t.utc, isSpace c = false := by
  rw [formatRFC3339_utc]
  simp only [List.forall_mem_append, List.forall_mem_cons, List.not_mem_nil, IsEmpty.forall_iff,
    implies_true, and_true]
  repeat' constructor
  all_goals exact appendInt_noSpace _ _

theorem parseRFC3339_formatUTC (t : Time) (hy : 0 ≤ t.utcYear ∧ t.utcYear ≤ 9999) :
    parseRFC3339 (formatRFC3339 false t.utc) = some ⟨t.ns / nsPerSecond * nsPerSecond, 0⟩ := by
  have hv := civilOfDays_valid (t.ns / nsPerSecond / 86400)
  have hdays := daysOfCivil_civilOfDays (t.ns / nsPerSecond / 86400)
  rw [Time.utcYear] at hy
  rw [formatRFC3339_utc, parseRFC3339_dateTime hy ⟨hv.1, hv.2.1⟩ hv.2.2 (by omega) (by omega)
    (by omega) ['Z']]
  have hsod := Int.ediv_add_emod (t.ns / nsPerSecond) 86400
  generalize civilOfDays (t.ns / nsPerSecond / 86400) = c at *
  rw [show parseZone (splitFraction ['Z']).2 = some 0 from rfl, Option.map_some',
    show (splitFraction ['Z']).1 = 0 from rfl, Option.some.injEq, Time.mk.injEq, nsPerSecond]
  rw [nsPerSecond] at hsod hdays
  omega

theorem digitsValue_append (a b : List Char) :
    digitsValue (a ++ b) = digitsValue a * 10 ^ b.length + digitsValue b := by
  have step : ∀ n, b.foldl (fun n c => 10 * n + (c.toNat - 48)) n =
      n * 10 ^ b.length + digitsValue b := by
    induction b with
    | nil => simp [digitsValue]
    | cons c b ih =>
      intro n
      simp only [List.foldl_cons, digitsValue, List.length_cons] at *
      rw [ih, ih (10 * 0 + _)]
      ring
  simp only [digitsValue, List.foldl_append]
  exact step _

theorem appendZone_head (o : Int) : ∃ c z, appendZone o = c :: z ∧ isDigit c = false ∧ c ≠ '.' := by
  unfold appendZone
  split_ifs
  · exact ⟨_, _, rfl, by decide, by decide⟩
  · refine ⟨_, _, rfl, ?_, ?_⟩ <;> split <;> decide

theorem splitFraction_of_head {c : Char} (hc : c ≠ '.') (s : List Char) :
    splitFraction (c :: s) = (0, c :: s) := by
  unfold splitFraction; split
  · rename_i h; simp only [List.cons.injEq] at h; exact absurd h.1 hc
  · rfl

theorem splitFraction_appendNano {n : Int} (h0 : 0 ≤ n) (h1 : n < nsPerSecond) (o : Int) :
    splitFraction (appendNano n ++ appendZone o) = (n, appendZone o) := by
  obtain ⟨c, z, hz, hcd, hcdot⟩ := appendZone_head o
  rw [hz]
  by_cases hn : n = 0
  · simp only [appendNano, hn, if_true, List.nil_append, splitFraction_of_head hcdot]
  obtain ⟨hlen, hall, hval⟩ := appendInt_spec (w := 9) (by norm_num) h0 (by rw [nsPerSecond] at h1; omega)
  have happ : appendNano n = '.' :: (List.dropWhile (· = '0') (appendInt n 9).reverse).reverse := by
    simp [appendNano, hn]
  rw [happ]
  generalize appendInt n 9 = ds at hlen hall hval
  have hsplit := List.takeWhile_append_dropWhile (· = '0') ds.reverse
  have hzeros : ∀ x ∈ ds.reverse.takeWhile (· = '0'), x = '0' := fun x hx => by
    simpa using List.mem_takeWhile_imp hx
  generalize ds.reverse.takeWhile (· = '0') = t at hsplit hzeros
  generalize ds.reverse.dropWhile (· = '0') = d at hsplit
  have hds : ds = d.reverse ++ List.replicate t.length '0' := by
    rw [← List.eq_replicate_iff.2 ⟨List.length_reverse t, fun x hx => hzeros x (List.mem_reverse.1 hx)⟩,
      ← List.reverse_append, hsplit, List.reverse_reverse]
  have hlens : d.length + t.length = 9 := by
    rw [← hlen, hds]; simp
  have hdall : ∀ x ∈ d.reverse, isDigit x = true := fun x hx =>
    List.all_eq_true.1 hall x (hds ▸ List.mem_append_left _ hx)
  have hz0 : digitsValue (List.replicate t.length '0') = 0 := by
    simpa using digitsValue_replicate_zero t.length []
  rw [hds, digitsValue_append, List.length_replicate, hz0, Nat.add_zero] at hval
  obtain ⟨x, xs, hx⟩ : ∃ x xs, d.reverse = x :: xs := by
    refine List.exists_cons_of_ne_nil fun h => hn ?_
    rw [h] at hval; simpa [digitsValue] using hval.symm
  rw [hx] at hdall hval
  have hxd : isDigit x = true := hdall x (List.mem_cons_self _ _)
  have hlx : (x :: xs).length = d.length := by rw [← hx, List.length_reverse]
  rw [hx]
  simp only [List.cons_append, splitFraction, hxd, if_true,
    List.takeWhile_append_of_pos fun a ha => hdall a (List.mem_cons_of_mem x ha),
    List.dropWhile_append_of_pos fun a ha => hdall a (List.mem_cons_of_mem x ha),
    List.takeWhile_cons, List.dropWhile_cons, hcd, Bool.false_eq_true, ↓reduceIte, List.append_nil]
  rw [Prod.mk.injEq, parseNanoseconds, List.take_of_length_le (by omega), ← hval,
    show 9 - min (x :: xs).length 9 = t.length by omega]
  exact ⟨by push_cast; ring, rfl⟩

theorem parseZone_appendZone {o : Int} (hm : o % 60 = 0) (hh : o.natAbs < 86400) :
    parseZone (appendZone o) = some o := by
  by_cases ho : o = 0
  · subst ho; rfl
  obtain ⟨k, rfl⟩ : ∃ k, o = 60 * k := ⟨o / 60, by omega⟩
  obtain ⟨h1, h2, eh, ph⟩ := appendInt_two (x := (k.natAbs : Int) / 60) (by omega) (by omega)
  obtain ⟨m1, m2, em, pm⟩ := appendInt_two (x := (k.natAbs : Int) % 60) (by omega) (by omega)
  simp only [appendZone, ho, if_false, Int.mul_tdiv_cancel_left k (by norm_num : (60 : Int) ≠ 0),
    eh, em, List.cons_append, List.nil_append]
  by_cases hk : k < 0
  · simp [parseZone, hk, @ph 0 23 (by omega) (by omega), @pm 0 59 (by omega) (by omega),
      abs_of_neg hk]
    omega
  · simp [parseZone, hk, @ph 0 23 (by omega) (by omega), @pm 0 59 (by omega) (by omega),
      abs_of_nonneg (not_lt.1 hk)]
    omega

/-- The year of a time's date in its own zone, the year `Format` writes. -/
def Time.localYear (t : Time) : Int :=
  (civilOfDays ((t.ns + t.offset * nsPerSecond) / nsPerSecond / 86400)).1

theorem formatRFC3339_eq (nano : Bool) (t : Time) :
    let clock := t.ns + t.offset * nsPerSecond
    let secs := clock / nsPerSecond
    let date := civilOfDays (secs / 86400)
    let sod := secs % 86400
    formatRFC3339 nano t = appendInt date.1 4 ++ '-' :: appendInt date.2.1 2 ++ '-' ::
      appendInt date.2.2 2 ++ 'T' :: appendInt (sod / 3600) 2 ++ ':' ::
      appendInt (sod % 3600 / 60) 2 ++ ':' :: appendInt (sod % 60) 2 ++
      ((if nano then appendNano (clock % nsPerSecond) else []) ++ appendZone t.offset) := by
  simp [formatRFC3339]

theorem parseRFC3339_formatNano (t : Time) (hy : 0 ≤ t.localYear ∧ t.localYear ≤ 9999)
    (hm : t.offset % 60 = 0) (hh : t.offset.natAbs < 86400) :
    parseRFC3339 (formatRFC3339 true t) = some t := by
  have hv := civilOfDays_valid ((t.ns + t.offset * nsPerSecond) / nsPerSecond / 86400)
  have hdays := daysOfCivil_civilOfDays ((t.ns + t.offset * nsPerSecond) / nsPerSecond / 86400)
  rw [Time.localYear] at hy
  rw [formatRFC3339_eq, if_pos rfl, parseRFC3339_dateTime hy ⟨hv.1, hv.2.1⟩ hv.2.2 (by omega)
    (by omega) (by omega), splitFraction_appendNano (by rw [nsPerSecond]; omega) (by rw [nsPerSecond]; omega),
    parseZone_appendZone hm hh, Option.map_some']
  have hsod := Int.ediv_add_emod ((t.ns + t.offset * nsPerSecond) / nsPerSecond) 86400
  have hclock := Int.ediv_add_emod (t.ns + t.offset * nsPerSecond) nsPerSecond
  generalize civilOfDays ((t.ns + t.offset * nsPerSecond) / nsPerSecond / 86400) = c at *
  rw [Option.some.injEq]
  rw [nsPerSecond] at *
  cases t
  simp only [Time.mk.injEq, and_true] at *
  omega

theorem formatRFC3339_zone (nano : Bool) (t : Time) :
    ∃ p, formatRFC3339 nano t = p ++ appendZone t.offset := by
  rw [formatRFC3339_eq]
  simp only [← List.cons_append, ← List.append_assoc]
  exact ⟨_, rfl⟩

/-- `appendStrictRFC3339` with `RFC3339Nano`: the text, unless its year is not four digits wide
    or its zone hour is not below 24. -/
def appendStrictRFC3339 (t : Time) : Except String (List Char) :=
  let b := formatRFC3339 true t
  let n := b.length
  if b.getD 4 ' ' ≠ '-' then .error "year outside of range [0,9999]"
  else if b.getLast? ≠ some 'Z' ∧
      (isDigit (b.getD (n - 6) ' ') ∨
        24 ≤ 10 * ((b.getD (n - 5) '0').toNat - 48) + ((b.getD (n - 4) '0').toNat - 48)) then
    .error "timezone hour outside of range [0,23]"
  else .ok b

theorem appendStrictRFC3339_ok (t : Time) (hy : 0 ≤ t.localYear ∧ t.localYear ≤ 9999)
    (hh : t.offset.natAbs < 86400) : appendStrictRFC3339 t = .ok (formatRFC3339 true t) := by
  obtain ⟨y1, y2, y3, y4, ey, -⟩ := appendInt_four hy.1 hy.2
  have hyear : (formatRFC3339 true t).getD 4 ' ' = '-' := by
    rw [Time.localYear] at ey; rw [formatRFC3339_eq]; simp only [ey]; rfl
  obtain ⟨p, hp⟩ := formatRFC3339_zone true t
  unfold appendStrictRFC3339
  rw [if_neg (not_not.2 hyear), if_neg]
  rw [hp]
  by_cases ho : t.offset = 0
  · simp [ho, appendZone]
  have htd : (t.offset.tdiv 60).natAbs = t.offset.natAbs / 60 := Int.natAbs_tdiv _ _
  obtain ⟨hl, -, hv⟩ := appendInt_spec (w := 2) (x := ((t.offset.tdiv 60).natAbs : Int) / 60)
    (by norm_num) (by omega) (by omega)
  obtain ⟨h1, h2, eh⟩ := List.length_eq_two.1 hl
  rw [eh] at hv
  simp only [digitsValue, List.foldl_cons, List.foldl_nil] at hv
  obtain ⟨m1, m2, em, -⟩ := appendInt_two (x := ((t.offset.tdiv 60).natAbs : Int) % 60)
    (by omega) (by omega)
  have hz : appendZone t.offset =
      [if t.offset.tdiv 60 < 0 then '-' else '+', h1, h2, ':', m1, m2] := by
    simp only [appendZone, ho, if_false, Int.reduceNeg, eh, em, List.cons_append, List.nil_append]
  have hsd : isDigit (if t.offset.tdiv 60 < 0 then '-' else '+') = false := by split <;> decide
  rw [hz]
  have hnum : 10 * (h1.toNat - 48) + (h2.toNat - 48) < 24 := by omega
  simp only [List.length_append, List.length_cons, List.length_nil, List.getLast?_append,
    List.getLast?_cons_cons, List.getLast?_singleton]
  rw [List.getD_append_right _ _ _ _ (by omega), List.getD_append_right _ _ _ _ (by omega),
    List.getD_append_right _ _ _ _ (by omega)]
  simp [hsd, hnum]

/-- `Time.MarshalJSON`: the strict RFC 3339 text in quotes. -/
def marshalTime (t : Time) : Except String (List Char) :=
  match appendStrictRFC3339 t with
  | .ok b => .ok ('"' :: b ++ ['"'])
  | .error err => .error ("Time.MarshalJSON: " ++ err)

theorem appendStrictRFC3339_eq {t : Time} {b : List Char} (h : appendStrictRFC3339 t = .ok b) :
    b = formatRFC3339 true t := by
  unfold appendStrictRFC3339 at h
  dsimp only at h
  split_ifs at h
  exact (Except.ok.inj h).symm

theorem marshalTime_eq {t : Time} {b : List Char} (h : marshalTime t = .ok b) :
    b = '"' :: formatRFC3339 true t ++ ['"'] := by
  unfold marshalTime at h
  split at h
  · rename_i hb
    rw [← appendStrictRFC3339_eq hb]
    exact (Except.ok.inj h).symm
  · cases h

/-! ### The characters of the text -/

def isTimeChar (c : Char) : Bool :=
  isDigit c || c = '-' || c = 'T' || c = ':' || c = '.' || c = 'Z' || c = '+'

theorem appendInt_timeChars (x : Int) (w : Nat) : ∀ c ∈ appendInt x w, isTimeChar c = true := by
  obtain ⟨-, all, -⟩ := toDigits_spec x.natAbs
  intro c hc
  simp only [appendInt, List.mem_append, List.mem_replicate] at hc
  rcases hc with hc | ⟨-, rfl⟩ | hc
  · split at hc <;> simp_all [isTimeChar]
  · rfl
  · simp [isTimeChar, List.all_eq_true.1 all c hc]

theorem appendNano_timeChars (n : Int) : ∀ c ∈ appendNano n, isTimeChar c = true := by
  intro c hc
  simp only [appendNano] at hc
  split at hc
  · simp at hc
  · rcases List.mem_cons.1 hc with rfl | hc
    · rfl
    · exact appendInt_timeChars n 9 c
        (List.mem_reverse.1 ((List.dropWhile_sublist _).subset (List.mem_reverse.1 hc)))

theorem appendZone_timeChars (o : Int) : ∀ c ∈ appendZone o, isTimeChar c = true := by
  intro c hc
  unfold appendZone at hc
  by_cases ho : o = 0
  · simp only [ho, if_true, List.mem_singleton] at hc
    subst hc
    decide
  · simp only [ho, if_false, List.mem_cons, List.mem_append] at hc
    rcases hc with (rfl | hc) | rfl | hc
    · split <;> decide
    · exact appendInt_timeChars _ _ c hc
    · decide
    · exact appendInt_timeChars _ _ c hc

theorem formatRFC3339_timeChars (nano : Bool) (t : Time) :
    ∀ c ∈ formatRFC3339 nano t, isTimeChar c = true := by
  rw [formatRFC3339_eq]
  simp only [List.forall_mem_append, List.forall_mem_cons]
  repeat' constructor
  all_goals first
    | exact appendInt_timeChars _ _
    | decide
    | exact appendZone_timeChars _
    | split
      · exact appendNano_timeChars _
      · simp

end TiupPlayground
