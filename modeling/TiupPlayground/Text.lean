import TiupPlayground.Time
import Mathlib.Data.List.DropRight

/-!
The string functions of Go's standard library that the runtime-file code relies on, over
strings as lists of Unicode characters: `strings.TrimSpace`, `strings.Split` on a newline,
`strconv.Atoi` and the decimal rendering of `%d`. File contents are taken to be valid UTF-8.
-/
namespace TiupPlayground

/-- `unicode.IsSpace`. -/
def isSpace (c : Char) : Bool :=
  c.toNat = 9 || c.toNat = 10 || c.toNat = 11 || c.toNat = 12 || c.toNat = 13 || c.toNat = 32 ||
  c.toNat = 0x85 || c.toNat = 0xA0 || c.toNat = 0x1680 || (0x2000 ≤ c.toNat && c.toNat ≤ 0x200A) ||
  c.toNat = 0x2028 || c.toNat = 0x2029 || c.toNat = 0x202F || c.toNat = 0x205F || c.toNat = 0x3000

/-- `strings.TrimSpace`: `TrimLeftFunc`, then `TrimRightFunc`, with `unicode.IsSpace`. -/
def trimSpace (s : List Char) : List Char := (s.dropWhile isSpace).rdropWhile isSpace

def isDigit (c : Char) : Bool := 48 ≤ c.toNat && c.toNat ≤ 57

def digitsValue (ds : List Char) : Nat := ds.foldl (fun n c => 10 * n + (c.toNat - 48)) 0

/-- The sign `Atoi` accepts in front of the digits. -/
def splitSign : List Char → Bool × List Char
  | '-' :: ds => (true, ds)
  | '+' :: ds => (false, ds)
  | ds => (false, ds)

/-- `strconv.Atoi` on a 64-bit platform: an optional sign, at least one digit, a value within
    the int64 range. -/
def atoi (s : List Char) : Option Int :=
  let ds := (splitSign s).2
  if ds = [] ∨ ds.all isDigit = false then none
  else
    let x : Int := if (splitSign s).1 then -(digitsValue ds : Int) else digitsValue ds
    if minInt64 ≤ x ∧ x ≤ maxInt64 then some x else none

/-- `%d` of an integer. -/
def formatInt (x : Int) : List Char :=
  (if x < 0 then ['-'] else []) ++ Nat.toDigits 10 x.natAbs

theorem isSpace_digit {c : Char} (h : isDigit c = true) : isSpace c = false := by
  simp only [isDigit, Bool.and_eq_true, decide_eq_true_eq] at h
  simp only [isSpace, Bool.or_eq_false_iff, decide_eq_false_iff_not, Bool.and_eq_false_imp,
    decide_eq_true_eq]
  omega

theorem rdropWhile_cons (p : Char → Bool) (c : Char) (l : List Char) :
    (c :: l).rdropWhile p = if p c ∧ l.rdropWhile p = [] then [] else c :: l.rdropWhile p := by
  rw [← List.singleton_append, List.rdropWhile, List.reverse_append, List.dropWhile_append]
  by_cases hl : l.rdropWhile p = []
  · have : (l.reverse.dropWhile p).isEmpty := by simpa [List.rdropWhile] using hl
    rw [if_pos this, hl]
    by_cases hc : p c <;> simp [hc]
  · have : (l.reverse.dropWhile p).isEmpty = false := by simpa [List.rdropWhile] using hl
    rw [if_neg (by simp [this]), if_neg fun h => hl h.2]
    simp [List.rdropWhile]

theorem dropWhile_rdropWhile (p : Char → Bool) (l : List Char) :
    (l.rdropWhile p).dropWhile p = (l.dropWhile p).rdropWhile p := by
  induction l with
  | nil => rfl
  | cons c l ih =>
    rw [rdropWhile_cons]
    by_cases hc : p c
    · by_cases hl : l.rdropWhile p = []
      · simp [hc, hl, ← ih]
      · simp [hc, hl, ih]
    · simp [hc, rdropWhile_cons]

theorem trimSpace_rdropWhile (l : List Char) : trimSpace (l.rdropWhile isSpace) = trimSpace l := by
  rw [trimSpace, dropWhile_rdropWhile, List.rdropWhile_idempotent, trimSpace]

theorem trimSpace_cons {c : Char} (hc : isSpace c = false) (l : List Char) :
    trimSpace (c :: l) = c :: l.rdropWhile isSpace := by
  simp [trimSpace, hc, rdropWhile_cons]

theorem rdropWhile_append_of_forall {p : Char → Bool} {k : List Char} (hk : ∀ c ∈ k, p c = false)
    (l : List Char) : (k ++ l).rdropWhile p = k ++ l.rdropWhile p := by
  induction k with
  | nil => rfl
  | cons c k ih =>
    rw [List.cons_append, rdropWhile_cons, if_neg (by simp [hk c (List.mem_cons_self c k)]),
      ih fun d hd => hk d (List.mem_cons_of_mem c hd), List.cons_append]

theorem trimSpace_append_of_forall {k : List Char} (hk : ∀ c ∈ k, isSpace c = false) (hne : k ≠ [])
    (l : List Char) : trimSpace (k ++ l) = k ++ l.rdropWhile isSpace := by
  obtain ⟨c, k, rfl⟩ := List.exists_cons_of_ne_nil hne
  rw [List.cons_append, trimSpace_cons (hk c (List.mem_cons_self c k)),
    rdropWhile_append_of_forall fun d hd => hk d (List.mem_cons_of_mem c hd), List.cons_append]

theorem trimSpace_of_forall {l : List Char} (h : ∀ c ∈ l, isSpace c = false) : trimSpace l = l := by
  cases l with
  | nil => rfl
  | cons c l =>
    rw [trimSpace_cons (h c (List.mem_cons_self c l)), List.rdropWhile_eq_self_iff.2 fun hl => by
      simpa using h _ (List.mem_cons_of_mem c (List.getLast_mem hl))]

theorem toDigitsCore_append (fuel n : Nat) (ds : List Char) (h : n < fuel) :
    Nat.toDigitsCore 10 fuel n ds = Nat.toDigitsCore 10 fuel n [] ++ ds := by
  induction fuel generalizing n ds with
  | zero => omega
  | succ fuel ih =>
    simp only [Nat.toDigitsCore]
    split
    · rfl
    · rw [ih _ _ (by omega), ih _ [_] (by omega), List.append_assoc, List.singleton_append]

theorem digitChar_isDigit {d : Nat} (h : d < 10) : isDigit (Nat.digitChar d) = true := by
  interval_cases d <;> decide

theorem digitChar_value {d : Nat} (h : d < 10) : (Nat.digitChar d).toNat - 48 = d := by
  interval_cases d <;> decide

theorem digitsValue_append_digit (ds : List Char) (c : Char) :
    digitsValue (ds ++ [c]) = 10 * digitsValue ds + (c.toNat - 48) := by
  simp [digitsValue, List.foldl_append]

theorem toDigitsCore_spec (fuel n : Nat) (h : n < fuel) :
    Nat.toDigitsCore 10 fuel n [] ≠ [] ∧ (Nat.toDigitsCore 10 fuel n []).all isDigit = true ∧
      digitsValue (Nat.toDigitsCore 10 fuel n []) = n := by
  induction fuel generalizing n with
  | zero => omega
  | succ fuel ih =>
    have hd := digitChar_isDigit (Nat.mod_lt n (by norm_num : 10 > 0))
    have hv := digitChar_value (Nat.mod_lt n (by norm_num : 10 > 0))
    simp only [Nat.toDigitsCore]
    split
    · refine ⟨List.cons_ne_nil _ _, by simp [hd], ?_⟩
      simp only [digitsValue, List.foldl_cons, List.foldl_nil]
      omega
    · rw [toDigitsCore_append _ _ _ (by omega)]
      obtain ⟨-, all, val⟩ := ih (n / 10) (by omega)
      refine ⟨by simp, by simp [all, hd], ?_⟩
      rw [digitsValue_append_digit, val, hv]
      omega

theorem toDigits_spec (n : Nat) :
    Nat.toDigits 10 n ≠ [] ∧ (Nat.toDigits 10 n).all isDigit = true ∧
      digitsValue (Nat.toDigits 10 n) = n :=
  toDigitsCore_spec _ n (Nat.lt_succ_self n)

theorem splitSign_digit {c : Char} (hc : isDigit c = true) (cs : List Char) :
    splitSign (c :: cs) = (false, c :: cs) := by
  unfold splitSign
  split
  · rename_i h; simp only [List.cons.injEq] at h; rw [h.1] at hc; exact absurd hc (by decide)
  · rename_i h; simp only [List.cons.injEq] at h; rw [h.1] at hc; exact absurd hc (by decide)
  · rfl

theorem atoi_digits {ds : List Char} (ne : ds ≠ []) (all : ds.all isDigit = true)
    (h : digitsValue ds ≤ maxInt64) : atoi ds = some (digitsValue ds : Int) := by
  obtain ⟨c, cs, rfl⟩ := List.exists_cons_of_ne_nil ne
  have hc : isDigit c = true := by simp at all; exact all.1
  simp only [atoi, splitSign_digit hc, all]
  simp [h, minInt64]
  omega

theorem formatInt_natCast (n : Nat) : formatInt (n : Int) = Nat.toDigits 10 n := by
  simp [formatInt]

theorem atoi_formatInt {x : Int} (h0 : minInt64 ≤ x) (h1 : x ≤ maxInt64) :
    atoi (formatInt x) = some x := by
  obtain ⟨ne, all, val⟩ := toDigits_spec x.natAbs
  by_cases hx : x < 0
  · have hne : (Nat.toDigits 10 x.natAbs = []) = False := eq_false ne
    simp only [formatInt, hx, if_true, List.singleton_append, atoi, splitSign, hne, all,
      false_or, not_true_eq_false, if_false, val]
    have hx' : -(x.natAbs : Int) = x := by omega
    rw [if_neg (by decide), hx', if_pos ⟨h0, h1⟩]
  · simp only [formatInt, hx, if_false, List.nil_append]
    rw [atoi_digits ne all (by omega), val]
    congr 1
    omega

end TiupPlayground
