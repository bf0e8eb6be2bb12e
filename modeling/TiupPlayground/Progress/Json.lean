import TiupPlayground.Text

/-!
The part of Go's `encoding/json` the event log relies on, over text as a list of Unicode
characters: a line of the log is valid UTF-8, since every string the encoder writes is.

Writing: `appendString` quotes a string with `escapeHTML` on, as `json.NewEncoder` does; arrays
and objects are written with no white space.

Reading: `json.Unmarshal` first runs its scanner over the whole input (`checkValid`), then
decodes. `parseValue` does both at once: it follows the scanner from state to state and builds
the value the decoder then walks. Strings keep their raw text, which `unquote` decodes as the
decoder's `unquoteBytes` does; numbers keep their literal. A syntax error carries the character
the scanner stopped at, with the scanner's words for where it was; its byte offset is not
modelled, and a character stands for the byte Go reports.
-/
namespace TiupPlayground

/-! ### Writing -/

/-- What `appendString` writes for one character with `escapeHTML` set: `\"` and `\\`, the
    short escapes of Go 1.22, `\u00XX` for the other control characters and for `<`, `>` and
    `&`, and U+2028 and U+2029. Every other character is written as it is. -/
def escapeChar (c : Char) : List Char :=
  if c = '\\' ∨ c = '"' then ['\\', c]
  else if c = '\x08' then ['\\', 'b']
  else if c = '\x0c' then ['\\', 'f']
  else if c = '\n' then ['\\', 'n']
  else if c = '\r' then ['\\', 'r']
  else if c = '\t' then ['\\', 't']
  else if c.toNat < 0x20 ∨ c = '<' ∨ c = '>' ∨ c = '&' then
    ['\\', 'u', '0', '0', Nat.digitChar (c.toNat / 16), Nat.digitChar (c.toNat % 16)]
  else if c = '\u2028' ∨ c = '\u2029' then ['\\', 'u', '2', '0', '2', Nat.digitChar (c.toNat % 16)]
  else [c]

/-- `appendString`: the string in quotes, each character escaped. -/
def appendString (s : List Char) : List Char := '"' :: s.flatMap escapeChar ++ ['"']

/-- Encoded elements, each after a `,` but the first. -/
def joinElements : List (List Char) → List Char
  | [] => []
  | t :: ts => t ++ ts.flatMap (',' :: ·)

def encodeArray (items : List (List Char)) : List Char := '[' :: joinElements items ++ [']']

/-- A member of an object: the quoted key, a `:`, the encoded value. -/
def encodeMember (m : List Char × List Char) : List Char := appendString m.1 ++ ':' :: m.2

def encodeObject (members : List (List Char × List Char)) : List Char :=
  '{' :: joinElements (members.map encodeMember) ++ ['}']

/-! ### Reading -/

/-- A syntax error of the scanner: the character it stopped at and its words for where it was,
    or the end of the input while a value is open. At the end of the input the scanner reads one
    more space, so a literal, number or escape cut short stops at a space. -/
inductive SyntaxError where
  | invalidChar (c : Char) (context : String)
  | unexpectedEnd
  deriving DecidableEq, Repr

/-- A JSON value as the decoder walks it: a string as its raw text between the quotes, a number
    as its literal. -/
inductive JValue where
  | null
  | bool (b : Bool)
  | number (literal : List Char)
  | string (raw : List Char)
  | array (elems : List JValue)
  | object (members : List (List Char × JValue))
  deriving Repr

/-- The kind of a value, as an `UnmarshalTypeError` names it. -/
def JValue.kind : JValue → String
  | .null => "null"
  | .bool _ => "bool"
  | .number _ => "number"
  | .string _ => "string"
  | .array _ => "array"
  | .object _ => "object"

def isJsonSpace (c : Char) : Bool := c = ' ' || c = '\t' || c = '\n' || c = '\r'

def skipSpace (s : List Char) : List Char := s.dropWhile isJsonSpace

def isHexDigit (c : Char) : Bool := isDigit c || ('a' ≤ c && c ≤ 'f') || ('A' ≤ c && c ≤ 'F')

/-- Where the scanner is inside a string: in its text, after a backslash, or in a `\u` escape
    with `n` hexadecimal digits still to read. -/
inductive StringState where
  | text
  | escape
  | hex (n : Nat)

/-- The scanner from inside a string to its closing quote: the raw text, and what follows. -/
def scanString : StringState → List Char → Except SyntaxError (List Char × List Char)
  | .text, [] => .error .unexpectedEnd
  | .escape, [] => .error (.invalidChar ' ' "in string escape code")
  | .hex _, [] => .error (.invalidChar ' ' "in \\u hexadecimal character escape")
  | .text, c :: s =>
    if c = '"' then .ok ([], s)
    else if c = '\\' then (scanString .escape s).map fun p => (c :: p.1, p.2)
    else if c.toNat < 0x20 then .error (.invalidChar c "in string literal")
    else (scanString .text s).map fun p => (c :: p.1, p.2)
  | .escape, c :: s =>
    if c ∈ ['b', 'f', 'n', 'r', 't', '\\', '/', '"'] then
      (scanString .text s).map fun p => (c :: p.1, p.2)
    else if c = 'u' then (scanString (.hex 4) s).map fun p => (c :: p.1, p.2)
    else .error (.invalidChar c "in string escape code")
  | .hex n, c :: s =>
    if isHexDigit c then
      (scanString (if n ≤ 1 then .text else .hex (n - 1)) s).map fun p => (c :: p.1, p.2)
    else .error (.invalidChar c "in \\u hexadecimal character escape")

def hexValue (c : Char) : Nat :=
  if isDigit c then c.toNat - 48 else if 'a' ≤ c ∧ c ≤ 'f' then c.toNat - 87 else c.toNat - 55

/-- `getu4`: the code of four hexadecimal digits. -/
def hex4 (a b c d : Char) : Nat :=
  ((hexValue a * 16 + hexValue b) * 16 + hexValue c) * 16 + hexValue d

/-- `utf16.DecodeRune`: the character of a surrogate pair, if `r1` and `r2` form one. -/
def decodeSurrogates (r1 r2 : Nat) : Option Char :=
  if 0xD800 ≤ r1 ∧ r1 < 0xDC00 ∧ 0xDC00 ≤ r2 ∧ r2 < 0xE000 then
    some (Char.ofNat ((r1 - 0xD800) * 0x400 + (r2 - 0xDC00) + 0x10000))
  else none

/-- The character of a `\u` escape with no pair: half of a surrogate pair becomes U+FFFD. -/
def runeOf (r : Nat) : Char := if 0xD800 ≤ r ∧ r < 0xE000 then '\uFFFD' else Char.ofNat r

def unescape (c : Char) : Char :=
  if c = 'b' then '\x08' else if c = 'f' then '\x0c' else if c = 'n' then '\n'
  else if c = 'r' then '\r' else if c = 't' then '\t' else c

/-- What a high surrogate left waiting becomes when no low one follows: U+FFFD. -/
def pendingRune : Option Nat → List Char
  | none => []
  | some _ => ['\uFFFD']

/-- `unquoteBytes` on the raw text of a string the scanner accepted. Go looks ahead from a `\u`
    escape of a surrogate to the next escape; here a high surrogate waits as `pending` for the
    next character instead, and pairs with it if it is the escape of a low surrogate. -/
def unquoteFrom (pending : Option Nat) : List Char → List Char
  | '\\' :: 'u' :: a :: b :: c :: d :: s =>
    match pending.bind fun hi => decodeSurrogates hi (hex4 a b c d) with
    | some r => r :: unquoteFrom none s
    | none =>
      pendingRune pending ++
        if 0xD800 ≤ hex4 a b c d ∧ hex4 a b c d < 0xDC00 then unquoteFrom (some (hex4 a b c d)) s
        else runeOf (hex4 a b c d) :: unquoteFrom none s
  | '\\' :: c :: s => pendingRune pending ++ unescape c :: unquoteFrom none s
  | c :: s => pendingRune pending ++ c :: unquoteFrom none s
  | [] => pendingRune pending

def unquote (raw : List Char) : List Char := unquoteFrom none raw

/-- At least one digit, then every digit after it (`stateDot` then `stateDot0`, `stateESign`
    then `stateE0`, `state1`). -/
def scanDigits (context : String) : List Char → Except SyntaxError (List Char × List Char)
  | [] => .error (.invalidChar ' ' context)
  | d :: s =>
    if isDigit d then .ok (d :: s.takeWhile isDigit, s.dropWhile isDigit)
    else .error (.invalidChar d context)

/-- The integer part of a number after its optional `-`: a lone `0`, or digits. -/
def scanInteger : List Char → Except SyntaxError (List Char × List Char)
  | '0' :: s => .ok (['0'], s)
  | s => scanDigits "in numeric literal" s

/-- The optional fraction after the integer part (`state0`). -/
def scanFraction : List Char → Except SyntaxError (List Char × List Char)
  | '.' :: s => (scanDigits "after decimal point in numeric literal" s).map fun p => ('.' :: p.1, p.2)
  | s => .ok ([], s)

/-- The optional exponent after the fraction: `e` or `E`, an optional sign, digits
    (`stateE`, `stateESign`, `stateE0`). -/
def scanExponent : List Char → Except SyntaxError (List Char × List Char)
  | e :: s =>
    if e = 'e' ∨ e = 'E' then
      let (sign, s) := match s with
        | c :: s => if c = '+' ∨ c = '-' then ([c], s) else ([], c :: s)
        | [] => ([], [])
      (scanDigits "in exponent of numeric literal" s).map fun p => (e :: sign ++ p.1, p.2)
    else .ok ([], e :: s)
  | [] => .ok ([], [])

/-- A number, from its first character, a `-` or a digit: its literal and what follows. -/
def scanNumber (s : List Char) : Except SyntaxError (List Char × List Char) := do
  let (sign, s) := match s with
    | '-' :: s => (['-'], s)
    | s => ([], s)
  let (int, s) ← scanInteger s
  let (frac, s) ← scanFraction s
  let (exp, s) ← scanExponent s
  pure (sign ++ int ++ frac ++ exp, s)

/-- `quoteChar`, for the letters it is used on here. -/
def quoteChar (c : Char) : String := "'" ++ c.toString ++ "'"

/-- The scanner's words when a literal breaks off before its letter `c`. -/
def literalContext (name : String) (c : Char) : String :=
  "in literal " ++ name ++ " (expecting " ++ quoteChar c ++ ")"

/-- The letters of the literal `name` after its first (`stateT`, `stateTr`, ...). -/
def scanLiteral (name : String) : List Char → List Char → Except SyntaxError (List Char)
  | [], s => .ok s
  | c :: _, [] => .error (.invalidChar ' ' (literalContext name c))
  | c :: cs, d :: s =>
    if d = c then scanLiteral name cs s else .error (.invalidChar d (literalContext name c))

/-- `maxNestingDepth` of the scanner. -/
def maxNestingDepth : Nat := 10000

mutual

/-- A value after optional white space (`stateBeginValue`), nested `depth` deep. The fuel
    bounds the recursion: every two calls read a character, so the fuel `parseJSON` gives never
    runs out. -/
def parseValue : Nat → Nat → List Char → Except SyntaxError (JValue × List Char)
  | 0, _, _ => .error .unexpectedEnd
  | fuel + 1, depth, s =>
    match skipSpace s with
    | [] => .error .unexpectedEnd
    | '{' :: s =>
      if maxNestingDepth ≤ depth then .error (.invalidChar '{' "exceeded max depth")
      else
        match skipSpace s with
        | '}' :: s => .ok (.object [], s)
        | _ => (parseMembers fuel (depth + 1) s).map fun p => (.object p.1, p.2)
    | '[' :: s =>
      if maxNestingDepth ≤ depth then .error (.invalidChar '[' "exceeded max depth")
      else
        match skipSpace s with
        | ']' :: s => .ok (.array [], s)
        | _ => (parseElements fuel (depth + 1) s).map fun p => (.array p.1, p.2)
    | '"' :: s => (scanString .text s).map fun p => (.string p.1, p.2)
    | 't' :: s => (scanLiteral "true" ['r', 'u', 'e'] s).map fun s => (.bool true, s)
    | 'f' :: s => (scanLiteral "false" ['a', 'l', 's', 'e'] s).map fun s => (.bool false, s)
    | 'n' :: s => (scanLiteral "null" ['u', 'l', 'l'] s).map fun s => (.null, s)
    | c :: s =>
      if c = '-' ∨ isDigit c then (scanNumber (c :: s)).map fun p => (.number p.1, p.2)
      else .error (.invalidChar c "looking for beginning of value")

/-- The elements of an array after its `[`: a value, then a `,` and more or the `]`. -/
def parseElements : Nat → Nat → List Char → Except SyntaxError (List JValue × List Char)
  | 0, _, _ => .error .unexpectedEnd
  | fuel + 1, depth, s =>
    match parseValue fuel depth s with
    | .error e => .error e
    | .ok (v, s) =>
      match skipSpace s with
      | ',' :: s => (parseElements fuel depth s).map fun p => (v :: p.1, p.2)
      | ']' :: s => .ok ([v], s)
      | c :: _ => .error (.invalidChar c "after array element")
      | [] => .error .unexpectedEnd

/-- The members of an object after its `{`: a key, a `:`, a value, then a `,` and more or the
    `}`. -/
def parseMembers : Nat → Nat → List Char →
    Except SyntaxError (List (List Char × JValue) × List Char)
  | 0, _, _ => .error .unexpectedEnd
  | fuel + 1, depth, s =>
    match skipSpace s with
    | '"' :: s =>
      match scanString .text s with
      | .error e => .error e
      | .ok (key, s) =>
        match skipSpace s with
        | ':' :: s =>
          match parseValue fuel depth s with
          | .error e => .error e
          | .ok (v, s) =>
            match skipSpace s with
            | ',' :: s => (parseMembers fuel depth s).map fun p => ((key, v) :: p.1, p.2)
            | '}' :: s => .ok ([(key, v)], s)
            | c :: _ => .error (.invalidChar c "after object key:value pair")
            | [] => .error .unexpectedEnd
        | c :: _ => .error (.invalidChar c "after object key")
        | [] => .error .unexpectedEnd
    | c :: _ => .error (.invalidChar c "looking for beginning of object key string")
    | [] => .error .unexpectedEnd

end

/-- `checkValid` and the value it accepts: one value, then only white space. -/
def parseJSON (s : List Char) : Except SyntaxError JValue :=
  match parseValue (2 * s.length + 2) 0 s with
  | .error e => .error e
  | .ok (v, rest) =>
    match skipSpace rest with
    | [] => .ok v
    | c :: _ => .error (.invalidChar c "after top-level value")

/-! ### What the writer writes, the reader reads -/

theorem skipSpace_cons (c : Char) (s : List Char) :
    skipSpace (c :: s) = if isJsonSpace c then skipSpace s else c :: s := by
  simp only [skipSpace, List.dropWhile_cons]

theorem isHexDigit_digitChar {n : Nat} (h : n < 16) : isHexDigit (Nat.digitChar n) = true := by
  interval_cases n <;> decide

theorem hexValue_digitChar {n : Nat} (h : n < 16) : hexValue (Nat.digitChar n) = n := by
  interval_cases n <;> decide

theorem escapeChar_cases (c : Char) :
    (∃ d ∈ ['b', 'f', 'n', 'r', 't', '\\', '"'], escapeChar c = ['\\', d] ∧ unescape d = c) ∨
    (c.toNat < 64 ∧ escapeChar c =
      ['\\', 'u', '0', '0', Nat.digitChar (c.toNat / 16), Nat.digitChar (c.toNat % 16)]) ∨
    ((c = '\u2028' ∨ c = '\u2029') ∧
      escapeChar c = ['\\', 'u', '2', '0', '2', Nat.digitChar (c.toNat % 16)]) ∨
    (c ≠ '\\' ∧ c ≠ '"' ∧ 0x20 ≤ c.toNat ∧ escapeChar c = [c]) := by
  unfold escapeChar
  by_cases h1 : c = '\\' ∨ c = '"'
  · rw [if_pos h1]
    rcases h1 with rfl | rfl
    exacts [.inl ⟨_, by decide, rfl, rfl⟩, .inl ⟨_, by decide, rfl, rfl⟩]
  rw [if_neg h1]
  by_cases h2 : c = '\x08'
  · subst h2; exact .inl ⟨'b', by decide, rfl, rfl⟩
  rw [if_neg h2]
  by_cases h3 : c = '\x0c'
  · subst h3; exact .inl ⟨'f', by decide, rfl, rfl⟩
  rw [if_neg h3]
  by_cases h4 : c = '\n'
  · subst h4; exact .inl ⟨'n', by decide, rfl, rfl⟩
  rw [if_neg h4]
  by_cases h5 : c = '\r'
  · subst h5; exact .inl ⟨'r', by decide, rfl, rfl⟩
  rw [if_neg h5]
  by_cases h6 : c = '\t'
  · subst h6; exact .inl ⟨'t', by decide, rfl, rfl⟩
  rw [if_neg h6]
  by_cases h7 : c.toNat < 0x20 ∨ c = '<' ∨ c = '>' ∨ c = '&'
  · rw [if_pos h7]
    refine .inr (.inl ⟨?_, rfl⟩)
    rcases h7 with h7 | rfl | rfl | rfl
    · omega
    all_goals decide
  rw [if_neg h7]
  by_cases h8 : c = '\u2028' ∨ c = '\u2029'
  · rw [if_pos h8]
    exact .inr (.inr (.inl ⟨h8, rfl⟩))
  rw [if_neg h8]
  simp only [not_or] at h1 h7
  exact .inr (.inr (.inr ⟨h1.1, h1.2, by omega, rfl⟩))

theorem scanString_escapeChar (c : Char) {t r rest : List Char}
    (h : scanString .text t = .ok (r, rest)) :
    scanString .text (escapeChar c ++ t) = .ok (escapeChar c ++ r, rest) := by
  rcases escapeChar_cases c with ⟨d, hd, he, -⟩ | ⟨hc, he⟩ | ⟨-, he⟩ | ⟨h1, h2, h3, he⟩ <;> rw [he]
  · have : d ∈ ['b', 'f', 'n', 'r', 't', '\\', '/', '"'] := by
      simp only [List.mem_cons, List.mem_singleton, List.not_mem_nil, or_false] at hd ⊢
      tauto
    simp [scanString, Except.map, h, this]
  · simp [scanString, Except.map, h, show isHexDigit '0' = true by decide,
      isHexDigit_digitChar (show c.toNat / 16 < 16 by omega),
      isHexDigit_digitChar (Nat.mod_lt c.toNat (show 16 > 0 by norm_num))]
  · simp [scanString, Except.map, h, show isHexDigit '0' = true by decide,
      show isHexDigit '2' = true by decide,
      isHexDigit_digitChar (Nat.mod_lt c.toNat (show 16 > 0 by norm_num))]
  · simp [scanString, Except.map, h, h1, h2, not_lt.2 h3]

theorem unquote_cons {c : Char} (hc : c ≠ '\\') (t : List Char) :
    unquote (c :: t) = c :: unquote t := by
  rw [unquote, unquoteFrom.eq_def]; split <;> simp_all [pendingRune, unquote]

theorem unquote_escape_cons {c : Char} (hc : c ≠ 'u') (t : List Char) :
    unquote ('\\' :: c :: t) = unescape c :: unquote t := by
  rw [unquote, unquoteFrom.eq_def]; split
  case h_3 _ _ _ hne heq => obtain ⟨rfl, rfl⟩ := heq; exact absurd rfl (hne c t rfl)
  all_goals simp_all [pendingRune, unquote]

theorem unquote_u {a b c d : Char} (h : hex4 a b c d < 0xD800) (t : List Char) :
    unquote ('\\' :: 'u' :: a :: b :: c :: d :: t) = Char.ofNat (hex4 a b c d) :: unquote t := by
  simp [unquote, unquoteFrom, pendingRune, runeOf, show ¬ 0xD800 ≤ hex4 a b c d by omega]

theorem hex4_digitChar {n : Nat} (h : n < 256) :
    hex4 '0' '0' (Nat.digitChar (n / 16)) (Nat.digitChar (n % 16)) = n := by
  rw [hex4, hexValue_digitChar (by omega), hexValue_digitChar (Nat.mod_lt n (by norm_num)),
    show hexValue '0' = 0 by decide]
  omega

theorem unquote_escapeChar (c : Char) (t : List Char) : unquote (escapeChar c ++ t) = c :: unquote t := by
  rcases escapeChar_cases c with ⟨d, hd, he, hu⟩ | ⟨hc, he⟩ | ⟨hc, he⟩ | ⟨h1, -, -, he⟩ <;> rw [he]
  · rw [← hu]
    exact unquote_escape_cons (by rintro rfl; simp at hd) t
  · simp only [List.cons_append, List.nil_append]
    rw [unquote_u (by rw [hex4_digitChar (by omega)]; omega), hex4_digitChar (by omega),
      Char.ofNat_toNat]
  · rcases hc with rfl | rfl <;> exact unquote_u (by decide) t
  · exact unquote_cons h1 t

theorem unquote_escape (s : List Char) : unquote (s.flatMap escapeChar) = s := by
  induction s with
  | nil => rw [List.flatMap_nil]; rfl
  | cons c s ih => rw [List.flatMap_cons, unquote_escapeChar, ih]

theorem scanString_escape (s rest : List Char) :
    scanString .text (s.flatMap escapeChar ++ '"' :: rest) = .ok (s.flatMap escapeChar, rest) := by
  induction s with
  | nil => rw [List.flatMap_nil]; rfl
  | cons c s ih => rw [List.flatMap_cons, List.append_assoc, scanString_escapeChar c ih]

theorem digitChar_ne_zero {d : Nat} (h0 : 0 < d) (h : d < 10) : Nat.digitChar d ≠ '0' := by
  interval_cases d <;> decide

theorem toDigitsCore_head (fuel n : Nat) (ds : List Char) (h0 : 0 < n) (h : n < fuel) :
    ∃ c cs, Nat.toDigitsCore 10 fuel n ds = c :: cs ∧ c ≠ '0' := by
  induction fuel generalizing n ds with
  | zero => omega
  | succ fuel ih =>
    simp only [Nat.toDigitsCore]
    split
    · exact ⟨_, _, rfl, digitChar_ne_zero (by omega) (Nat.mod_lt n (by norm_num))⟩
    · exact ih _ _ (by omega) (by omega)

def Delimits : List Char → Prop
  | [] => True
  | c :: _ => c = ',' ∨ c = ']' ∨ c = '}'

theorem Delimits.not_digit {rest : List Char} (h : Delimits rest) :
    rest.takeWhile isDigit = [] ∧ rest.dropWhile isDigit = rest := by
  match rest, h with
  | [], _ => exact ⟨rfl, rfl⟩
  | c :: _, h => rcases h with rfl | rfl | rfl <;> exact ⟨rfl, rfl⟩

theorem scanFraction_delimits {rest : List Char} (h : Delimits rest) : scanFraction rest = .ok ([], rest) := by
  match rest, h with
  | [], _ => rfl
  | c :: _, h => rcases h with rfl | rfl | rfl <;> rfl

theorem scanExponent_delimits {rest : List Char} (h : Delimits rest) : scanExponent rest = .ok ([], rest) := by
  match rest, h with
  | [], _ => rfl
  | c :: _, h => rcases h with rfl | rfl | rfl <;> rfl

theorem scanInteger_toDigits (n : Nat) {rest : List Char} (h : Delimits rest) :
    scanInteger (Nat.toDigits 10 n ++ rest) = .ok (Nat.toDigits 10 n, rest) := by
  rcases Nat.eq_zero_or_pos n with rfl | hn
  · rfl
  obtain ⟨-, hall, -⟩ := toDigits_spec n
  obtain ⟨c, cs, hcs, hc⟩ := toDigitsCore_head (n + 1) n [] hn (by omega)
  rw [Nat.toDigits, hcs] at hall ⊢
  simp only [List.all_cons, Bool.and_eq_true, List.all_eq_true] at hall
  have hrest := h.not_digit
  rw [List.cons_append, scanInteger.eq_def]
  split
  · rename_i h'; simp only [List.cons.injEq] at h'; exact absurd h'.1 hc
  · simp [scanDigits, hall.1, List.takeWhile_append_of_pos hall.2, List.dropWhile_append_of_pos hall.2,
      hrest.1, hrest.2]

theorem scanNumber_formatInt (x : Int) {rest : List Char} (h : Delimits rest) :
    scanNumber (formatInt x ++ rest) = .ok (formatInt x, rest) := by
  have hd := (toDigits_spec x.natAbs).1
  by_cases hx : x < 0
  · simp [formatInt, hx, scanNumber, scanInteger_toDigits _ h, scanFraction_delimits h,
      scanExponent_delimits h, bind, Except.bind, Functor.map, Except.map, pure, Except.pure]
  · obtain ⟨c, cs, hcs⟩ := List.exists_cons_of_ne_nil hd
    have hc : c ≠ '-' := by
      have := (toDigits_spec x.natAbs).2.1
      rw [hcs] at this; simp at this; intro e; subst e; exact absurd this.1 (by decide)
    have := scanInteger_toDigits x.natAbs h
    rw [hcs, List.cons_append] at this
    simp [formatInt, hx, scanNumber, hcs, this, scanFraction_delimits h,
      scanExponent_delimits h, bind, Except.bind, pure, Except.pure, hc]

structure ReadsAs (n : Nat) (text : List Char) (v : JValue) : Prop where
  starts : ∃ c cs, text = c :: cs ∧ isJsonSpace c = false ∧ c ≠ ']'
  reads : ∀ fuel depth rest, text.length ≤ fuel → depth + n ≤ maxNestingDepth → Delimits rest →
    parseValue fuel depth (text ++ rest) = .ok (v, rest)

theorem readsAs_string (s : List Char) : ReadsAs 0 (appendString s) (.string (s.flatMap escapeChar)) where
  starts := ⟨_, _, rfl, by decide, by decide⟩
  reads fuel depth rest hf _ _ := by
    obtain ⟨fuel, rfl⟩ : ∃ f, fuel = f + 1 := ⟨fuel - 1, by simp [appendString] at hf; omega⟩
    simp [appendString, parseValue, skipSpace_cons, isJsonSpace, scanString_escape, Except.map]

theorem isJsonSpace_of_number {c : Char} (hc : c = '-' ∨ isDigit c = true) : isJsonSpace c = false := by
  rcases hc with rfl | hc
  · rfl
  · simp only [isDigit, Bool.and_eq_true, decide_eq_true_eq] at hc
    simp only [isJsonSpace, Bool.or_eq_false_iff, decide_eq_false_iff_not]
    refine ⟨⟨⟨?_, ?_⟩, ?_⟩, ?_⟩ <;> intro h <;> subst h <;> simp at hc

theorem parseValue_number {c : Char} (hc : c = '-' ∨ isDigit c = true) (fuel depth : Nat)
    (s : List Char) :
    parseValue (fuel + 1) depth (c :: s) = (scanNumber (c :: s)).map fun p => (.number p.1, p.2) := by
  rw [parseValue, skipSpace_cons, isJsonSpace_of_number hc, if_neg Bool.false_ne_true]
  split
  case h_8 _ _ _ _ _ _ _ _ _ heq => obtain ⟨rfl, rfl⟩ := heq; rw [if_pos hc]
  all_goals simp_all [isDigit]

theorem formatInt_starts (x : Int) : ∃ c cs, formatInt x = c :: cs ∧ (c = '-' ∨ isDigit c = true) := by
  obtain ⟨hne, hall, -⟩ := toDigits_spec x.natAbs
  obtain ⟨c, cs, hcs⟩ := List.exists_cons_of_ne_nil hne
  by_cases hx : x < 0
  · exact ⟨'-', Nat.toDigits 10 x.natAbs, by simp [formatInt, hx], .inl rfl⟩
  · rw [hcs] at hall
    exact ⟨c, cs, by simp [formatInt, hx, hcs], .inr (by simp at hall; exact hall.1)⟩

theorem readsAs_formatInt (x : Int) : ReadsAs 0 (formatInt x) (.number (formatInt x)) where
  starts := by
    obtain ⟨c, cs, h, hc⟩ := formatInt_starts x
    exact ⟨c, cs, h, isJsonSpace_of_number hc, by rintro rfl; simp [isDigit] at hc⟩
  reads fuel depth rest hf _ hrest := by
    obtain ⟨c, cs, h, hc⟩ := formatInt_starts x
    obtain ⟨fuel, rfl⟩ : ∃ f, fuel = f + 1 := ⟨fuel - 1, by rw [h] at hf; simp at hf; omega⟩
    have := scanNumber_formatInt x hrest
    rw [h] at this ⊢
    rw [List.cons_append, parseValue_number hc, ← List.cons_append, this]
    rfl

theorem readsAs_bool (b : Bool) :
    ReadsAs 0 (if b then "true".toList else "false".toList) (.bool b) where
  starts := by cases b <;> exact ⟨_, _, rfl, by decide, by decide⟩
  reads fuel depth rest hf _ _ := by
    obtain ⟨fuel, rfl⟩ : ∃ f, fuel = f + 1 := ⟨fuel - 1, by cases b <;> simp at hf <;> omega⟩
    cases b <;> rfl

theorem ReadsAs.mono {n m : Nat} {text : List Char} {v : JValue} (h : ReadsAs n text v)
    (hnm : n ≤ m) : ReadsAs m text v :=
  ⟨h.starts, fun fuel depth rest hf hd hr => h.reads fuel depth rest hf (by omega) hr⟩

theorem readsAs_null : ReadsAs 0 "null".toList .null where
  starts := ⟨_, _, rfl, by decide, by decide⟩
  reads fuel depth rest hf _ _ := by
    obtain ⟨fuel, rfl⟩ : ∃ f, fuel = f + 1 := ⟨fuel - 1, by simp at hf; omega⟩
    rfl

theorem skipSpace_punct {c : Char} (hc : c = ',' ∨ c = ']' ∨ c = '}' ∨ c = ':' ∨ c = '"')
    (s : List Char) : skipSpace (c :: s) = c :: s := by
  rcases hc with rfl | rfl | rfl | rfl | rfl <;> rfl

theorem parseElements_join {n : Nat} {ts : List (List Char)} {vs : List JValue}
    (hts : List.Forall₂ (ReadsAs n) ts vs) {t : List Char} {v : JValue} (ht : ReadsAs n t v)
    {fuel depth : Nat} (hf : (t ++ ts.flatMap (',' :: ·)).length < fuel)
    (hd : depth + n ≤ maxNestingDepth) (rest : List Char) :
    parseElements fuel depth (t ++ (ts.flatMap (',' :: ·) ++ ']' :: rest)) =
      .ok (v :: vs, rest) := by
  obtain ⟨fuel, rfl⟩ : ∃ g, fuel = g + 1 := ⟨fuel - 1, by omega⟩
  induction hts generalizing t v fuel with
  | nil =>
    simp only [List.flatMap_nil, List.append_nil, List.nil_append] at hf ⊢
    rw [parseElements, ht.reads fuel depth (']' :: rest) (by omega) hd (Or.inr (Or.inl rfl))]
    rfl
  | @cons t' v' ts vs ht' _ ih =>
    simp only [List.flatMap_cons, List.cons_append, List.append_assoc, List.length_append,
      List.length_cons] at hf ⊢
    rw [parseElements, ht.reads fuel depth (',' :: (t' ++ (ts.flatMap (',' :: ·) ++ ']' :: rest)))
      (by omega) hd (Or.inl rfl)]
    simp only [skipSpace_punct (Or.inl rfl)]
    obtain ⟨g, rfl⟩ : ∃ g, fuel = g + 1 := ⟨fuel - 1, by omega⟩
    rw [ih ht' g (by simp only [List.length_append]; omega)]
    rfl

theorem parseValue_elements {fuel depth : Nat} (hd : depth < maxNestingDepth) {s : List Char}
    (hs : ∃ c cs, s = c :: cs ∧ isJsonSpace c = false ∧ c ≠ ']') :
    parseValue (fuel + 1) depth ('[' :: s) =
      (parseElements fuel (depth + 1) s).map fun p => (.array p.1, p.2) := by
  obtain ⟨c, cs, rfl, hc, hne⟩ := hs
  simp only [parseValue, skipSpace_cons, hc, show isJsonSpace '[' = false from rfl,
    Bool.false_eq_true, if_false, not_le.2 hd]
  split
  · rename_i h; simp only [List.cons.injEq] at h; exact absurd h.1 hne
  · rfl

theorem readsAs_array {n : Nat} {items : List (List Char)} {vs : List JValue}
    (h : List.Forall₂ (ReadsAs n) items vs) : ReadsAs (n + 1) (encodeArray items) (.array vs) where
  starts := ⟨_, _, rfl, by decide, by decide⟩
  reads fuel depth rest hf hd _ := by
    obtain ⟨fuel, rfl⟩ : ∃ f, fuel = f + 1 := ⟨fuel - 1, by simp [encodeArray] at hf; omega⟩
    cases h with
    | nil =>
      simp [encodeArray, joinElements, parseValue, skipSpace_cons, isJsonSpace,
        show ¬ maxNestingDepth ≤ depth by omega]
    | @cons t v ts vs ht hts =>
      simp only [encodeArray, joinElements, List.cons_append, List.append_assoc, List.nil_append]
      obtain ⟨c, cs, hcs, hc, hne⟩ := ht.starts
      rw [parseValue_elements (by omega) ⟨c, _, by rw [hcs, List.cons_append], hc, hne⟩,
        parseElements_join hts ht (by simp [encodeArray, joinElements] at hf ⊢; omega) (by omega)]
      rfl

def MemberReads (n : Nat) (m : List Char × List Char) (jm : List Char × JValue) : Prop :=
  jm.1 = m.1.flatMap escapeChar ∧ ReadsAs n m.2 jm.2

theorem parseMembers_join {n : Nat} {ms : List (List Char × List Char)}
    {jms : List (List Char × JValue)} (hms : List.Forall₂ (MemberReads n) ms jms)
    {m : List Char × List Char} {jm : List Char × JValue} (hm : MemberReads n m jm)
    {fuel depth : Nat} (hf : (encodeMember m ++ (ms.map encodeMember).flatMap (',' :: ·)).length < fuel)
    (hd : depth + n ≤ maxNestingDepth) (rest : List Char) :
    parseMembers fuel depth (encodeMember m ++ ((ms.map encodeMember).flatMap (',' :: ·) ++ '}' :: rest)) =
      .ok (jm :: jms, rest) := by
  obtain ⟨fuel, rfl⟩ : ∃ g, fuel = g + 1 := ⟨fuel - 1, by omega⟩
  obtain ⟨k, t⟩ := m
  obtain ⟨_, v⟩ := jm
  obtain ⟨rfl, hv⟩ := hm
  dsimp only at hv
  induction hms generalizing k t v fuel with
  | nil =>
    simp only [List.map_nil, List.flatMap_nil, List.append_nil, List.nil_append, encodeMember,
      appendString, List.cons_append, List.append_assoc, List.length_cons, List.length_append] at hf ⊢
    rw [parseMembers, skipSpace_punct (Or.inr (Or.inr (Or.inr (Or.inr rfl))))]
    simp only [scanString_escape, skipSpace_punct (Or.inr (Or.inr (Or.inr (Or.inl rfl)))),
      hv.reads fuel depth ('}' :: rest) (by omega) hd (Or.inr (Or.inr rfl)),
      skipSpace_punct (Or.inr (Or.inr (Or.inl rfl)))]
  | @cons m' jm' ms jms hm' _ ih =>
    obtain ⟨k', t'⟩ := m'
    obtain ⟨_, v'⟩ := jm'
    obtain ⟨rfl, hv'⟩ := hm'
    dsimp only at hv'
    simp only [List.map_cons, List.flatMap_cons, encodeMember, appendString, List.cons_append,
      List.nil_append, List.append_assoc, List.length_cons, List.length_append] at hf ih ⊢
    rw [parseMembers, skipSpace_punct (Or.inr (Or.inr (Or.inr (Or.inr rfl))))]
    simp only [scanString_escape, skipSpace_punct (Or.inr (Or.inr (Or.inr (Or.inl rfl)))),
      hv.reads fuel depth (',' :: '"' :: _) (by omega) hd (Or.inl rfl), skipSpace_punct (Or.inl rfl)]
    obtain ⟨g, rfl⟩ : ∃ g, fuel = g + 1 := ⟨fuel - 1, by omega⟩
    rw [ih g k' t' (by omega) v' hv']
    rfl

theorem parseValue_members {fuel depth : Nat} (hd : depth < maxNestingDepth) {s : List Char}
    (hs : ∃ s', s = '"' :: s') :
    parseValue (fuel + 1) depth ('{' :: s) =
      (parseMembers fuel (depth + 1) s).map fun p => (.object p.1, p.2) := by
  obtain ⟨s', rfl⟩ := hs
  simp only [parseValue, skipSpace_cons, show isJsonSpace '{' = false from rfl,
    show isJsonSpace '"' = false from rfl, Bool.false_eq_true, if_false, not_le.2 hd]
  rfl

theorem readsAs_object {n : Nat} {ms : List (List Char × List Char)}
    {jms : List (List Char × JValue)} (h : List.Forall₂ (MemberReads n) ms jms) :
    ReadsAs (n + 1) (encodeObject ms) (.object jms) where
  starts := ⟨_, _, rfl, by decide, by decide⟩
  reads fuel depth rest hf hd _ := by
    obtain ⟨fuel, rfl⟩ : ∃ f, fuel = f + 1 := ⟨fuel - 1, by simp [encodeObject] at hf; omega⟩
    cases h with
    | nil =>
      simp [encodeObject, joinElements, parseValue, skipSpace_cons, isJsonSpace,
        show ¬ maxNestingDepth ≤ depth by omega]
    | @cons m jm ms jms hm hms =>
      simp only [encodeObject, joinElements, List.map_cons, List.cons_append, List.append_assoc,
        List.singleton_append, List.nil_append]
      rw [parseValue_members (s := encodeMember m ++ _) (by omega) ⟨_, rfl⟩,
        parseMembers_join hms hm (by simp [encodeObject, joinElements] at hf ⊢; omega) (by omega)]
      rfl

theorem parseJSON_of_readsAs {n : Nat} {text : List Char} {v : JValue} (h : ReadsAs n text v)
    (hn : n ≤ maxNestingDepth) : parseJSON text = .ok v := by
  have := h.reads (2 * text.length + 2) 0 [] (by omega) (by omega) trivial
  rw [List.append_nil] at this
  simp [parseJSON, this, skipSpace]

/-! ### The writer writes one line -/

theorem digitChar_ne_newline {n : Nat} (h : n < 16) : Nat.digitChar n ≠ '\n' := fun he =>
  absurd (he ▸ isHexDigit_digitChar h) (by decide)

theorem newline_not_mem_escapeChar (c : Char) : '\n' ∉ escapeChar c := by
  have hlow := digitChar_ne_newline (Nat.mod_lt c.toNat (by norm_num : 16 > 0))
  rcases escapeChar_cases c with ⟨d, hd, he, -⟩ | ⟨hc, he⟩ | ⟨-, he⟩ | ⟨-, -, h3, he⟩ <;> rw [he]
  · have : ∀ d ∈ ['b', 'f', 'n', 'r', 't', '\\', '"'], '\n' ∉ ['\\', d] := by decide
    exact this d hd
  · simp [digitChar_ne_newline (by omega : c.toNat / 16 < 16), hlow, @eq_comm _ '\n']
  · simp [hlow, @eq_comm _ '\n']
  · intro hm
    rw [← List.mem_singleton.1 hm] at h3
    exact absurd h3 (by decide)

theorem newline_not_mem_appendString (s : List Char) : '\n' ∉ appendString s := by
  simp [appendString, newline_not_mem_escapeChar]

theorem newline_not_mem_joinElements {ts : List (List Char)} (h : ∀ t ∈ ts, '\n' ∉ t) :
    '\n' ∉ joinElements ts := by
  cases ts with
  | nil => exact List.not_mem_nil _
  | cons t ts => simp_all [joinElements]

theorem newline_not_mem_encodeArray {ts : List (List Char)} (h : ∀ t ∈ ts, '\n' ∉ t) :
    '\n' ∉ encodeArray ts := by
  simp [encodeArray, newline_not_mem_joinElements h]

theorem newline_not_mem_encodeObject {ms : List (List Char × List Char)} (h : ∀ m ∈ ms, '\n' ∉ m.2) :
    '\n' ∉ encodeObject ms := by
  have : '\n' ∉ joinElements (ms.map encodeMember) := newline_not_mem_joinElements <| by
    intro t ht
    obtain ⟨m, hm, rfl⟩ := List.mem_map.1 ht
    simp [encodeMember, newline_not_mem_appendString, h m hm]
  simp [encodeObject, this]

end TiupPlayground
