import TiupPlayground.Progress.Event
import TiupPlayground.Progress.Json
import TiupPlayground.Rfc3339

/-!
`json.Marshal` and `json.Unmarshal` of an `Event`, as `encoding/json` drives them through
`reflect`. A field of `Event` is an index `EventField` with its tag, its JSON name and
`omitempty`, and its Go type `GoKind`, which alone decides how a value is written and how a JSON
value is stored into it.

Writing walks the fields in order and leaves out the empty values of `omitempty` fields; a
`time.Time` is a struct and is never empty, and its `MarshalJSON` is the one step that can fail.
Reading stores each member into the field its key selects, keeps the first type error and goes
on, and stops at an error of `Time.UnmarshalJSON`.
-/
namespace TiupPlayground

/-! ### Fields -/

/-- The Go types of `Event`'s fields, as the encoder and the decoder treat them; `name` is the
    name an `UnmarshalTypeError` prints for a string type. -/
inductive GoKind where
  | string (name : String)
  | time
  | uint64
  | strings
  | stringPtr (name : String)
  | boolPtr
  | bool
  | int64Ptr
  deriving DecidableEq, Repr

@[reducible] def GoKind.Ty : GoKind → Type
  | .string _ => String
  | .time => Time
  | .uint64 => UInt64
  | .strings => List String
  | .stringPtr _ => Option String
  | .boolPtr => Option Bool
  | .bool => Bool
  | .int64Ptr => Option Int

/-- The fields of `Event`, in declaration order. -/
inductive EventField where
  | type | atTime | groupID | taskID | lines | syncID | title | showMeta | hideDetailsOnSuccess
  | sortTasksByTitle | finished | pending | kind | meta | message | hideIfFast | revealAfterMs
  | current | total | status
  deriving DecidableEq, Repr

def EventField.all : List EventField :=
  [.type, .atTime, .groupID, .taskID, .lines, .syncID, .title, .showMeta, .hideDetailsOnSuccess,
    .sortTasksByTitle, .finished, .pending, .kind, .meta, .message, .hideIfFast, .revealAfterMs,
    .current, .total, .status]

theorem EventField.mem_all (f : EventField) : f ∈ EventField.all := by
  cases f <;> decide

/-- The JSON name in a field's tag. -/
def EventField.jsonName : EventField → String
  | .type => "type"
  | .atTime => "at"
  | .groupID => "gid"
  | .taskID => "tid"
  | .lines => "lines"
  | .syncID => "sync_id"
  | .title => "title"
  | .showMeta => "show_meta"
  | .hideDetailsOnSuccess => "hide_details_on_success"
  | .sortTasksByTitle => "sort_tasks_by_title"
  | .finished => "finished"
  | .pending => "pending"
  | .kind => "kind"
  | .meta => "meta"
  | .message => "message"
  | .hideIfFast => "hide_if_fast"
  | .revealAfterMs => "reveal_after_ms"
  | .current => "current"
  | .total => "total"
  | .status => "status"

/-- `omitempty`: every field's tag has it but `type`'s. -/
def EventField.omitEmpty : EventField → Bool
  | .type => false
  | _ => true

def EventField.goKind : EventField → GoKind
  | .type => .string "progress.EventType"
  | .atTime => .time
  | .groupID | .taskID | .syncID => .uint64
  | .lines => .strings
  | .title | .meta | .message => .stringPtr "string"
  | .kind => .stringPtr "progress.TaskKind"
  | .status => .stringPtr "progress.TaskStatus"
  | .showMeta | .hideDetailsOnSuccess | .sortTasksByTitle | .finished | .hideIfFast => .boolPtr
  | .pending => .bool
  | .revealAfterMs | .current | .total => .int64Ptr

/-- `v.Field(i)`: a field's value. -/
def Event.get (e : Event) : (f : EventField) → f.goKind.Ty
  | .type => e.type
  | .atTime => e.atTime
  | .groupID => e.groupID
  | .taskID => e.taskID
  | .lines => e.lines
  | .syncID => e.syncID
  | .title => e.title
  | .showMeta => e.showMeta
  | .hideDetailsOnSuccess => e.hideDetailsOnSuccess
  | .sortTasksByTitle => e.sortTasksByTitle
  | .finished => e.finished
  | .pending => e.pending
  | .kind => e.kind
  | .meta => e.meta
  | .message => e.message
  | .hideIfFast => e.hideIfFast
  | .revealAfterMs => e.revealAfterMs
  | .current => e.current
  | .total => e.total
  | .status => e.status

def Event.ofFields (g : (f : EventField) → f.goKind.Ty) : Event :=
  ⟨g .type, g .atTime, g .groupID, g .taskID, g .lines, g .syncID, g .title, g .showMeta,
    g .hideDetailsOnSuccess, g .sortTasksByTitle, g .finished, g .pending, g .kind, g .meta,
    g .message, g .hideIfFast, g .revealAfterMs, g .current, g .total, g .status⟩

/-- `v.Field(i).Set(x)`: the event with one field changed. -/
def Event.set (e : Event) (f : EventField) (x : f.goKind.Ty) : Event :=
  Event.ofFields (Function.update e.get f x)

@[simp] theorem Event.get_ofFields (g : (f : EventField) → f.goKind.Ty) (f : EventField) :
    (Event.ofFields g).get f = g f := by
  cases f <;> rfl

theorem Event.ofFields_get (e : Event) : Event.ofFields e.get = e := rfl

@[simp] theorem Event.get_set_self (e : Event) (f : EventField) (x : f.goKind.Ty) :
    (e.set f x).get f = x := by
  simp [Event.set]

theorem Event.get_set_ne (e : Event) {f g : EventField} (h : g ≠ f) (x : f.goKind.Ty) :
    (e.set f x).get g = e.get g := by
  simp [Event.set, Function.update_noteq h]

theorem Event.ext_get {a b : Event} (h : ∀ f, a.get f = b.get f) : a = b := by
  rw [← a.ofFields_get, ← b.ofFields_get]
  exact congrArg Event.ofFields (funext h)

/-! ### Writing -/

/-- `isEmptyValue` for `omitempty`; a `time.Time` is a struct, never empty. -/
def GoKind.isEmpty : (k : GoKind) → k.Ty → Bool
  | .string _, s => s.isEmpty
  | .time, _ => false
  | .uint64, n => n == 0
  | .strings, l => l.isEmpty
  | .stringPtr _, o => o.isNone
  | .boolPtr, o => o.isNone
  | .bool, b => !b
  | .int64Ptr, o => o.isNone

def encodeBool (b : Bool) : List Char := if b then "true".toList else "false".toList

/-- The text the encoder writes for a value. Only `time.Time`'s `MarshalJSON` can fail, and the
    encoder reports it as a `MarshalerError`. A nil pointer is `null`; an empty `[]string` is
    left out by `omitempty`, so whether Go's slice is nil never shows. -/
def GoKind.encode : (k : GoKind) → k.Ty → Except String (List Char)
  | .string _, s => .ok (appendString s.toList)
  | .time, t =>
    (marshalTime t).mapError ("json: error calling MarshalJSON for type time.Time: " ++ ·)
  | .uint64, n => .ok (Nat.toDigits 10 n.toNat)
  | .strings, l => .ok (encodeArray (l.map fun s => appendString s.toList))
  | .stringPtr _, o => .ok (match o with | some s => appendString s.toList | none => "null".toList)
  | .boolPtr, o => .ok (match o with | some b => encodeBool b | none => "null".toList)
  | .bool, b => .ok (encodeBool b)
  | .int64Ptr, o => .ok (match o with | some x => formatInt x | none => "null".toList)

/-- Whether the encoder writes a field of `e`: unless it is `omitempty` and its value empty. -/
def EventField.written (f : EventField) (e : Event) : Bool :=
  !(f.omitEmpty && f.goKind.isEmpty (e.get f))

/-- The members the encoder writes for the fields `fs` of `e`, in order. -/
def encodeFields (e : Event) : List EventField → Except String (List (List Char × List Char))
  | [] => .ok []
  | f :: fs =>
    if f.written e then
      match f.goKind.encode (e.get f), encodeFields e fs with
      | .error err, _ => .error err
      | .ok _, .error err => .error err
      | .ok text, .ok ms => .ok ((f.jsonName.toList, text) :: ms)
    else encodeFields e fs

/-- `json.Marshal` of an `Event`. -/
def marshalEvent (e : Event) : Except String (List Char) :=
  (encodeFields e EventField.all).map encodeObject

/-! ### Reading -/

/-- `UnmarshalTypeError`: the JSON value as the error describes it, the Go type it does not fit,
    and the field, when the value was a field's. -/
structure UnmarshalTypeError where
  value : String
  goType : String
  field : Option String
  deriving DecidableEq, Repr

def UnmarshalTypeError.message (e : UnmarshalTypeError) : String :=
  match e.field with
  | some f =>
    "json: cannot unmarshal " ++ e.value ++ " into Go struct field Event." ++ f ++ " of type " ++
      e.goType
  | none => "json: cannot unmarshal " ++ e.value ++ " into Go value of type " ++ e.goType

/-- Why `DecodeEvent` fails: a syntax error, the first type error, or an error of
    `Time.UnmarshalJSON`, on a value that is not a string or on the text `time.Parse` rejects. -/
inductive DecodeError where
  | syntaxError (e : SyntaxError)
  | unmarshalType (e : UnmarshalTypeError)
  | timeNotString
  | timeParse (text : List Char)
  deriving DecidableEq, Repr

/-- Storing a JSON value into a field: its new value and the type error saved, as the value's
    description and the Go type, or an error that ends decoding, with the value left. -/
inductive Stored (α : Type) where
  | ok (x : α) (typeError : Option (String × String))
  | abort (x : α) (err : DecodeError)

/-- A string into a Go string: `null` leaves it, another kind of value leaves it and is a type
    error. -/
def storeString (goType : String) (v : JValue) (cur : String) : String × Option (String × String) :=
  match v with
  | .string raw => (String.mk (unquote raw), none)
  | .null => (cur, none)
  | v => (cur, some (v.kind, goType))

def storeBool (v : JValue) (cur : Bool) : Bool × Option (String × String) :=
  match v with
  | .bool b => (b, none)
  | .null => (cur, none)
  | v => (cur, some (v.kind, "bool"))

/-- `strconv.ParseUint(s, 10, 64)`. -/
def parseUint64 (lit : List Char) : Option UInt64 :=
  if lit ≠ [] ∧ lit.all isDigit ∧ digitsValue lit < 2 ^ 64 then some (UInt64.ofNat (digitsValue lit))
  else none

def storeUint64 (v : JValue) (cur : UInt64) : UInt64 × Option (String × String) :=
  match v with
  | .number lit =>
    match parseUint64 lit with
    | some n => (n, none)
    | none => (cur, some ("number " ++ String.mk lit, "uint64"))
  | .null => (cur, none)
  | v => (cur, some (v.kind, "uint64"))

/-- A number into an `int64`: `strconv.ParseInt(s, 10, 64)`, which is `Atoi` on 64 bits. -/
def storeInt64 (v : JValue) (cur : Int) : Int × Option (String × String) :=
  match v with
  | .number lit =>
    match atoi lit with
    | some x => (x, none)
    | none => (cur, some ("number " ++ String.mk lit, "int64"))
  | .null => (cur, none)
  | v => (cur, some (v.kind, "int64"))

/-- Into a pointer: `null` sets it nil; any other value first allocates it if it is nil, then
    is stored into what it points to. -/
def storePtr {α : Type} (store : JValue → α → α × Option (String × String)) (zero : α)
    (v : JValue) (cur : Option α) : Option α × Option (String × String) :=
  match v with
  | .null => (none, none)
  | v => ((store v (cur.getD zero)).1, (store v (cur.getD zero)).2)

/-- The elements of an array into a `[]string`: each into the element already there, or into
    `""` past its end; the slice ends where the array does. -/
def storeElements : List JValue → List String → List String × Option (String × String)
  | [], _ => ([], none)
  | v :: vs, old =>
    ((storeString "string" v (old.headD "")).1 :: (storeElements vs old.tail).1,
      (storeString "string" v (old.headD "")).2 <|> (storeElements vs old.tail).2)

def storeStrings (v : JValue) (cur : List String) : List String × Option (String × String) :=
  match v with
  | .array vs => storeElements vs cur
  | .null => ([], none)
  | v => (cur, some (v.kind, "[]string"))

/-- `Time.UnmarshalJSON`: `null` leaves the time; a string's raw text is parsed as RFC 3339, and
    when that fails the time is left zero; any other value is an error. -/
def storeTime (v : JValue) (cur : Time) : Stored Time :=
  match v with
  | .null => .ok cur none
  | .string raw =>
    match parseRFC3339 raw with
    | some t => .ok t none
    | none => .abort Time.zero (.timeParse raw)
  | _ => .abort cur .timeNotString

def GoKind.store : (k : GoKind) → JValue → k.Ty → Stored k.Ty
  | .string name, v, cur => .ok (storeString name v cur).1 (storeString name v cur).2
  | .time, v, cur => storeTime v cur
  | .uint64, v, cur => .ok (storeUint64 v cur).1 (storeUint64 v cur).2
  | .strings, v, cur => .ok (storeStrings v cur).1 (storeStrings v cur).2
  | .stringPtr name, v, cur =>
    .ok (storePtr (storeString name) "" v cur).1 (storePtr (storeString name) "" v cur).2
  | .boolPtr, v, cur => .ok (storePtr storeBool false v cur).1 (storePtr storeBool false v cur).2
  | .bool, v, cur => .ok (storeBool v cur).1 (storeBool v cur).2
  | .int64Ptr, v, cur => .ok (storePtr storeInt64 0 v cur).1 (storePtr storeInt64 0 v cur).2

/-- `foldName` as far as a comparison with a field name sees it: ASCII letters in upper case,
    and the Kelvin sign and the long s as the letters they fold with. Every other character
    folds to one outside ASCII, which no field name has, and is kept. -/
def foldChar (c : Char) : Char :=
  if 'a' ≤ c ∧ c ≤ 'z' then Char.ofNat (c.toNat - 32)
  else if c = '\u212A' then 'K'
  else if c = '\u017F' then 'S'
  else c

/-- The field a key selects: the one of that name, else the first whose name folds to the key's
    fold. -/
def lookupField (key : List Char) : Option EventField :=
  match EventField.all.find? fun f => f.jsonName.toList = key with
  | some f => some f
  | none => EventField.all.find? fun f => f.jsonName.toList.map foldChar = key.map foldChar

/-- `d.object` into an `Event`: each member in turn into the field its key selects, skipping
    keys no field has. The first type error is kept and decoding goes on; an error of
    `Time.UnmarshalJSON` ends it. -/
def decodeMembers : List (List Char × JValue) → Event → Option UnmarshalTypeError →
    Event × Option DecodeError
  | [], e, saved => (e, saved.map .unmarshalType)
  | (key, v) :: ms, e, saved =>
    match lookupField (unquote key) with
    | none => decodeMembers ms e saved
    | some f =>
      match f.goKind.store v (e.get f) with
      | .ok x err =>
        decodeMembers ms (e.set f x) (saved <|> err.map fun p => ⟨p.1, p.2, some f.jsonName⟩)
      | .abort x err => (e.set f x, some err)

/-- `DecodeEvent`: `json.Unmarshal` of a line into a zero `Event`. A syntax error leaves the
    event zero; `null` decodes to it; a value other than an object is a type error. -/
def decodeEvent (line : List Char) : Event × Option DecodeError :=
  match parseJSON line with
  | .error err => (Event.empty "", some (.syntaxError err))
  | .ok (.object ms) => decodeMembers ms (Event.empty "") none
  | .ok .null => (Event.empty "", none)
  | .ok v => (Event.empty "", some (.unmarshalType ⟨v.kind, "progress.Event", none⟩))

/-! ### What the encoder writes, the decoder reads back -/

theorem escapeChar_timeChar {c : Char} (h : isTimeChar c = true) : escapeChar c = [c] := by
  simp only [isTimeChar, Bool.or_eq_true, decide_eq_true_eq] at h
  rcases h with ((((((h | rfl) | rfl) | rfl) | rfl) | rfl) | rfl)
  · simp only [isDigit, Bool.and_eq_true, decide_eq_true_eq] at h
    obtain ⟨n, hn, rfl⟩ : ∃ n, (48 ≤ n ∧ n ≤ 57) ∧ c = Char.ofNat n := ⟨c.toNat, h, by simp⟩
    obtain ⟨h1, h2⟩ := hn
    interval_cases n <;> rfl
  all_goals rfl

theorem formatRFC3339_flatMap_escapeChar (nano : Bool) (t : Time) :
    (formatRFC3339 nano t).flatMap escapeChar = formatRFC3339 nano t := by
  conv => rhs; rw [← List.flatMap_singleton' (formatRFC3339 nano t)]
  exact List.flatMap_congr fun c hc => escapeChar_timeChar (formatRFC3339_timeChars nano t c hc)

theorem marshalTime_ok {t : Time} (hy : 0 ≤ t.localYear ∧ t.localYear ≤ 9999)
    (hh : t.offset.natAbs < 86400) : marshalTime t = .ok (appendString (formatRFC3339 true t)) := by
  unfold marshalTime
  rw [appendStrictRFC3339_ok t hy hh, appendString, formatRFC3339_flatMap_escapeChar]

theorem newline_not_mem_formatInt (x : Int) : '\n' ∉ formatInt x := by
  obtain ⟨-, all, -⟩ := toDigits_spec x.natAbs
  have : '\n' ∉ Nat.toDigits 10 x.natAbs := fun hm => absurd (List.all_eq_true.1 all _ hm) (by decide)
  unfold formatInt
  split <;> simp [this]

theorem GoKind.newline_not_mem_encode {k : GoKind} {x : k.Ty} {text : List Char}
    (h : k.encode x = .ok text) : '\n' ∉ text := by
  have hbool : ∀ b, '\n' ∉ encodeBool b := by decide
  have hnull : '\n' ∉ "null".toList := by decide
  cases k with
  | string => cases h; exact newline_not_mem_appendString _
  | time =>
    simp only [GoKind.encode] at h
    cases hm : marshalTime x with
    | error => rw [hm] at h; cases h
    | ok b =>
      rw [hm] at h
      cases h
      rw [marshalTime_eq hm, ← formatRFC3339_flatMap_escapeChar]
      exact newline_not_mem_appendString _
  | uint64 => cases h; rw [← formatInt_natCast]; exact newline_not_mem_formatInt _
  | strings =>
    cases h
    exact newline_not_mem_encodeArray fun t ht => by
      obtain ⟨s, -, rfl⟩ := List.mem_map.1 ht
      exact newline_not_mem_appendString _
  | stringPtr => cases h; cases x <;> first | exact hnull | exact newline_not_mem_appendString _
  | boolPtr => cases h; cases x <;> first | exact hnull | exact hbool _
  | bool => cases h; exact hbool _
  | int64Ptr => cases h; cases x <;> first | exact hnull | exact newline_not_mem_formatInt _

theorem encodeFields_newline {e : Event} {fs : List EventField} {ms : List (List Char × List Char)}
    (h : encodeFields e fs = .ok ms) : ∀ m ∈ ms, '\n' ∉ m.2 := by
  induction fs generalizing ms with
  | nil => cases h; simp
  | cons f fs ih =>
    unfold encodeFields at h
    split_ifs at h
    · split at h
      · cases h
      · cases h
      · rename_i text ms' ht hms
        cases h
        simpa [GoKind.newline_not_mem_encode ht] using ih hms
    · exact ih h

theorem marshalEvent_line {e : Event} {b : List Char} (h : marshalEvent e = .ok b) :
    b ≠ [] ∧ '\n' ∉ b := by
  unfold marshalEvent at h
  cases hf : encodeFields e EventField.all with
  | error => rw [hf] at h; cases h
  | ok ms =>
    rw [hf] at h
    cases h
    exact ⟨List.cons_ne_nil _ _, newline_not_mem_encodeObject (encodeFields_newline hf)⟩

def GoKind.toJValue : (k : GoKind) → k.Ty → JValue
  | .string _, s => .string (s.toList.flatMap escapeChar)
  | .time, t => .string (formatRFC3339 true t)
  | .uint64, n => .number (Nat.toDigits 10 n.toNat)
  | .strings, l => .array (l.map fun s => .string (s.toList.flatMap escapeChar))
  | .stringPtr _, o => match o with
    | some s => .string (s.toList.flatMap escapeChar)
    | none => .null
  | .boolPtr, o => match o with
    | some b => .bool b
    | none => .null
  | .bool, b => .bool b
  | .int64Ptr, o => match o with
    | some x => .number (formatInt x)
    | none => .null

def GoKind.Fits : (k : GoKind) → k.Ty → Prop
  | .time, t => (0 ≤ t.localYear ∧ t.localYear ≤ 9999) ∧ t.offset % 60 = 0 ∧
      t.offset.natAbs < 86400
  | .int64Ptr, o => ∀ x ∈ o, minInt64 ≤ x ∧ x ≤ maxInt64
  | _, _ => True

instance GoKind.decidableFits : (k : GoKind) → (x : k.Ty) → Decidable (k.Fits x)
  | .string _, _ | .uint64, _ | .strings, _ | .stringPtr _, _ | .boolPtr, _ | .bool, _ =>
    inferInstanceAs (Decidable True)
  | .time, t => inferInstanceAs (Decidable ((0 ≤ t.localYear ∧ t.localYear ≤ 9999) ∧
      t.offset % 60 = 0 ∧ t.offset.natAbs < 86400))
  | .int64Ptr, o => inferInstanceAs (Decidable (∀ x ∈ o, minInt64 ≤ x ∧ x ≤ maxInt64))

theorem GoKind.encode_readsAs (k : GoKind) (x : k.Ty) (h : k.Fits x) :
    ∃ text, k.encode x = .ok text ∧ ReadsAs 1 text (k.toJValue x) := by
  cases k with
  | string => exact ⟨_, rfl, (readsAs_string _).mono (by omega)⟩
  | time =>
    refine ⟨appendString (formatRFC3339 true x),
      by simp only [GoKind.encode, marshalTime_ok h.1 h.2.2, Except.mapError], ?_⟩
    have := (readsAs_string (formatRFC3339 true x)).mono (n := 0) (m := 1) (by omega)
    rwa [formatRFC3339_flatMap_escapeChar] at this
  | uint64 =>
    have := (readsAs_formatInt (x.toNat : Int)).mono (n := 0) (m := 1) (by omega)
    rw [formatInt_natCast] at this
    exact ⟨_, rfl, this⟩
  | strings =>
    refine ⟨_, rfl, readsAs_array ?_⟩
    clear h
    induction (x : List String) with
    | nil => exact .nil
    | cons s l ih => exact .cons (readsAs_string _) ih
  | stringPtr =>
    cases x with
    | none => exact ⟨_, rfl, readsAs_null.mono (by omega)⟩
    | some s => exact ⟨_, rfl, (readsAs_string _).mono (by omega)⟩
  | boolPtr =>
    cases x with
    | none => exact ⟨_, rfl, readsAs_null.mono (by omega)⟩
    | some b => exact ⟨_, rfl, (readsAs_bool b).mono (by omega)⟩
  | bool => exact ⟨_, rfl, (readsAs_bool x).mono (by omega)⟩
  | int64Ptr =>
    cases x with
    | none => exact ⟨_, rfl, readsAs_null.mono (by omega)⟩
    | some v => exact ⟨_, rfl, (readsAs_formatInt v).mono (by omega)⟩

theorem parseUint64_toDigits (n : UInt64) : parseUint64 (Nat.toDigits 10 n.toNat) = some n := by
  obtain ⟨ne, all, val⟩ := toDigits_spec n.toNat
  have hlt : n.toNat < 2 ^ 64 := n.toNat_lt_size
  rw [parseUint64, if_pos ⟨ne, all, by rw [val]; exact hlt⟩, val]
  exact congrArg some (UInt64.toNat.inj (UInt64.toNat_ofNat_of_lt hlt))

theorem storeTime_of_parse {raw : List Char} {t : Time} (h : parseRFC3339 raw = some t) (cur : Time) :
    storeTime (.string raw) cur = .ok t none := by
  simp only [storeTime, h]

theorem storeString_escape (goType : String) (s cur : String) :
    storeString goType (.string (s.toList.flatMap escapeChar)) cur = (s, none) := by
  simp only [storeString, unquote_escape]
  rfl

theorem storeElements_escape (l old : List String) :
    storeElements (l.map fun s => .string (s.toList.flatMap escapeChar)) old = (l, none) := by
  induction l generalizing old with
  | nil => rfl
  | cons s l ih => simp only [List.map_cons, storeElements, storeString_escape, ih]; rfl

theorem GoKind.store_toJValue (k : GoKind) (x cur : k.Ty) (h : k.Fits x) :
    k.store (k.toJValue x) cur = .ok x none := by
  cases k with
  | string => simp only [GoKind.store, GoKind.toJValue, storeString_escape]
  | time => exact storeTime_of_parse (parseRFC3339_formatNano x h.1 h.2.1 h.2.2) cur
  | uint64 => simp only [GoKind.store, GoKind.toJValue, storeUint64, parseUint64_toDigits]
  | strings => simp only [GoKind.store, GoKind.toJValue, storeStrings, storeElements_escape]
  | stringPtr => cases x <;> simp only [GoKind.store, GoKind.toJValue, storePtr, storeString_escape]
  | boolPtr => cases x <;> simp only [GoKind.store, GoKind.toJValue, storePtr, storeBool]
  | bool => simp only [GoKind.store, GoKind.toJValue, storeBool]
  | int64Ptr =>
    cases x with
    | none => rfl
    | some v =>
      simp only [GoKind.store, GoKind.toJValue, storePtr, storeInt64,
        atoi_formatInt (h v rfl).1 (h v rfl).2]

structure Event.Loggable (e : Event) : Prop where
  fits : ∀ f : EventField, f.goKind.Fits (e.get f)

instance (e : Event) : Decidable e.Loggable :=
  decidable_of_iff (∀ f ∈ EventField.all, f.goKind.Fits (e.get f))
    ⟨fun h => ⟨fun f => h f (EventField.mem_all f)⟩, fun h f _ => h.fits f⟩

theorem Event.loggable_iff (e : Event) : e.Loggable ↔ GoKind.Fits .time e.atTime ∧
    (∀ x ∈ e.revealAfterMs, minInt64 ≤ x ∧ x ≤ maxInt64) ∧
    (∀ x ∈ e.current, minInt64 ≤ x ∧ x ≤ maxInt64) ∧ (∀ x ∈ e.total, minInt64 ≤ x ∧ x ≤ maxInt64) := by
  refine ⟨fun h => ⟨h.fits .atTime, h.fits .revealAfterMs, h.fits .current, h.fits .total⟩,
    fun ⟨ht, hr, hc, hto⟩ => ⟨fun f => ?_⟩⟩
  cases f <;> first | exact ht | exact hr | exact hc | exact hto | trivial

def fieldMembers (e : Event) (fs : List EventField) : List (List Char × JValue) :=
  (fs.filter (·.written e)).map fun (f : EventField) =>
    (f.jsonName.toList.flatMap escapeChar, f.goKind.toJValue (e.get f))

theorem encodeFields_reads {e : Event} (he : e.Loggable) (fs : List EventField) :
    ∃ ms, encodeFields e fs = .ok ms ∧ List.Forall₂ (MemberReads 1) ms (fieldMembers e fs) := by
  induction fs with
  | nil => exact ⟨[], rfl, .nil⟩
  | cons f fs ih =>
    obtain ⟨ms, hms, hr⟩ := ih
    by_cases hw : f.written e
    · obtain ⟨text, htext, ht⟩ := GoKind.encode_readsAs _ _ (he.fits f)
      refine ⟨(f.jsonName.toList, text) :: ms, by simp only [encodeFields, hw, if_true, htext, hms], ?_⟩
      simp only [fieldMembers, List.filter_cons, hw, if_true, List.map_cons]
      exact .cons ⟨rfl, ht⟩ hr
    · refine ⟨ms, by simp only [encodeFields, hw, hms, Bool.false_eq_true, if_false], ?_⟩
      simpa only [fieldMembers, List.filter_cons, hw] using hr

theorem marshalEvent_reads {e : Event} (he : e.Loggable) :
    ∃ b, marshalEvent e = .ok b ∧ parseJSON b = .ok (.object (fieldMembers e EventField.all)) := by
  obtain ⟨ms, hms, hr⟩ := encodeFields_reads he EventField.all
  exact ⟨_, by rw [marshalEvent, hms]; rfl, parseJSON_of_readsAs (readsAs_object hr) (by decide)⟩

theorem lookupField_jsonName (f : EventField) : lookupField f.jsonName.toList = some f := by
  cases f <;> rfl

theorem decodeMembers_fieldMembers {e : Event} (he : e.Loggable) (fs : List EventField)
    (acc : Event) : decodeMembers (fieldMembers e fs) acc none =
      ((fs.filter (·.written e)).foldl (fun acc f => acc.set f (e.get f)) acc, none) := by
  induction fs generalizing acc with
  | nil => rfl
  | cons f fs ih =>
    by_cases hw : f.written e
    · have hf : f.goKind.Fits (e.get f) := he.fits f
      simp only [fieldMembers, List.filter_cons, hw, if_true, List.map_cons, decodeMembers,
        unquote_escape, lookupField_jsonName, GoKind.store_toJValue _ _ _ hf, List.foldl_cons]
      exact ih _
    · simpa only [fieldMembers, List.filter_cons, hw] using ih acc

theorem Event.get_foldl_set (e : Event) (fs : List EventField) (acc : Event) (g : EventField) :
    (fs.foldl (fun acc f => acc.set f (e.get f)) acc).get g =
      if g ∈ fs then e.get g else acc.get g := by
  induction fs generalizing acc with
  | nil => simp
  | cons f fs ih =>
    rw [List.foldl_cons, ih]
    by_cases hg : g = f
    · subst hg
      simp
    · simp [hg, Event.get_set_ne _ hg]

theorem EventField.get_of_not_written {e : Event} {f : EventField} (h : f.written e = false) :
    e.get f = (Event.empty "").get f := by
  cases f <;> simp_all [EventField.written, EventField.omitEmpty, GoKind.isEmpty,
    EventField.goKind, Event.get, Event.empty]

theorem decodeEvent_marshalEvent {e : Event} (he : e.Loggable) :
    ∃ b, marshalEvent e = .ok b ∧ decodeEvent b = (e, none) := by
  obtain ⟨b, hb, hp⟩ := marshalEvent_reads he
  refine ⟨b, hb, ?_⟩
  simp only [decodeEvent, hp, decodeMembers_fieldMembers he]
  refine Prod.ext (Event.ext_get fun g => ?_) rfl
  rw [Event.get_foldl_set]
  by_cases hg : g.written e
  · rw [if_pos (List.mem_filter.2 ⟨EventField.mem_all g, hg⟩)]
  · rw [if_neg (show g ∉ EventField.all.filter (·.written e) from
      fun hm => hg (List.mem_filter.1 hm).2)]
    exact (EventField.get_of_not_written (by simpa using hg)).symm

end TiupPlayground
