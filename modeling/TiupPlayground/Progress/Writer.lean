import Mathlib.Data.List.Basic
import Mathlib.Data.List.Forall2

/-!
`uiWriter`, the `io.Writer` a `UI` hands out for plain text: `Write` buffers bytes up to a
newline and emits each completed line, without one trailing `\r`, in a `print_lines` event;
`drainBufferedLine` takes the partial line left over. Bytes are `UInt8`s, a Go string's bytes.

The lines do not depend on how the text is cut into `Write` calls: whatever the chunks, the
lines emitted are the pieces of the whole text between newlines, and the buffer holds the piece
after the last one, which `UI.PrintLines` prints before its own lines.
-/
namespace TiupPlayground

def newline : UInt8 := 10

def carriageReturn : UInt8 := 13

/-- `strings.TrimSuffix(line, "\r")`. -/
def trimCR (line : List UInt8) : List UInt8 :=
  if line.getLast? = some carriageReturn then line.dropLast else line

/-- `line` is `piece` with one trailing `\r` removed when it ends in one, as the spec words it. -/
def CRTrimmed (line piece : List UInt8) : Prop :=
  line = piece ∧ piece.getLast? ≠ some carriageReturn ∨ line ++ [carriageReturn] = piece

theorem trimCR_crTrimmed (piece : List UInt8) : CRTrimmed (trimCR piece) piece := by
  unfold trimCR CRTrimmed
  split
  · exact .inr (List.dropLast_append_getLast? _ ‹_›)
  · exact .inl ⟨rfl, ‹_›⟩

theorem map_trimCR_crTrimmed (raw : List (List UInt8)) :
    List.Forall₂ CRTrimmed (raw.map trimCR) raw :=
  List.forall₂_map_left_iff.2 (List.forall₂_same.2 fun piece _ => trimCR_crTrimmed piece)

/-- The loop of `uiWriter.Write` over `p`: the bytes before the first `\n` (`bytes.IndexByte`)
    are added to the buffer, whose contents are then taken as a line without one trailing `\r`
    and the buffer reset, and the loop goes on after the `\n`; with no `\n` left, the bytes are
    buffered. The new buffer and the completed lines. -/
def writeLines (buf p : List UInt8) : List UInt8 × List (List UInt8) :=
  match h : p.span (· != newline) with
  | (chunk, []) => (buf ++ chunk, [])
  | (chunk, _ :: rest) =>
    have : rest.length < p.length := by
      rw [List.span_eq_take_drop, Prod.mk.injEq] at h
      have := congrArg List.length (List.takeWhile_append_dropWhile (· != newline) p)
      rw [h.1, h.2, List.length_append, List.length_cons] at this
      omega
    let r := writeLines [] rest
    (r.1, trimCR (buf ++ chunk) :: r.2)
termination_by p.length

/-- `uiWriter.Write(p)` with the buffer `buf`, on a UI that is `closed` or not and whose mode is
    `ModeOff` or not: the new buffer and the `Lines` of the `print_lines` event it emits, if
    any. A closed or off UI drops the bytes. -/
def uiWriterWrite (closed modeOff : Bool) (buf p : List UInt8) :
    List UInt8 × Option (List (List UInt8)) :=
  if closed || modeOff then (buf, none)
  else
    let r := writeLines buf p
    (r.1, if r.2 = [] then none else some r.2)

@[simp] theorem uiWriterWrite_open (buf p : List UInt8) :
    uiWriterWrite false false buf p =
      ((writeLines buf p).1, if (writeLines buf p).2 = [] then none else some (writeLines buf p).2) :=
  rfl

/-- `uiWriter.drainBufferedLine`: the buffered line without one trailing `\r`, and the reset
    buffer. -/
def drainBufferedLine (buf : List UInt8) : List UInt8 × List UInt8 := (trimCR buf, [])

/-- Successive `Write` calls on an open UI whose mode is not off, from the buffer `buf`: the
    buffer after them and the `Lines` of the events they emit, in order. -/
def writeAll (buf : List UInt8) : List (List UInt8) → List UInt8 × List (List (List UInt8))
  | [] => (buf, [])
  | c :: cs =>
    let w := uiWriterWrite false false buf c
    let r := writeAll w.1 cs
    (r.1, w.2.toList ++ r.2)

theorem span_newline {p chunk rest : List UInt8} (h : p.span (· != newline) = (chunk, rest)) :
    p = chunk ++ rest ∧ newline ∉ chunk ∧ (rest = [] ∨ ∃ rest', rest = newline :: rest') := by
  rw [List.span_eq_take_drop, Prod.mk.injEq] at h
  obtain ⟨rfl, rfl⟩ := h
  refine ⟨(List.takeWhile_append_dropWhile _ _).symm, fun hm => ?_, ?_⟩
  · simpa using List.mem_takeWhile_imp hm
  · cases hd : p.dropWhile (· != newline) with
    | nil => exact .inl rfl
    | cons c rest' =>
      have := List.head_dropWhile_not (· != newline) p
      rw [hd] at this
      simp at this
      exact .inr ⟨rest', by rw [this]⟩

theorem writeLines_spec (buf p : List UInt8) (hb : newline ∉ buf) :
    ∃ raw, (writeLines buf p).2 = raw.map trimCR ∧ raw.length = p.count newline ∧
      newline ∉ (writeLines buf p).1 ∧
      ∀ Y, (buf ++ p ++ Y).splitOn newline = raw ++ ((writeLines buf p).1 ++ Y).splitOn newline := by
  induction buf, p using writeLines.induct with
  | case1 buf p chunk hspan =>
    obtain ⟨rfl, hc, -⟩ := span_newline hspan
    rw [writeLines]
    split
    · rename_i chunk' h'
      rw [hspan] at h'
      cases h'
      refine ⟨[], rfl, by simp [List.count_eq_zero_of_not_mem hc], ?_, fun Y => by simp⟩
      simp [hb, hc]
    · rename_i h'
      rw [hspan] at h'
      cases h'
  | case2 buf p chunk c rest hspan _ ih =>
    obtain ⟨rfl, hc, hrest⟩ := span_newline hspan
    obtain ⟨rest', hr⟩ : ∃ rest', c :: rest = newline :: rest' := by simpa using hrest
    obtain ⟨rfl, rfl⟩ := List.cons.inj hr
    obtain ⟨raw, hlines, hlen, hbuf, hsplit⟩ := ih (List.not_mem_nil _)
    rw [writeLines]
    split
    · rename_i h'
      rw [hspan] at h'
      cases h'
    · rename_i chunk' c' rest'' h'
      rw [hspan] at h'
      cases h'
      refine ⟨(buf ++ chunk) :: raw, by simp [hlines], ?_, hbuf, fun Y => ?_⟩
      · simp [List.count_append, List.count_eq_zero_of_not_mem hc, hlen]
      · have hsep : ∀ x ∈ buf ++ chunk, ¬ (x == newline) = true := by
          intro x hx he
          rw [beq_iff_eq.1 he] at hx
          rcases List.mem_append.1 hx with h | h
          · exact hb h
          · exact hc h
        rw [List.cons_append, ← hsplit Y, List.nil_append]
        simp only [List.splitOn, List.append_assoc, List.cons_append]
        rw [← List.append_assoc, List.splitOnP_first _ _ hsep _ (beq_self_eq_true _)]

theorem emitted_lines (l : List (List UInt8)) :
    (if l = [] then none else some l).toList.flatten = l := by
  split <;> simp_all

theorem writeAll_spec (buf : List UInt8) (hb : newline ∉ buf) (chunks : List (List UInt8)) :
    ∃ raw, (writeAll buf chunks).2.flatten = raw.map trimCR ∧
      raw.length = chunks.flatten.count newline ∧
      (buf ++ chunks.flatten).splitOn newline = raw ++ [(writeAll buf chunks).1] := by
  induction chunks generalizing buf with
  | nil =>
    refine ⟨[], rfl, rfl, ?_⟩
    simpa [List.splitOn] using
      List.splitOnP_eq_single (· == newline) buf fun x hx he => hb (beq_iff_eq.1 he ▸ hx)
  | cons c cs ih =>
    obtain ⟨raw, hlines, hlen, hbuf, hsplit⟩ := writeLines_spec buf c hb
    obtain ⟨raw', hlines', hlen', hsplit'⟩ := ih _ hbuf
    refine ⟨raw ++ raw', ?_, ?_, ?_⟩
    · simp only [writeAll, uiWriterWrite_open, List.flatten_append, emitted_lines, hlines, hlines',
        List.map_append]
    · simp [List.count_append, hlen, hlen']
    · rw [List.flatten_cons, ← List.append_assoc, hsplit, hsplit', List.append_assoc]
      rfl

theorem uiWriter_lines_ignore_chunking (chunks : List (List UInt8)) :
    ∃ raw last, chunks.flatten.splitOn newline = raw ++ [last] ∧
      raw.length = chunks.flatten.count newline ∧
      List.Forall₂ CRTrimmed (writeAll [] chunks).2.flatten raw ∧
      ∃ line, drainBufferedLine (writeAll [] chunks).1 = (line, []) ∧ CRTrimmed line last := by
  obtain ⟨raw, hlines, hlen, hsplit⟩ := writeAll_spec [] (List.not_mem_nil _) chunks
  exact ⟨raw, _, hsplit, hlen, hlines ▸ map_trimCR_crTrimmed raw, _, rfl, trimCR_crTrimmed _⟩

/-- `UI.PrintLines(lines)` with the writer's buffer `buf`, on a UI that is `closed` or not: the
    new buffer and the `Lines` of the `print_lines` event it emits, if any. The partial line it
    drains comes first, when not empty. -/
def printLines (closed : Bool) (buf : List UInt8) (lines : List (List UInt8)) :
    List UInt8 × Option (List (List UInt8)) :=
  if closed then (buf, none)
  else
    let d := drainBufferedLine buf
    let out := (if d.1 = [] then [] else [d.1]) ++ lines
    (d.2, if out = [] then none else some out)

@[simp] theorem printLines_open (buf : List UInt8) (lines : List (List UInt8)) :
    printLines false buf lines =
      ([], if (if trimCR buf = [] then [] else [trimCR buf]) ++ lines = [] then none
        else some ((if trimCR buf = [] then [] else [trimCR buf]) ++ lines)) :=
  rfl

theorem printLines_after_writes (chunks lines : List (List UInt8)) :
    ∃ raw last, chunks.flatten.splitOn newline = raw ++ [last] ∧
      (printLines false (writeAll [] chunks).1 lines).1 = [] ∧
      ∃ shown line, List.Forall₂ CRTrimmed shown raw ∧ CRTrimmed line last ∧
        ((writeAll [] chunks).2 ++ (printLines false (writeAll [] chunks).1 lines).2.toList).flatten =
          shown ++ (if line = [] then [] else [line]) ++ lines := by
  obtain ⟨raw, hlines, -, hsplit⟩ := writeAll_spec [] (List.not_mem_nil _) chunks
  refine ⟨raw, _, hsplit, rfl, _, _, map_trimCR_crTrimmed raw, trimCR_crTrimmed _, ?_⟩
  rw [List.flatten_append, hlines, printLines_open, emitted_lines, List.append_assoc]

end TiupPlayground
