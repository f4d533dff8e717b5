import BuoyGateway.Launch.Output
import BuoyGateway.Proofs.Text.Lossy
import Mathlib.Data.List.DropRight

/-!
# Lines of a channel

`Output.linesOf` reads a channel as a whole: all its octets are decoded with replacement, the
characters are split at newlines, and carriage returns are taken off the end of each line. A reader of
lines gives the same lines, though it decodes each line by itself and sees the octets one at a time.
-/

namespace BuoyGateway

namespace Text

variable {s : List Char}

/-- The lines of characters. Characters after the last newline are a line, nothing is not. -/
def splitLines (s : List Char) : List (List Char) :=
  let parts := s.splitOn '\n'
  if parts.getLast? = some [] then parts.dropLast else parts

theorem ne_newline_of_notMem (h : '\n' ∉ s) : ∀ c ∈ s, (c == '\n') = false := by
  rintro c hc
  exact beq_eq_false_iff_ne.2 (fun he => h (he ▸ hc))

theorem splitOn_newline (h : '\n' ∉ s) (more : List Char) :
    (s ++ '\n' :: more).splitOn '\n' = s :: more.splitOn '\n' :=
  List.splitOnP_append_cons_of_forall_mem (ne_newline_of_notMem h) '\n' rfl more

theorem splitOn_last (h : '\n' ∉ s) : s.splitOn '\n' = [s] :=
  List.splitOnP_eq_singleton (ne_newline_of_notMem h)

theorem splitLines_newline (h : '\n' ∉ s) (more : List Char) :
    splitLines (s ++ '\n' :: more) = s :: splitLines more := by
  obtain ⟨part, parts, hparts⟩ := List.exists_cons_of_ne_nil (List.splitOn_ne_nil '\n' more)
  simp only [splitLines, splitOn_newline h, hparts, List.getLast?_cons_cons,
    List.dropLast_cons_cons]
  split <;> rfl

theorem splitLines_last (h : '\n' ∉ s) (hs : s ≠ []) : splitLines s = [s] := by
  simp [splitLines, splitOn_last h, hs]

end Text

namespace Output

variable {octets : List UInt8}

def withoutReturns (s : List Char) : String := String.ofList (s.rdropWhile (· == '\r'))

def linesOf (octets : List UInt8) : List String :=
  (Text.splitLines (Text.decodeLossy octets)).map withoutReturns

theorem linesOf_newline (h : newline ∉ octets) (more : List UInt8) :
    linesOf (octets ++ newline :: more) =
      withoutReturns (Text.decodeLossy octets) :: linesOf more := by
  change (Text.splitLines (Text.decodeLossy (octets ++ 10 :: more))).map withoutReturns = _
  rw [Text.decodeLossy_append_newline,
    Text.splitLines_newline (Text.newline_notMem_decodeLossy h), List.map_cons, linesOf]

theorem linesOf_last (h : newline ∉ octets) (hne : octets ≠ []) :
    linesOf octets = [withoutReturns (Text.decodeLossy octets)] := by
  rw [linesOf, Text.splitLines_last (Text.newline_notMem_decodeLossy h)
    (mt Text.decodeLossy_eq_nil_iff.1 hne), List.map_singleton]

/-! ### One line -/

theorem withoutLineEnds_eq {s : List Char} (h : '\n' ∉ s) :
    String.ofList (withoutLineEnds s) = withoutReturns s := by
  have hends : ∀ t : List Char, '\n' ∉ t → t.dropWhile isLineEnd = t.dropWhile (· == '\r') := by
    intro t ht
    induction t with
    | nil => rfl
    | cons c t ih =>
      rw [List.mem_cons, not_or] at ht
      have hc : isLineEnd c = (c == '\r') := by
        rw [isLineEnd, beq_eq_false_iff_ne.2 (Ne.symm ht.1), Bool.false_or]
      simp only [List.dropWhile_cons, hc, ih ht.2]
  rw [withoutLineEnds, hends _ (fun hmem => h (List.mem_reverse.1 hmem)), withoutReturns,
    List.rdropWhile]

theorem line_of_open (h : newline ∉ octets) :
    line octets = withoutReturns (Text.decodeLossy octets) :=
  withoutLineEnds_eq (Text.newline_notMem_decodeLossy h)

theorem line_of_ended (h : newline ∉ octets) :
    line (octets ++ [newline]) = withoutReturns (Text.decodeLossy octets) := by
  have hnewline : withoutLineEnds (Text.decodeLossy (octets ++ [newline])) =
      withoutLineEnds (Text.decodeLossy octets) := by
    change withoutLineEnds (Text.decodeLossy (octets ++ 10 :: [])) = _
    rw [Text.decodeLossy_append_newline]
    simp [withoutLineEnds, isLineEnd, Text.decodeLossy, Text.pieces]
  rw [line, hnewline, ← line, line_of_open h]

/-! ### A reader -/

namespace LineReader

theorem feed_cons (reader : LineReader) (b : UInt8) (octets : List UInt8) :
    reader.feed (b :: octets) = ((reader.feed [b]).1 ++ ((reader.feed [b]).2.feed octets).1,
      ((reader.feed [b]).2.feed octets).2) := by
  by_cases hb : b = newline
  · simp only [feed, if_pos hb, List.cons_append, List.nil_append]
  · simp only [feed, if_neg hb, List.nil_append]

/-- Octets that come in two pieces are read as if they came in one. -/
theorem feed_append (reader : LineReader) (octets more : List UInt8) :
    reader.feed (octets ++ more) = ((reader.feed octets).1 ++ ((reader.feed octets).2.feed more).1,
      ((reader.feed octets).2.feed more).2) := by
  induction octets generalizing reader with
  | nil => rfl
  | cons b octets ih =>
    rw [List.cons_append, feed_cons, ih, feed_cons reader b octets, List.append_assoc]

def readOut (reader : LineReader) (octets : List UInt8) : List String :=
  (reader.feed octets).1 ++ (reader.feed octets).2.finish

theorem readOut_append (reader : LineReader) (octets more : List UInt8) :
    reader.readOut (octets ++ more) =
      (reader.feed octets).1 ++ (reader.feed octets).2.readOut more := by
  rw [readOut, feed_append, List.append_assoc]
  rfl

/-- A reader gives the lines of its channel, the octets since the last newline included. -/
theorem readOut_eq (reader : LineReader) (h : newline ∉ reader.pending) (octets : List UInt8) :
    reader.readOut octets = linesOf (reader.pending.reverse ++ octets) := by
  induction octets generalizing reader with
  | nil =>
    obtain ⟨pending⟩ := reader
    rw [List.append_nil]
    cases pending with
    | nil => rfl
    | cons b pending =>
      have hopen : newline ∉ (b :: pending).reverse := fun hmem => h (List.mem_reverse.1 hmem)
      rw [linesOf_last hopen (by simp), ← line_of_open hopen]
      rfl
  | cons b octets ih =>
    by_cases hb : b = newline
    · subst hb
      have hopen : newline ∉ reader.pending.reverse := fun hmem => h (List.mem_reverse.1 hmem)
      have hrest : readOut {} octets = linesOf octets := ih {} List.not_mem_nil
      rw [linesOf_newline hopen, ← hrest, ← line_of_ended hopen, ← List.reverse_cons]
      rfl
    · have hopen : newline ∉ b :: reader.pending := by
        rw [List.mem_cons, not_or]
        exact ⟨Ne.symm hb, h⟩
      have hrest := ih ⟨b :: reader.pending⟩ hopen
      rw [List.reverse_cons, List.append_assoc, List.singleton_append] at hrest
      rw [← hrest]
      simp only [readOut, feed, if_neg hb]

theorem readOut_new (octets : List UInt8) : readOut {} octets = linesOf octets :=
  readOut_eq {} List.not_mem_nil octets

end LineReader

end Output

end BuoyGateway
