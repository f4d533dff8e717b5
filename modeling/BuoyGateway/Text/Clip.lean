/-!
# Text measured in octets

The cellular network counts a text in octets of its UTF-8 form. `octets` is that measure, and
`clip` cuts a text to a bound without splitting a character. Where the bound lies inside a character,
`lastPosition?` steps back from it to the octet that the character begins with.
-/

namespace BuoyGateway.Text

/-- Octets that a list of characters takes in UTF-8. -/
def octets : List Char → Nat
  | [] => 0
  | c :: s => c.utf8Size + octets s

/-- Octets that a text takes in UTF-8. -/
def size (s : String) : Nat := octets s.toList

/-- The position between two characters of `s`, or at an end, that is found by stepping back octet by
octet from an offset; `none` if the search would have to go below zero. -/
def lastPosition? (s : String) : Nat → Option s.Pos
  | 0 => s.pos? 0
  | offset + 1 =>
    match s.pos? ⟨offset + 1⟩ with
    | some position => some position
    | none => lastPosition? s offset

theorem octets_nil : octets [] = 0 := rfl

theorem octets_cons (c : Char) (s : List Char) : octets (c :: s) = c.utf8Size + octets s := rfl

theorem octets_append (s t : List Char) : octets (s ++ t) = octets s + octets t := by
  induction s with
  | nil => simp [octets]
  | cons c s ih => rw [List.cons_append, octets_cons, octets_cons, ih, Nat.add_assoc]

theorem octets_eq_zero_iff {s : List Char} : octets s = 0 ↔ s = [] := by
  cases s with
  | nil => exact iff_of_true rfl rfl
  | cons c s =>
    have hpos := c.utf8Size_pos
    rw [octets_cons]
    exact iff_of_false (by omega) (List.cons_ne_nil c s)

theorem pos?_eq_some_iff {s : String} {offset : String.Pos.Raw} {p : s.Pos} :
    s.pos? offset = some p ↔ p.offset = offset := by
  simp only [String.pos?, String.Slice.pos?]
  by_cases h : offset.IsValid s
  · rw [dif_pos (String.Pos.Raw.isValidForSlice_eq_true_iff.2 h.toSlice), Option.map_some,
      Option.some_inj, String.Pos.ext_iff]
    exact eq_comm
  · rw [dif_neg (fun hs => h (String.Pos.Raw.isValidForSlice_eq_true_iff.1 hs).ofSlice),
      Option.map_none]
    refine iff_of_false nofun ?_
    rintro rfl
    exact h p.isValid

theorem exists_lastPosition? (s : String) (offset : Nat) :
    ∃ p, lastPosition? s offset = some p ∧ p.offset.byteIdx ≤ offset ∧
      ∀ q : s.Pos, q.offset.byteIdx ≤ offset → q.offset.byteIdx ≤ p.offset.byteIdx := by
  induction offset with
  | zero =>
    -- The start of a text is a position, so the search ends there at the latest.
    have hstart : s.startPos.offset.byteIdx = 0 := rfl
    exact ⟨s.startPos, pos?_eq_some_iff.2 s.offset_startPos, by omega, fun q hq => by omega⟩
  | succ offset ih =>
    rw [lastPosition?]
    cases hpos : s.pos? ⟨offset + 1⟩ with
    | some p =>
      have hp : p.offset.byteIdx = offset + 1 :=
        congrArg String.Pos.Raw.byteIdx (pos?_eq_some_iff.1 hpos)
      exact ⟨p, rfl, by omega, fun q hq => by omega⟩
    | none =>
      obtain ⟨p, hsearch, hle, hlast⟩ := ih
      refine ⟨p, hsearch, by omega, fun q hq => hlast q ?_⟩
      have hq' : q.offset.byteIdx ≠ offset + 1 := by
        intro he
        have := pos?_eq_some_iff.2 (String.Pos.Raw.ext (y := ⟨offset + 1⟩) he)
        rw [hpos] at this
        cases this
      omega

theorem isSome_lastPosition? (s : String) (offset : Nat) : (lastPosition? s offset).isSome := by
  obtain ⟨p, hp, -⟩ := exists_lastPosition? s offset
  rw [hp]
  rfl

/-- `s` cut to at most `max` octets, between characters. -/
def clip (s : String) (max : Nat) : String :=
  if s.utf8ByteSize ≤ max then s
  else (s.sliceTo ((lastPosition? s max).get (isSome_lastPosition? s max))).copy

end BuoyGateway.Text
