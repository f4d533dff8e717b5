import BuoyGateway.Proofs.Text.Utf8

/-!
# Newlines among octets

A newline is an octet of its own: no character and no part of one holds its octet. So an ill-formed
run ends before a newline, and what follows the newline is read as if it stood alone. Characters that
octets spell with replacement hold a newline exactly where the octets do.
-/

namespace BuoyGateway.Text

variable {state : Utf8State} {b : UInt8} {octets : List UInt8}

namespace Utf8State

/-- A state that is reached: the octets that go on are none of ASCII, and neither is the character
that they complete. -/
def Proper : Utf8State → Prop
  | .between => True
  | .inside value low _ 0 => 0x80 ≤ low.toNat ∧ 2 ≤ value
  | .inside value low _ (_ + 1) => 0x80 ≤ low.toNat ∧ 2 ≤ 64 * value + (low.toNat - 0x80)

theorem Proper.low {value more : Nat} {low high : UInt8} (h : (inside value low high more).Proper) :
    0x80 ≤ low.toNat := by
  cases more with
  | zero => exact h.1
  | succ more => exact h.1

/-- A first octet that does not stand alone begins a character. -/
theorem first_inside (h : first b = some (.ok state)) :
    ∃ value low high more, state = .inside value low high more ∧ state.Proper := by
  unfold first at h
  simp only [] at h
  split at h
  · cases h
  split at h
  · cases h
  split at h
  · cases h
    exact ⟨_, _, _, _, rfl, Nat.le_refl _, by omega⟩
  split at h
  · cases h
    exact ⟨_, _, _, _, rfl, by decide, by decide⟩
  split at h
  · cases h
    exact ⟨_, _, _, _, rfl, by decide, by decide⟩
  split at h
  · cases h
    exact ⟨_, _, _, _, rfl, Nat.le_refl _, by omega⟩
  split at h
  · cases h
    exact ⟨_, _, _, _, rfl, by decide, by decide⟩
  split at h
  · cases h
    exact ⟨_, _, _, _, rfl, Nat.le_refl _, by omega⟩
  split at h
  · cases h
    exact ⟨_, _, _, _, rfl, by decide, by decide⟩
  · cases h

theorem char_ne_newline {n : Nat} (h : n ≠ 10) : Char.ofNat n ≠ '\n' := by
  by_cases hn : n.isValidChar
  · have hvalue : (Char.ofNat n).toNat = n := by
      rw [Char.ofNat, dif_pos hn]
      rfl
    intro he
    exact h (hvalue.symm.trans (congrArg Char.toNat he))
  · rw [Char.ofNat, dif_neg hn]
    decide

theorem first_ne_newline {c : Char} (hb : b ≠ 10) (h : first b = some (.error c)) : c ≠ '\n' := by
  have hn : b.toNat ≠ 10 := fun hn => hb (UInt8.toNat_inj.1 hn)
  unfold first at h
  simp only [] at h
  split at h
  · cases h
    exact char_ne_newline hn
  · iterate 8
      split at h
      · cases h
    cases h

theorem begin_proper (b : UInt8) : (begin b).2.Proper := by
  unfold begin
  split
  · exact trivial
  · exact trivial
  · next h =>
    obtain ⟨_, _, _, _, -, hproper⟩ := first_inside h
    exact hproper

theorem newline_notMem_begin (hb : b ≠ 10) : some '\n' ∉ (begin b).1 := by
  unfold begin
  split
  · simp
  · next h => simpa using Ne.symm (first_ne_newline hb h)
  · simp

theorem step_proper (h : state.Proper) (b : UInt8) : (state.step b).2.Proper := by
  cases state with
  | between => exact begin_proper b
  | inside value low high more =>
    simp only [step]
    split
    · next hb =>
      rw [Bool.and_eq_true, decide_eq_true_eq, decide_eq_true_eq, UInt8.le_iff_toNat_le] at hb
      cases more with
      | zero => exact trivial
      | succ more =>
        have hlow := h.low
        have hvalue : 2 ≤ 64 * value + (low.toNat - 0x80) := h.2
        have hmore : 2 ≤ 64 * value + (b.toNat - 0x80) := by omega
        cases more with
        | zero => exact ⟨Nat.le_refl _, hmore⟩
        | succ more => exact ⟨Nat.le_refl _, by omega⟩
    · exact begin_proper b

theorem newline_notMem_step (h : state.Proper) (hb : b ≠ 10) : some '\n' ∉ (state.step b).1 := by
  cases state with
  | between => exact newline_notMem_begin hb
  | inside value low high more =>
    simp only [step]
    split
    · next hb =>
      cases more with
      | zero =>
        have hvalue : 2 ≤ value := h.2
        simpa using Ne.symm (char_ne_newline (show 64 * value + (b.toNat - 0x80) ≠ 10 by omega))
      | succ more => simp
    · simpa using newline_notMem_begin hb

theorem step_newline (h : state.Proper) :
    (state.step 10).1 = pieces state [] ++ [some '\n'] ∧ (state.step 10).2 = .between := by
  cases state with
  | between => exact ⟨rfl, rfl⟩
  | inside value low high more =>
    have hlow : ¬ low ≤ 10 := by
      have := h.low
      rw [UInt8.le_iff_toNat_le]
      change ¬ low.toNat ≤ 10
      omega
    simp only [step, hlow, decide_false, Bool.false_and, Bool.false_eq_true, if_false]
    exact ⟨rfl, rfl⟩

end Utf8State

open Utf8State

/-! ### Pieces -/

theorem pieces_append_newline (h : state.Proper) (octets more : List UInt8) :
    pieces state (octets ++ 10 :: more) =
      pieces state octets ++ some '\n' :: pieces .between more := by
  induction octets generalizing state with
  | nil =>
    obtain ⟨hadded, hstate⟩ := step_newline h
    rw [List.nil_append, pieces_cons, hadded, hstate, List.append_assoc]
    rfl
  | cons b octets ih =>
    rw [List.cons_append, pieces_cons, pieces_cons, ih (step_proper h b), List.append_assoc]

theorem newline_notMem_pieces (h : state.Proper) (hoctets : 10 ∉ octets) :
    some '\n' ∉ pieces state octets := by
  induction octets generalizing state with
  | nil => cases state <;> simp [pieces]
  | cons b octets ih =>
    rw [List.mem_cons, not_or] at hoctets
    obtain ⟨hb, hoctets⟩ := hoctets
    rw [pieces_cons, List.mem_append, not_or]
    exact ⟨newline_notMem_step h (Ne.symm hb), ih (step_proper h b) hoctets⟩

theorem pieces_inside_ne_nil (value : Nat) (low high : UInt8) (more : Nat) (octets : List UInt8) :
    pieces (.inside value low high more) octets ≠ [] := by
  induction octets generalizing value low high more with
  | nil => simp [pieces]
  | cons b octets ih =>
    rw [pieces_cons]
    simp only [step]
    split
    · cases more with
      | zero => simp
      | succ more => simpa using ih _ _ _ more
    · simp

theorem pieces_eq_nil_iff : pieces .between octets = [] ↔ octets = [] := by
  cases octets with
  | nil => simp [pieces]
  | cons b octets =>
    refine iff_of_false ?_ (List.cons_ne_nil _ _)
    rw [pieces_cons, List.append_eq_nil_iff]
    rintro ⟨hadded, hrest⟩
    simp only [step, begin] at hadded hrest
    split at hadded
    · cases hadded
    · cases hadded
    · next state hfirst =>
      rw [hfirst] at hrest
      obtain ⟨value, low, high, more, rfl, -⟩ := first_inside hfirst
      exact pieces_inside_ne_nil value low high more octets hrest

/-! ### Characters with replacement -/

theorem decodeLossy_append_newline (octets more : List UInt8) :
    decodeLossy (octets ++ 10 :: more) = decodeLossy octets ++ '\n' :: decodeLossy more := by
  simp only [decodeLossy, pieces_append_newline (show Utf8State.between.Proper from trivial),
    List.map_append, List.map_cons, Option.getD_some]

theorem newline_notMem_decodeLossy (h : 10 ∉ octets) : '\n' ∉ decodeLossy octets := by
  intro hmem
  obtain ⟨piece, hpiece, he⟩ := List.mem_map.1 hmem
  cases piece with
  | none => exact absurd he (by decide)
  | some c =>
    obtain rfl : c = '\n' := he
    exact newline_notMem_pieces (show Utf8State.between.Proper from trivial) h hpiece

@[simp]
theorem decodeLossy_eq_nil_iff : decodeLossy octets = [] ↔ octets = [] := by
  rw [decodeLossy, List.map_eq_nil_iff, pieces_eq_nil_iff]

end BuoyGateway.Text
