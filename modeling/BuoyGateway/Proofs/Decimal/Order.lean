import BuoyGateway.Proofs.Decimal.Numeral
import Mathlib.Tactic.Ring

/-!
# The order of numerals

Numerals of one width are in the order of their numbers, whatever follows them. A numeral that
outgrows the width of another one is compared by its leading digits.
-/

namespace BuoyGateway.Decimal

variable {s t : List Char} {a b width : Nat}

theorem foldl_digits (s : List Char) (n : Nat) :
    s.foldl (fun n c => 10 * n + digitValue c) n = n * 10 ^ s.length + ofDigits s := by
  induction s generalizing n with
  | nil => simp [ofDigits]
  | cons c s ih =>
    rw [ofDigits, List.foldl_cons, List.foldl_cons, ih, ih, List.length_cons, pow_succ]
    ring

theorem ofDigits_cons (c : Char) (s : List Char) :
    ofDigits (c :: s) = digitValue c * 10 ^ s.length + ofDigits s := by
  rw [ofDigits, List.foldl_cons, foldl_digits, Nat.mul_zero, Nat.zero_add]

theorem ofDigits_append (s t : List Char) :
    ofDigits (s ++ t) = ofDigits s * 10 ^ t.length + ofDigits t := by
  rw [ofDigits, List.foldl_append, foldl_digits t]
  rfl

theorem toNat_of_isDigit {c : Char} (h : c.isDigit = true) : c.val.toNat = digitValue c + 48 := by
  have := isDigit_iff.1 h
  change c.val.toNat = c.val.toNat - 48 + 48
  omega

/-- The first numeral comes before the other one in value, and as a text whatever follows them. -/
def ComesBefore (s t : List Char) : Prop :=
  ofDigits s < ofDigits t ∧ ∀ rest rest' : List Char, s ++ rest < t ++ rest'

/-- A digit that is worth more decides, whatever digits follow. -/
theorem comesBefore_of_lt {c d : Char} (hc : c.isDigit = true) (hd : d.isDigit = true)
    (hs : ∀ c ∈ s, c.isDigit = true) (hlength : s.length = t.length)
    (h : digitValue c < digitValue d) : ComesBefore (c :: s) (d :: t) := by
  constructor
  · calc ofDigits (c :: s) = digitValue c * 10 ^ s.length + ofDigits s := ofDigits_cons c s
      _ < digitValue c * 10 ^ s.length + 10 ^ s.length := Nat.add_lt_add_left (ofDigits_lt hs) _
      _ = (digitValue c + 1) * 10 ^ s.length := (Nat.succ_mul _ _).symm
      _ ≤ digitValue d * 10 ^ s.length := Nat.mul_le_mul_right _ h
      _ ≤ digitValue d * 10 ^ t.length + ofDigits t := by
        rw [hlength]
        exact Nat.le_add_right _ _
      _ = ofDigits (d :: t) := (ofDigits_cons d t).symm
  · intro rest rest'
    rw [List.cons_append, List.cons_append, List.cons_lt_cons_iff]
    left
    rw [Char.lt_def, UInt32.lt_iff_toNat_lt, toNat_of_isDigit hc, toNat_of_isDigit hd]
    omega

theorem ComesBefore.cons {c : Char} (hlength : s.length = t.length) (h : ComesBefore s t) :
    ComesBefore (c :: s) (c :: t) := by
  constructor
  · rw [ofDigits_cons, ofDigits_cons, hlength]
    exact Nat.add_lt_add_left h.1 _
  · intro rest rest'
    exact List.cons_lt_cons_iff.2 (Or.inr ⟨rfl, h.2 rest rest'⟩)

/-- Of two numerals of one width that differ one comes before the other. -/
theorem comesBefore_trichotomy (hs : ∀ c ∈ s, c.isDigit = true) (ht : ∀ c ∈ t, c.isDigit = true)
    (hlength : s.length = t.length) : ComesBefore s t ∨ s = t ∨ ComesBefore t s := by
  induction s generalizing t with
  | nil => exact Or.inr (Or.inl (List.length_eq_zero_iff.1 hlength.symm).symm)
  | cons c s ih =>
    cases t with
    | nil => cases hlength
    | cons d t =>
      have hrest : s.length = t.length := Nat.succ.inj hlength
      rw [List.forall_mem_cons] at hs ht
      rcases Nat.lt_trichotomy (digitValue c) (digitValue d) with hlt | heq | hgt
      · exact Or.inl (comesBefore_of_lt hs.1 ht.1 hs.2 hrest hlt)
      · have hcd : c = d := by
          refine Char.ext (UInt32.toNat_inj.1 ?_)
          rw [toNat_of_isDigit hs.1, toNat_of_isDigit ht.1, heq]
        rw [hcd]
        rcases ih hs.2 ht.2 hrest with h | h | h
        · exact Or.inl (h.cons hrest)
        · exact Or.inr (Or.inl (by rw [h]))
        · exact Or.inr (Or.inr (h.cons hrest.symm))
      · exact Or.inr (Or.inr (comesBefore_of_lt ht.1 hs.1 ht.2 hrest.symm hgt))

/-- Numerals of one width are in the order of their numbers. -/
theorem append_lt_append (hs : ∀ c ∈ s, c.isDigit = true) (ht : ∀ c ∈ t, c.isDigit = true)
    (hlength : s.length = t.length) (h : ofDigits s < ofDigits t) (rest rest' : List Char) :
    s ++ rest < t ++ rest' := by
  rcases comesBefore_trichotomy hs ht hlength with hlt | rfl | hgt
  · exact hlt.2 rest rest'
  · exact absurd h (Nat.lt_irrefl _)
  · exact absurd hgt.1 (Nat.lt_asymm h)

theorem eq_of_ofDigits_eq (hs : ∀ c ∈ s, c.isDigit = true) (ht : ∀ c ∈ t, c.isDigit = true)
    (hlength : s.length = t.length) (h : ofDigits s = ofDigits t) : s = t := by
  rcases comesBefore_trichotomy hs ht hlength with hlt | heq | hgt
  · exact absurd h (Nat.ne_of_lt hlt.1)
  · exact heq
  · exact absurd h (Nat.ne_of_gt hgt.1)

/-! ### Numerals with zeros in front -/

/-- Numbers that have room in a width are in the order of their numerals. -/
theorem padded_lt_padded (ha : a < 10 ^ width) (hb : b < 10 ^ width) (hw : 0 < width)
    {rest rest' : List Char} (h : a < b ∨ a = b ∧ rest < rest') :
    padded width a ++ rest < padded width b ++ rest' := by
  rcases h with h | ⟨rfl, h⟩
  · refine append_lt_append (fun _ => isDigit_of_mem_padded) (fun _ => isDigit_of_mem_padded) ?_ ?_
      rest rest'
    · rw [length_padded hw ha, length_padded hw hb]
    · rwa [ofDigits_padded, ofDigits_padded]
  · exact List.append_left_lt h

theorem length_padded_mono (h : a ≤ b) : (padded width a).length ≤ (padded width b).length := by
  have hdigits : (digits a).length ≤ (digits b).length := by
    have hpos : 0 < (digits b).length := List.length_pos_iff.2 Nat.toDigits_ne_nil
    refine (Nat.length_toDigits_le_iff (by decide) hpos).2 (Nat.lt_of_le_of_lt h ?_)
    exact (Nat.length_toDigits_le_iff (by decide) hpos).1 (Nat.le_refl _)
  simp only [padded, List.leftpad, List.length_append, List.length_replicate]
  omega

/-- A number is at most what the leading digits of another one are worth, as many as it has itself
with zeros up to a width. -/
def LeadsUpTo (width a b : Nat) : Prop :=
  a ≤ b / 10 ^ ((padded width b).length - (padded width a).length)

instance (width a b : Nat) : Decidable (LeadsUpTo width a b) := inferInstanceAs (Decidable (_ ≤ _))

theorem ofDigits_take (k : Nat) (h : ∀ c ∈ s, c.isDigit = true) :
    ofDigits (s.take k) = ofDigits s / 10 ^ (s.length - k) := by
  have hrest : ofDigits (s.drop k) < 10 ^ (s.length - k) := by
    have := ofDigits_lt (fun c hc => h c (List.mem_of_mem_drop hc) : ∀ c ∈ s.drop k, _)
    rwa [List.length_drop] at this
  have hsplit := ofDigits_append (s.take k) (s.drop k)
  rw [List.take_append_drop, List.length_drop] at hsplit
  rw [hsplit, Nat.mul_comm, Nat.mul_add_div (Nat.pow_pos (by decide)), Nat.div_eq_of_lt hrest,
    Nat.add_zero]

/-- A number comes before a greater one that it leads up to, if what follows it is less than a
digit. -/
theorem padded_append_lt (h : a < b) (hlead : LeadsUpTo width a b) {c : Char} (hc : c < '0')
    (rest rest' : List Char) : padded width a ++ c :: rest < padded width b ++ rest' := by
  have hdigits : ∀ n, ∀ c ∈ padded width n, c.isDigit = true := fun _ _ => isDigit_of_mem_padded
  obtain ⟨k, hk⟩ : ∃ k, k = (padded width a).length := ⟨_, rfl⟩
  have hle : k ≤ (padded width b).length := hk ▸ length_padded_mono (Nat.le_of_lt h)
  have htake : ∀ c ∈ (padded width b).take k, c.isDigit = true :=
    fun c hc => hdigits b c (List.mem_of_mem_take hc)
  have hlength : (padded width a).length = ((padded width b).take k).length := by
    rw [List.length_take, Nat.min_eq_left hle, hk]
  have hvalue := ofDigits_take k (hdigits b)
  rw [ofDigits_padded] at hvalue
  rw [LeadsUpTo, ← hk, ← hvalue] at hlead
  rw [← List.take_append_drop k (padded width b), List.append_assoc]
  rcases Nat.lt_or_eq_of_le hlead with hlt | heq
  · exact append_lt_append (hdigits a) htake hlength (by rwa [ofDigits_padded]) _ _
  · have hsame : padded width a = (padded width b).take k :=
      eq_of_ofDigits_eq (hdigits a) htake hlength (by rw [ofDigits_padded, heq])
    rw [hsame]
    refine List.append_left_lt ?_
    cases hdrop : (padded width b).drop k with
    | nil =>
      -- The other numeral is no longer, so it is the same, but its number is greater.
      have hb : padded width b = padded width a := by
        rw [hsame, ← List.append_nil ((padded width b).take k), ← hdrop, List.take_append_drop]
      have hab := congrArg ofDigits hb
      rw [ofDigits_padded, ofDigits_padded] at hab
      exact absurd hab (Nat.ne_of_gt h)
    | cons d more =>
      have hd : d.isDigit = true :=
        hdigits b d (List.mem_of_mem_drop (hdrop ▸ List.mem_cons_self))
      rw [List.cons_append, List.cons_lt_cons_iff]
      left
      rw [Char.lt_def, UInt32.lt_iff_toNat_lt] at hc ⊢
      exact Nat.lt_of_lt_of_le hc (isDigit_iff.1 hd).1

end BuoyGateway.Decimal
