import BuoyGateway.Decimal.Numeral

/-!
# Numbers and their digits

A number is read back from its digits, with or without zeros in front of them. A number that has
room in a width fills it with digits.
-/

namespace BuoyGateway

namespace Decimal

theorem ofDigits_eq_ofDigitChars (s : List Char) : ofDigits s = Nat.ofDigitChars 10 s 0 := rfl

theorem ofDigits_digits (n : Nat) : ofDigits (digits n) = n := Nat.ofDigitChars_ten_toDigits

theorem ofDigits_padded (width n : Nat) : ofDigits (padded width n) = n := by
  rw [padded, List.leftpad, ofDigits_eq_ofDigitChars, Nat.ofDigitChars_append,
    Nat.ofDigitChars_replicate_zero, Nat.mul_zero]
  exact ofDigits_digits n

theorem isDigit_of_mem_padded {width n : Nat} {c : Char} (h : c ∈ padded width n) :
    c.isDigit = true := by
  rw [padded, List.leftpad, List.mem_append] at h
  rcases h with h | h
  · rw [(List.mem_replicate.1 h).2]
    rfl
  · exact Nat.isDigit_of_mem_toDigits (by decide) (by decide) h

theorem isDigit_of_mem_digits {n : Nat} {c : Char} (h : c ∈ digits n) : c.isDigit = true :=
  Nat.isDigit_of_mem_toDigits (by decide) (by decide) h

theorem eq_zero_of_digits_eq_cons {n : Nat} {rest : List Char} (h : digits n = '0' :: rest) :
    n = 0 := by
  induction n using Nat.strongRecOn generalizing rest with
  | ind n ih =>
    by_cases hn : n < 10
    · have hall : ∀ n < 10, n.digitChar = '0' → n = 0 := by decide
      rw [digits, Nat.toDigits_of_lt_base hn] at h
      exact hall n hn (List.head_eq_of_cons_eq h)
    · have hrest : digits n = digits (n / 10) ++ [(n % 10).digitChar] :=
        Nat.toDigits_of_base_le (by decide) (by omega)
      rw [hrest] at h
      cases hfront : digits (n / 10) with
      | nil => exact absurd hfront Nat.toDigits_ne_nil
      | cons c front =>
        rw [hfront, List.cons_append] at h
        have hc : c = '0' := List.head_eq_of_cons_eq h
        have hzero := ih (n / 10) (by omega) (hc ▸ hfront)
        omega

theorem isDigit_iff {c : Char} : c.isDigit = true ↔ 48 ≤ c.val.toNat ∧ c.val.toNat ≤ 57 := by
  simp only [Char.isDigit, Bool.and_eq_true, decide_eq_true_eq, UInt32.le_iff_toNat_le]
  rfl

theorem ofDigits_lt {digits : List Char} (h : ∀ c ∈ digits, c.isDigit = true) :
    ofDigits digits < Nat.pow 10 digits.length := by
  have hfold : ∀ v, digits.foldl (fun n c => 10 * n + digitValue c) v <
      (v + 1) * Nat.pow 10 digits.length := by
    induction digits with
    | nil => exact fun v => Nat.lt_of_lt_of_eq (Nat.lt_succ_self v) (Nat.mul_one _).symm
    | cons c digits ih =>
      intro v
      have hc : digitValue c < 10 := by
        have hdigit := isDigit_iff.1 (h c List.mem_cons_self)
        change c.val.toNat - 48 < 10
        omega
      have hrest := ih (fun d hd => h d (List.mem_cons_of_mem c hd)) (10 * v + digitValue c)
      calc digits.foldl (fun n c => 10 * n + digitValue c) (10 * v + digitValue c)
          < (10 * v + digitValue c + 1) * Nat.pow 10 digits.length := hrest
        _ ≤ ((v + 1) * 10) * Nat.pow 10 digits.length := Nat.mul_le_mul_right _ (by omega)
        _ = (v + 1) * (Nat.pow 10 digits.length * 10) := by ac_rfl
  exact Nat.lt_of_lt_of_eq (hfold 0) (Nat.one_mul _)

theorem digits_injective {m n : Nat} (h : digits m = digits n) : m = n := by
  rw [← ofDigits_digits m, h, ofDigits_digits]

theorem length_padded {width n : Nat} (hw : 0 < width) (h : n < Nat.pow 10 width) :
    (padded width n).length = width := by
  have hle : (digits n).length ≤ width := (Nat.length_toDigits_le_iff (by decide) hw).2 h
  rw [padded, List.leftpad, List.length_append, List.length_replicate]
  omega

end Decimal

end BuoyGateway
