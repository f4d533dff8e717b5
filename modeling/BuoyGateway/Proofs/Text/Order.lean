import BuoyGateway.Text.Utf8

/-!
# The order of written texts

Texts are in the order of their octets: where two characters differ, an octet of theirs differs the
same way before either of them ends.
-/

namespace BuoyGateway.Text

variable {s t : List UInt8} {x y : Nat}

theorem ofNat_cons_lt (h : x < y) (hy : y < 256) : UInt8.ofNat x :: s < UInt8.ofNat y :: t := by
  have hlt : UInt8.ofNat x < UInt8.ofNat y := by
    rw [UInt8.lt_iff_toNat_lt, UInt8.toNat_ofNat_of_lt' hy,
      UInt8.toNat_ofNat_of_lt' (Nat.lt_trans h hy)]
    exact h
  exact List.cons_lt_cons_iff.2 (.inl hlt)

theorem ofNat_cons_lt_of_le (h : x ≤ y) (hy : y < 256) (hs : x = y → s < t) :
    UInt8.ofNat x :: s < UInt8.ofNat y :: t := by
  by_cases he : x = y
  · exact List.cons_lt_cons_iff.2 (.inr ⟨congrArg UInt8.ofNat he, hs he⟩)
  · exact ofNat_cons_lt (by omega) hy

theorem utf8EncodeChar_append_lt {c d : Char} (h : c < d) (s t : List UInt8) :
    String.utf8EncodeChar c ++ s < String.utf8EncodeChar d ++ t := by
  obtain ⟨n, hn⟩ : ∃ n, n = c.val.toNat := ⟨_, rfl⟩
  obtain ⟨m, hm⟩ : ∃ m, m = d.val.toNat := ⟨_, rfl⟩
  have hlt : n < m := by
    rw [hn, hm]
    exact h
  have hbound : m < 0xD800 ∨ 0xDFFF < m ∧ m < 0x110000 := hm ▸ d.valid
  unfold String.utf8EncodeChar
  simp only [← hn, ← hm]
  -- The first octet tells how many follow, so characters of different lengths differ there.
  split
  · repeat' split
    all_goals exact ofNat_cons_lt (by omega) (by omega)
  split
  · split
    · omega
    split
    · refine ofNat_cons_lt_of_le (by omega) (by omega) fun h₁ => ?_
      exact ofNat_cons_lt (by omega) (by omega)
    · split
      all_goals exact ofNat_cons_lt (by omega) (by omega)
  split
  · split
    · omega
    split
    · omega
    split
    · refine ofNat_cons_lt_of_le (by omega) (by omega) fun h₁ => ?_
      refine ofNat_cons_lt_of_le (by omega) (by omega) fun h₂ => ?_
      exact ofNat_cons_lt (by omega) (by omega)
    · exact ofNat_cons_lt (by omega) (by omega)
  · split
    · omega
    split
    · omega
    split
    · omega
    · refine ofNat_cons_lt_of_le (by omega) (by omega) fun h₁ => ?_
      refine ofNat_cons_lt_of_le (by omega) (by omega) fun h₂ => ?_
      refine ofNat_cons_lt_of_le (by omega) (by omega) fun h₃ => ?_
      exact ofNat_cons_lt (by omega) (by omega)

theorem encode_lt {s t : List Char} (h : s < t) : encode s < encode t := by
  induction h with
  | @nil c t =>
    obtain ⟨b, more, hc⟩ := List.exists_cons_of_ne_nil (String.utf8EncodeChar_ne_nil (c := c))
    change [] < String.utf8EncodeChar c ++ encode t
    rw [hc]
    exact List.nil_lt_cons _ _
  | cons _ ih => exact List.append_left_lt ih
  | rel h => exact utf8EncodeChar_append_lt h _ _

end BuoyGateway.Text
