import BuoyGateway.Proofs.Decimal.Numeral
import BuoyGateway.Text.Clip
import BuoyGateway.Text.Utf8

/-!
# Where a text may be cut

The octets of a text may be cut behind whole characters and nowhere else. Digits are characters of one
octet, and no other character begins with the octet of a digit; so a run of digits is as long in octets
as in characters, and a text may be cut behind it.
-/

namespace BuoyGateway.Text

variable {body : String} {s front back digits rest : List Char}

/-- The texts before and behind the first octets of a text, which is cut nowhere but between two
characters. -/
def cut? : Nat → List Char → Option (List Char × List Char)
  | 0, s => some ([], s)
  | _ + 1, [] => none
  | n + 1, c :: s =>
    if c.utf8Size ≤ n + 1 then (cut? (n + 1 - c.utf8Size) s).map (Prod.map (c :: ·) id) else none

theorem cut?_zero (s : List Char) : cut? 0 s = some ([], s) := by
  cases s <;> rfl

theorem cut?_octets (front back : List Char) :
    cut? (octets front) (front ++ back) = some (front, back) := by
  induction front with
  | nil => exact cut?_zero back
  | cons c front ih =>
    have hpos := c.utf8Size_pos
    obtain ⟨n, hn⟩ : ∃ n, octets (c :: front) = n + 1 :=
      Nat.exists_eq_add_one.2 (by rw [octets_cons]; omega)
    have hrest : n + 1 - c.utf8Size = octets front := by rw [← hn, octets_cons]; omega
    rw [hn, List.cons_append, cut?, if_pos (by rw [← hn, octets_cons]; omega), hrest, ih]
    rfl

theorem cut?_eq_some_iff {n : Nat} :
    cut? n s = some (front, back) ↔ s = front ++ back ∧ octets front = n := by
  constructor
  · intro h
    induction n, s using cut?.induct generalizing front with
    | case1 s =>
      rw [cut?_zero] at h
      cases h
      exact ⟨rfl, rfl⟩
    | case2 n => cases h
    | case3 n c s hle ih =>
      rw [cut?, if_pos hle] at h
      obtain ⟨⟨front, back⟩, hcut, he⟩ := Option.map_eq_some_iff.1 h
      cases he
      obtain ⟨rfl, hsize⟩ := ih hcut
      refine ⟨rfl, ?_⟩
      rw [octets_cons]
      omega
    | case4 n c s hlt =>
      rw [cut?, if_neg hlt] at h
      cases h
  · rintro ⟨rfl, rfl⟩
    exact cut?_octets front back

theorem utf8ByteSize_ofList (s : List Char) : (String.ofList s).utf8ByteSize = octets s := by
  induction s with
  | nil => rfl
  | cons c s ih =>
    rw [String.ofList_cons, String.utf8ByteSize_append, String.utf8ByteSize_singleton, ih,
      octets_cons]

theorem isSome_cut?_iff {n : Nat} :
    (cut? n body.toList).isSome ↔ (String.Pos.Raw.mk n).IsValid body := by
  rw [Option.isSome_iff_exists, String.Pos.Raw.isValid_iff_exists_append]
  constructor
  · rintro ⟨⟨front, back⟩, hcut⟩
    obtain ⟨hbody, rfl⟩ := cut?_eq_some_iff.1 hcut
    refine ⟨String.ofList front, String.ofList back, ?_, ?_⟩
    · rw [← String.ofList_append, ← hbody, String.ofList_toList]
    · rw [← utf8ByteSize_ofList]
      rfl
  · rintro ⟨front, back, rfl, hn⟩
    refine ⟨(front.toList, back.toList), cut?_eq_some_iff.2 ⟨String.toList_append, ?_⟩⟩
    rw [← utf8ByteSize_ofList, String.ofList_toList]
    exact congrArg String.Pos.Raw.byteIdx hn.symm

def isDigitOctet (b : UInt8) : Bool := 0x30 ≤ b && b ≤ 0x39

theorem length_encode (s : List Char) : (encode s).length = octets s := by
  induction s with
  | nil => rfl
  | cons c s ih =>
    rw [octets_cons, ← ih, ← String.length_utf8EncodeChar]
    exact List.length_append

theorem isDigitOctet_ofNat {n : Nat} (h : n < 256) :
    isDigitOctet (UInt8.ofNat n) = true ↔ 48 ≤ n ∧ n ≤ 57 := by
  simp only [isDigitOctet, Bool.and_eq_true, decide_eq_true_eq, UInt8.le_iff_toNat_le,
    UInt8.toNat_ofNat_of_lt' (show n < UInt8.size from h)]
  rfl

/-- A character begins with the octet of a digit if it is one, and then it has no other octet. -/
theorem utf8EncodeChar_eq_cons (c : Char) : ∃ b more, String.utf8EncodeChar c = b :: more ∧
    isDigitOctet b = c.isDigit ∧ (c.isDigit = true → more = []) := by
  obtain ⟨n, hn⟩ : ∃ n, n = c.val.toNat := ⟨_, rfl⟩
  have hdigit : c.isDigit = true ↔ 48 ≤ n ∧ n ≤ 57 := by rw [Decimal.isDigit_iff, hn]
  have hoctet : ∀ {m : Nat}, m < 256 → (48 ≤ m ∧ m ≤ 57 ↔ 48 ≤ n ∧ n ≤ 57) →
      isDigitOctet (UInt8.ofNat m) = c.isDigit := by
    intro m hm h
    rw [Bool.eq_iff_iff, isDigitOctet_ofNat hm, hdigit, h]
  have hone : c.isDigit = true → n < 128 := fun h => by
    have := hdigit.1 h
    omega
  unfold String.utf8EncodeChar
  simp only [← hn]
  split
  · exact ⟨_, _, rfl, hoctet (by omega) Iff.rfl, fun _ => rfl⟩
  split
  · exact ⟨_, _, rfl, hoctet (by omega) (by omega), fun h => by have := hone h; omega⟩
  split
  · exact ⟨_, _, rfl, hoctet (by omega) (by omega), fun h => by have := hone h; omega⟩
  · exact ⟨_, _, rfl, hoctet (by omega) (by omega), fun h => by have := hone h; omega⟩

theorem takeWhile_isDigitOctet (hdigits : ∀ c ∈ digits, c.isDigit = true)
    (hrest : ∀ c ∈ rest.head?, c.isDigit = false) :
    (encode (digits ++ rest)).takeWhile isDigitOctet = encode digits := by
  induction digits with
  | nil =>
    cases rest with
    | nil => rfl
    | cons c rest =>
      obtain ⟨b, more, hc, hb, -⟩ := utf8EncodeChar_eq_cons c
      rw [hrest c rfl] at hb
      change (String.utf8EncodeChar c ++ encode rest).takeWhile isDigitOctet = []
      rw [hc, List.cons_append, List.takeWhile_cons, hb]
      rfl
  | cons c digits ih =>
    have hdigit := hdigits c List.mem_cons_self
    obtain ⟨b, more, hc, hb, hmore⟩ := utf8EncodeChar_eq_cons c
    rw [hmore hdigit] at hc
    rw [hdigit] at hb
    change (String.utf8EncodeChar c ++ encode (digits ++ rest)).takeWhile isDigitOctet =
      String.utf8EncodeChar c ++ encode digits
    rw [hc, List.cons_append, List.takeWhile_cons, hb, if_pos rfl, List.nil_append,
      ih (fun d hd => hdigits d (List.mem_cons_of_mem _ hd))]
    rfl

end BuoyGateway.Text
