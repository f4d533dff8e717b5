import BuoyGateway.Text.Utf8

/-!
# What octets spell

Octets are well formed if none of their pieces is a mark. A reader of well-formed octets ends
between two characters, so what follows them is read as if it stood alone. What was written is well
formed and is read back.
-/

namespace BuoyGateway.Text

@[simp]
theorem pieces_cons (state : Utf8State) (b : UInt8) (rest : List UInt8) :
    pieces state (b :: rest) = (state.step b).1 ++ pieces (state.step b).2 rest := by
  cases state <;> rfl

theorem mapM_id_eq_some {pieces : List (Option Char)} {s : List Char} :
    pieces.mapM id = some s ↔ pieces = s.map some := by
  induction pieces generalizing s with
  | nil => cases s <;> simp
  | cons piece pieces ih =>
    cases piece with
    | none => cases s <;> simp
    | some c =>
      have hstep : (some c :: pieces).mapM id = (pieces.mapM id).map (c :: ·) := by
        rw [List.mapM_cons]
        cases pieces.mapM id <;> rfl
      rw [hstep, Option.map_eq_some_iff]
      cases s with
      | nil => simp
      | cons d s =>
        simp only [ih, List.map_cons, List.cons.injEq, Option.some.injEq]
        constructor
        · rintro ⟨t, hp, rfl, rfl⟩
          exact ⟨rfl, hp⟩
        · rintro ⟨rfl, hp⟩
          exact ⟨s, hp, rfl, rfl⟩

theorem decode?_eq_some_iff {octets : List UInt8} {s : List Char} :
    decode? octets = some s ↔ pieces .between octets = s.map some := mapM_id_eq_some

theorem pieces_append {state : Utf8State} {octets : List UInt8}
    (h : none ∉ pieces state octets) (more : List UInt8) :
    pieces state (octets ++ more) = pieces state octets ++ pieces .between more := by
  induction octets generalizing state with
  | nil =>
    cases state with
    | between => rfl
    | inside => exact absurd (List.mem_singleton.2 rfl) h
  | cons b octets ih =>
    rw [pieces_cons] at h
    rw [List.cons_append, pieces_cons, pieces_cons,
      ih (fun hmem => h (List.mem_append_right _ hmem)), List.append_assoc]

theorem decode?_append {octets more : List UInt8} {s : List Char}
    (h : decode? octets = some s) :
    decode? (octets ++ more) = (decode? more).map (fun t => s ++ t) := by
  have hnone : none ∉ pieces .between octets := by simp [decode?_eq_some_iff.1 h]
  unfold decode? at h ⊢
  rw [pieces_append hnone, List.mapM_append, h]
  cases (pieces .between more).mapM id <;> rfl

/-! ### Written characters -/

namespace Utf8State

theorem first_one {n : Nat} (h : n < 0x80) :
    first (UInt8.ofNat n) = some (.error (Char.ofNat n)) := by
  have hn : (UInt8.ofNat n).toNat = n := UInt8.toNat_ofNat_of_lt' (show _ < 256 by omega)
  simp only [first, hn, if_pos h]

theorem first_two {n : Nat} (hl : 0xC2 ≤ n) (hh : n < 0xE0) :
    first (UInt8.ofNat n) = some (.ok (.inside (n - 0xC0) 0x80 0xBF 0)) := by
  have hn : (UInt8.ofNat n).toNat = n := UInt8.toNat_ofNat_of_lt' (show _ < 256 by omega)
  simp only [first, hn]
  rw [if_neg (by omega), if_neg (by omega), if_pos hh]

/-- The octet after the first of three lies above the overlong forms and below the surrogates. -/
theorem first_three {n : Nat} (next : Nat) (hl : 0xE0 ≤ n) (hh : n < 0xF0)
    (hfirst : n = 0xE0 → 0xA0 ≤ next) (hsurrogate : n = 0xED → next ≤ 0x9F)
    (hnext : 0x80 ≤ next ∧ next ≤ 0xBF) :
    ∃ low high : UInt8, low.toNat ≤ next ∧ next ≤ high.toNat ∧
      first (UInt8.ofNat n) = some (.ok (.inside (n - 0xE0) low high 1)) := by
  have hn : (UInt8.ofNat n).toNat = n := UInt8.toNat_ofNat_of_lt' (show _ < 256 by omega)
  simp only [first, hn]
  rw [if_neg (by omega), if_neg (by omega), if_neg (by omega)]
  by_cases h0 : n = 0xE0
  · subst h0
    exact ⟨0xA0, 0xBF, hfirst rfl, hnext.2, rfl⟩
  · rw [if_neg h0]
    by_cases hd : n = 0xED
    · subst hd
      exact ⟨0x80, 0x9F, hnext.1, hsurrogate rfl, rfl⟩
    · rw [if_neg hd, if_pos hh]
      exact ⟨0x80, 0xBF, hnext.1, hnext.2, rfl⟩

theorem first_four {n : Nat} (next : Nat) (hl : 0xF0 ≤ n) (hh : n ≤ 0xF4)
    (hfirst : n = 0xF0 → 0x90 ≤ next) (hlast : n = 0xF4 → next ≤ 0x8F)
    (hnext : 0x80 ≤ next ∧ next ≤ 0xBF) :
    ∃ low high : UInt8, low.toNat ≤ next ∧ next ≤ high.toNat ∧
      first (UInt8.ofNat n) = some (.ok (.inside (n - 0xF0) low high 2)) := by
  have hn : (UInt8.ofNat n).toNat = n := UInt8.toNat_ofNat_of_lt' (show _ < 256 by omega)
  simp only [first, hn]
  rw [if_neg (by omega), if_neg (by omega), if_neg (by omega), if_neg (by omega),
    if_neg (by omega), if_neg (by omega)]
  by_cases h0 : n = 0xF0
  · subst h0
    exact ⟨0x90, 0xBF, hfirst rfl, hnext.2, rfl⟩
  · rw [if_neg h0]
    by_cases hlt : n < 0xF4
    · rw [if_pos hlt]
      exact ⟨0x80, 0xBF, hnext.1, hnext.2, rfl⟩
    · obtain rfl : n = 0xF4 := by omega
      exact ⟨0x80, 0x8F, hnext.1, hlast rfl, rfl⟩

theorem step_between {b : UInt8} {state : Utf8State} (h : first b = some (.ok state)) :
    step .between b = ([], state) := by
  simp only [step, begin, h]

theorem toNat_following {d : Nat} (h : d < 64) : (UInt8.ofNat (d + 128)).toNat = d + 128 :=
  UInt8.toNat_ofNat_of_lt' (show _ < 256 by omega)

theorem between_following {d : Nat} {low high : UInt8} (hd : d < 64) (hl : low.toNat ≤ d + 128)
    (hh : d + 128 ≤ high.toNat) :
    (low ≤ UInt8.ofNat (d + 128) && UInt8.ofNat (d + 128) ≤ high) = true := by
  rw [Bool.and_eq_true, decide_eq_true_eq, decide_eq_true_eq, UInt8.le_iff_toNat_le,
    UInt8.le_iff_toNat_le, toNat_following hd]
  exact ⟨hl, hh⟩

theorem step_last {value d : Nat} {low high : UInt8} (hd : d < 64) (hl : low.toNat ≤ d + 128)
    (hh : d + 128 ≤ high.toNat) :
    (inside value low high 0).step (UInt8.ofNat (d + 128)) =
      ([some (Char.ofNat (64 * value + d))], .between) := by
  simp only [step, between_following hd hl hh, if_true, toNat_following hd, Nat.add_sub_cancel]

theorem step_onward {value more d : Nat} {low high : UInt8} (hd : d < 64)
    (hl : low.toNat ≤ d + 128) (hh : d + 128 ≤ high.toNat) :
    (inside value low high (more + 1)).step (UInt8.ofNat (d + 128)) =
      ([], .inside (64 * value + d) 0x80 0xBF more) := by
  simp only [step, between_following hd hl hh, if_true, toNat_following hd, Nat.add_sub_cancel]

end Utf8State

open Utf8State in
theorem pieces_utf8EncodeChar (c : Char) :
    pieces .between (String.utf8EncodeChar c) = [some c] := by
  obtain ⟨n, hn⟩ : ∃ n, n = c.val.toNat := ⟨_, rfl⟩
  have hc : Char.ofNat n = c := by rw [hn]; exact Char.ofNat_toNat c
  have hvalid : n < 0xD800 ∨ 0xDFFF < n ∧ n < 0x110000 := hn ▸ c.valid
  have hlow (d : Nat) : (0x80 : UInt8).toNat ≤ d + 128 := Nat.le_add_left 128 d
  have hhigh {d : Nat} (h : d < 64) : d + 128 ≤ (0xBF : UInt8).toNat := by
    change d + 128 ≤ 191
    omega
  have h₁ : n % 64 < 64 := by omega
  have h₂ : n / 64 % 64 < 64 := by omega
  have h₃ : n / 4096 % 64 < 64 := by omega
  unfold String.utf8EncodeChar
  simp only [← hn]
  split
  · simp only [pieces_cons, step, begin, first_one (show n < 0x80 by omega), hc]
    rfl
  split
  · have hfirst := first_two (show 0xC2 ≤ n / 64 % 32 + 192 by omega) (show _ < 0xE0 by omega)
    have hvalue : 64 * (n / 64 % 32 + 192 - 0xC0) + n % 64 = n := by omega
    simp only [pieces_cons, step_between hfirst, step_last h₁ (hlow _) (hhigh h₁), hvalue, hc]
    rfl
  split
  · obtain ⟨low, high, hl, hh, hfirst⟩ :=
      first_three (n / 64 % 64 + 128) (show 0xE0 ≤ n / 4096 % 16 + 224 by omega)
        (by omega) (by omega) (by omega) (by omega)
    have hvalue : 64 * (64 * (n / 4096 % 16 + 224 - 0xE0) + n / 64 % 64) + n % 64 = n := by omega
    simp only [pieces_cons, step_between hfirst, step_onward h₂ hl hh,
      step_last h₁ (hlow _) (hhigh h₁), hvalue, hc]
    rfl
  · obtain ⟨low, high, hl, hh, hfirst⟩ :=
      first_four (n / 4096 % 64 + 128) (show 0xF0 ≤ n / 262144 % 8 + 240 by omega)
        (by omega) (by omega) (by omega) (by omega)
    have hvalue : 64 * (64 * (64 * (n / 262144 % 8 + 240 - 0xF0) + n / 4096 % 64) +
        n / 64 % 64) + n % 64 = n := by omega
    simp only [pieces_cons, step_between hfirst, step_onward h₃ hl hh,
      step_onward h₂ (hlow _) (hhigh h₂), step_last h₁ (hlow _) (hhigh h₁), hvalue, hc]
    rfl

/-- Written characters are read back. -/
theorem decode?_encode (s : List Char) : decode? (encode s) = some s := by
  induction s with
  | nil => rfl
  | cons c s ih =>
    have hc : decode? (String.utf8EncodeChar c) = some [c] :=
      decode?_eq_some_iff.2 (pieces_utf8EncodeChar c)
    change decode? (String.utf8EncodeChar c ++ encode s) = _
    rw [decode?_append hc, ih]
    rfl

end BuoyGateway.Text
