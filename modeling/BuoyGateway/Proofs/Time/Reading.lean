import Mathlib.Data.List.TakeWhile
import BuoyGateway.Proofs.Steps
import BuoyGateway.Proofs.Time.Rfc3339

/-!
# What is read is a reading of a clock

Digits behind the point are parts of one second, a second of 60 is the leap second at the end of its
minute, and offsets are whole minutes: an instant that is read from a text lies within a second or in
the leap second at the end of a minute.
-/

namespace BuoyGateway.Time

/-- An instant within a second, or in the leap second at the end of a minute. -/
def Instant.IsOnClock (t : Instant) : Prop :=
  t.nanos < nanosPerSecond ∨ t.nanos < 2 * nanosPerSecond ∧ t.seconds % 60 = 59

namespace Rfc3339

variable {s rest : List Char} {n low high : Nat}

theorem le_of_field (h : field low high s = .ok (n, rest)) : low ≤ n ∧ n ≤ high := by
  obtain ⟨⟨m, after⟩, -, h⟩ := bind_eq_ok.1 h
  dsimp only at h
  split at h
  · next hm =>
    cases h
    simpa using hm
  · cases h

theorem number_eq_ok {width : Nat} (h : number (some width) s = .ok (n, rest)) :
    n = Decimal.ofDigits ((s.takeWhile Char.isDigit).take width) := by
  unfold number at h
  split at h
  · cases h
  · split at h
    · cases h
      rfl
    · cases h

theorem fraction_lt (h : fraction s = .ok (n, rest)) : n < Instant.nanosPerSecond := by
  unfold fraction at h
  split at h
  · next s =>
    obtain ⟨⟨m, after⟩, hm, h⟩ := bind_eq_ok.1 h
    cases h
    rw [number_eq_ok hm]
    have hdigits : ∀ c ∈ (s.takeWhile Char.isDigit).take 9, c.isDigit = true :=
      fun c hc => List.mem_takeWhile_imp (List.mem_of_mem_take hc)
    have hlt := Decimal.ofDigits_lt hdigits
    rw [List.length_take] at hlt
    obtain ⟨k, hk⟩ : ∃ k, k = min 9 (s.takeWhile Char.isDigit).length := ⟨_, rfl⟩
    rw [← hk] at hlt ⊢
    calc Decimal.ofDigits ((s.takeWhile Char.isDigit).take 9) * Nat.pow 10 (9 - k)
        < Nat.pow 10 k * Nat.pow 10 (9 - k) :=
          Nat.mul_lt_mul_of_pos_right hlt (Nat.pow_pos (by decide))
      _ = Nat.pow 10 (k + (9 - k)) := (Nat.pow_add 10 k (9 - k)).symm
      _ = Instant.nanosPerSecond := by
        rw [show k + (9 - k) = 9 by omega]
        rfl
  · cases h
    decide

theorem hoursAndMinutes_mod (h : hoursAndMinutes s = .ok (n, rest)) : n % 60 = 0 := by
  obtain ⟨⟨hours, after⟩, -, h⟩ := bind_eq_ok.1 h
  obtain ⟨⟨minutes, after⟩, -, h⟩ := bind_eq_ok.1 h
  dsimp only at h
  split at h
  · cases h
    omega
  · cases h

theorem offset_mod {o : Int} (h : offset s = .ok (o, rest)) : o % 60 = 0 := by
  unfold offset at h
  split at h
  · cases h; rfl
  · cases h; rfl
  · obtain ⟨⟨n, after⟩, hn, h⟩ := bind_eq_ok.1 h
    have hmod := hoursAndMinutes_mod hn
    cases h
    omega
  · obtain ⟨⟨n, after⟩, hn, h⟩ := bind_eq_ok.1 h
    have hmod := hoursAndMinutes_mod hn
    cases h
    omega
  · obtain ⟨⟨n, after⟩, hn, h⟩ := bind_eq_ok.1 h
    have hmod := hoursAndMinutes_mod hn
    cases h
    omega
  · cases h
  · cases h

theorem zone_mod {o : Int} (h : zone s = .ok (o, rest)) : o % 60 = 0 := by
  unfold zone at h
  split at h
  · cases h
    rfl
  · exact offset_mod h

theorem isOnClock_of_assemble {date : Date} {hour minute second nanos : Nat} {o : Int} {t : Instant}
    (hsecond : second ≤ 60) (hnanos : nanos < Instant.nanosPerSecond) (ho : o % 60 = 0)
    (h : assemble date hour minute second nanos o = .ok t) : t.IsOnClock := by
  unfold assemble at h
  split at h
  · cases h
  dsimp only at h
  split at h
  · cases h
    simp only [Instant.IsOnClock, Instant.nanosPerSecond] at hnanos ⊢
    by_cases hleap : second = 60
    · subst hleap
      right
      constructor
      · omega
      · omega
    · left
      omega
  · cases h

theorem isOnClock_of_parse {t : Instant} (h : parse s = .ok t) : t.IsOnClock := by
  obtain ⟨⟨year, s₁⟩, -, h⟩ := bind_eq_ok.1 h
  obtain ⟨s₂, -, h⟩ := bind_eq_ok.1 h
  obtain ⟨⟨month, s₃⟩, -, h⟩ := bind_eq_ok.1 h
  obtain ⟨s₄, -, h⟩ := bind_eq_ok.1 h
  obtain ⟨⟨day, s₅⟩, -, h⟩ := bind_eq_ok.1 h
  -- The mark between date and time is looked at outside the monad.
  dsimp only at h
  split at h
  · obtain ⟨_, hend, -⟩ := bind_eq_ok.1 h
    cases hend
  split at h
  case isFalse =>
    obtain ⟨_, hmark, -⟩ := bind_eq_ok.1 h
    cases hmark
  obtain ⟨s₆, -, h⟩ := bind_eq_ok.1 h
  obtain ⟨⟨hour, s₇⟩, -, h⟩ := bind_eq_ok.1 h
  obtain ⟨s₈, -, h⟩ := bind_eq_ok.1 h
  obtain ⟨⟨minute, s₉⟩, -, h⟩ := bind_eq_ok.1 h
  obtain ⟨s₁₀, -, h⟩ := bind_eq_ok.1 h
  obtain ⟨⟨second, s₁₁⟩, hsecond, h⟩ := bind_eq_ok.1 h
  obtain ⟨⟨nanos, s₁₂⟩, hnanos, h⟩ := bind_eq_ok.1 h
  obtain ⟨⟨o, s₁₃⟩, ho, h⟩ := bind_eq_ok.1 h
  dsimp only at h
  split at h
  · exact isOnClock_of_assemble (le_of_field hsecond).2 (fraction_lt hnanos) (zone_mod ho) h
  · cases h

end Rfc3339

end BuoyGateway.Time
