import Mathlib.Data.List.TakeWhile
import BuoyGateway.Text.Blank

/-!
# Runs and words

A run of characters of one class ends where the text goes on with a character of another. Every text
is a run and what follows it, in one way only; so the first word of a text is what stands between its
leading blanks and the next blank.
-/

namespace BuoyGateway.Text

section Runs

variable {α : Type} {p : α → Bool} {run rest : List α}

theorem takeWhile_run (hrun : ∀ a ∈ run, p a = true) (hrest : ∀ a ∈ rest.head?, p a = false) :
    (run ++ rest).takeWhile p = run := by
  rw [List.takeWhile_append_of_pos hrun]
  cases rest with
  | nil => simp
  | cons a rest => simp [hrest a rfl]

theorem dropWhile_run (hrun : ∀ a ∈ run, p a = true) (hrest : ∀ a ∈ rest.head?, p a = false) :
    (run ++ rest).dropWhile p = rest := by
  rw [List.dropWhile_append_of_pos hrun]
  cases rest with
  | nil => rfl
  | cons a rest => simp [hrest a rfl]

theorem exists_run (p : α → Bool) (s : List α) : ∃ run rest, s = run ++ rest ∧
    (∀ a ∈ run, p a = true) ∧ ∀ a ∈ rest.head?, p a = false := by
  refine ⟨s.takeWhile p, s.dropWhile p, List.takeWhile_append_dropWhile.symm,
    fun a ha => List.mem_takeWhile_imp ha, fun a ha => ?_⟩
  have hstop := List.head?_dropWhile_not p s
  rwa [ha] at hstop

end Runs

variable {blanks word s rest : List Char}

theorem skipBlanks_run (hblanks : ∀ c ∈ blanks, isBlank c = true)
    (hs : ∀ c ∈ s.head?, isBlank c = false) : skipBlanks (blanks ++ s) = s :=
  dropWhile_run hblanks hs

theorem firstWord?_eq_some_iff : firstWord? s = some word ↔
    ∃ blanks rest, s = blanks ++ (word ++ rest) ∧ (∀ c ∈ blanks, isBlank c = true) ∧ word ≠ [] ∧
      (∀ c ∈ word, isBlank c = false) ∧ ∀ c ∈ rest.head?, isBlank c = true := by
  constructor
  · intro h
    obtain ⟨blanks, text, rfl, hblanks, htext⟩ := exists_run isBlank s
    obtain ⟨run, rest, rfl, hrun, hrest⟩ := exists_run (fun c => !isBlank c) text
    rw [firstWord?, skipBlanks_run hblanks htext, takeWhile_run hrun hrest] at h
    split at h
    · cases h
    · next hne =>
      cases h
      exact ⟨blanks, rest, rfl, hblanks, hne, fun c hc => by simpa using hrun c hc,
        fun c hc => by simpa using hrest c hc⟩
  · rintro ⟨blanks, rest, rfl, hblanks, hne, hword, hrest⟩
    have hstart : ∀ c ∈ (word ++ rest).head?, isBlank c = false := by
      cases word with
      | nil => exact absurd rfl hne
      | cons c word =>
        rintro _ ⟨⟩
        exact hword c List.mem_cons_self
    rw [firstWord?, skipBlanks_run hblanks hstart,
      takeWhile_run (fun c hc => by simpa using hword c hc) (fun c hc => by simpa using hrest c hc)]
    split
    · exact absurd rfl hne
    · rfl

end BuoyGateway.Text
