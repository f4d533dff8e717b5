import BuoyGateway.Json.Record

/-!
# What every field keeps

A record is read field by field, from the record of defaults on. What holds of the defaults and is kept
by every field holds of each record that is read, from an object and from a list.
-/

namespace BuoyGateway.Json

theorem Reader.eq_of_refine {α β : Type} {reader : Reader α} {f : α → Except Error β}
    {s rest : List Char} {b : β} (h : (reader.refine f).read s = .ok (b, rest)) :
    ∃ a, reader.read s = .ok (a, rest) ∧ f a = .ok b := by
  simp only [Reader.refine] at h
  split at h
  · cases h
  · next hread =>
    split at h
    · cases h
    · next hf =>
      cases h
      exact ⟨_, hread, hf⟩

theorem Reader.eq_of_map {α β : Type} {reader : Reader α} {f : α → β} {s rest : List Char} {b : β}
    (h : (reader.map f).read s = .ok (b, rest)) : ∃ a, reader.read s = .ok (a, rest) ∧ b = f a := by
  obtain ⟨a, hread, hf⟩ := eq_of_refine h
  cases hf
  exact ⟨a, hread, rfl⟩

namespace Shape

variable {α : Type} {shape : Shape α} {keeps : α → Prop}

def Keeps (shape : Shape α) (keeps : α → Prop) : Prop :=
  ∀ field ∈ shape.fields, ∀ a, keeps a → ∀ s b rest, (field.read a).read s = .ok (b, rest) → keeps b

theorem eq_of_finish {seen : List String} {a b : α} (h : shape.finish seen a = .ok b) : b = a := by
  unfold finish at h
  split at h
  · cases h
  · cases h
    rfl

theorem eq_of_endEarly {index : Nat} {fields : List (Field α)} {a b : α}
    (h : shape.endEarly index fields a = .ok b) : b = a := by
  unfold endEarly at h
  split at h
  · cases h
  · cases h
    rfl

variable (hkeeps : shape.Keeps keeps)
include hkeeps

theorem keeps_readMember {seen : List String} {a : α} {key : String} {s rest : List Char}
    {p : List String × α} (ha : keeps a) (h : shape.readMember seen a key s = .ok (p, rest)) :
    keeps p.2 := by
  unfold readMember at h
  split at h
  · split at h
    · cases h
    · split at h
      · cases h
      · cases h
        exact ha
  · next field hfield =>
    split at h
    · cases h
    · split at h
      · cases h
      · split at h
        · cases h
        · next hread =>
          cases h
          exact hkeeps field (List.mem_of_find?_eq_some hfield) _ ha _ _ _ hread

theorem keeps_readMembers {first : Bool} {seen : List String} {a b : α} {s rest : List Char}
    (ha : keeps a) (h : shape.readMembers first seen a s = .ok (b, rest)) : keeps b := by
  fun_induction readMembers shape first seen a s with
  | case1 => cases h
  | case2 => cases h
  | case3 =>
    rename_i hfinish
    cases h
    exact eq_of_finish hfinish ▸ ha
  | case4 => cases h
  | case5 => cases h
  | case6 =>
    rename_i hmember ih
    exact ih (keeps_readMember hkeeps ha hmember) h

theorem keeps_readFields {index : Nat} {fields : List (Field α)} {a b : α} {s rest : List Char}
    (hfields : ∀ field ∈ fields, field ∈ shape.fields) (ha : keeps a)
    (h : shape.readFields index fields a s = .ok (b, rest)) : keeps b := by
  induction fields generalizing index a s with
  | nil =>
    unfold readFields at h
    split at h
    · cases h
    · cases h
      exact ha
  | cons field fields ih =>
    unfold readFields at h
    split at h
    · cases h
    · split at h
      · cases h
      · next hend =>
        cases h
        exact eq_of_endEarly hend ▸ ha
    · split at h
      · cases h
      · next hread =>
        exact ih (fun f hf => hfields f (List.mem_cons_of_mem field hf))
          (hkeeps field (hfields field List.mem_cons_self) _ ha _ _ _ hread) h

theorem keeps_parse {a : α} {s : List Char} (hstart : keeps shape.start)
    (h : shape.reader.parse s = .ok a) : keeps a := by
  have hrecord : ∀ rest, shape.readRecord s = .ok (a, rest) → keeps a := by
    intro rest hread
    unfold readRecord at hread
    split at hread
    · cases hread
    split at hread
    · exact keeps_readMembers hkeeps hstart hread
    split at hread
    · exact keeps_readFields hkeeps (fun _ hf => hf) hstart hread
    · cases hread
  unfold Reader.parse at h
  split at h
  · cases h
  · next hread =>
    split at h
    · cases h
      exact hrecord _ hread
    · cases h

end Shape

end BuoyGateway.Json
