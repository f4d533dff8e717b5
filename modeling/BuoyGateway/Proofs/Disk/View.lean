import BuoyGateway.Disk.Files
import BuoyGateway.Proofs.Steps

/-!
# What the operations on a disk show

The single steps of `Disk.Files`, seen through `find?`: a stamp shows only in a time of change, and
a move shows at what lies below its source and its target. `names` lists what `find?` finds.
-/

namespace BuoyGateway

instance decidableEqExcept {ε α : Type} [DecidableEq ε] [DecidableEq α] :
    DecidableEq (Except ε α)
  | .error e, .error e' => decidable_of_iff (e = e') (by simp)
  | .ok a, .ok a' => decidable_of_iff (a = a') (by simp)
  | .error _, .ok _ => isFalse (by simp)
  | .ok _, .error _ => isFalse (by simp)

end BuoyGateway

namespace BuoyGateway.Disk

variable {disk : Disk} {loc l source target : Location}

theorem isWithin_iff {dir : Location} : isWithin dir loc = true ↔ dir <:+ loc :=
  List.isSuffixOf_iff_suffix

theorem find?_of_ne_nil (h : loc ≠ []) : disk.find? loc = disk.entries.lookup loc := if_neg h

theorem isDirectory_iff :
    disk.isDirectory loc = true ↔ ∃ node, disk.find? loc = some node ∧ node.content = .directory := by
  simp [isDirectory, Option.any_eq_true, Node.isDirectory]

/-- The disks have the same surroundings: they differ in what is on them only. -/
structure Alike (disk disk' : Disk) : Prop where
  current : disk'.current = disk.current
  now : disk'.now = disk.now
  refuses : disk'.refuses = disk.refuses

theorem Alike.refl (disk : Disk) : Alike disk disk := ⟨rfl, rfl, rfl⟩

theorem Alike.trans {a b c : Disk} (h₁ : Alike a b) (h₂ : Alike b c) : Alike a c :=
  ⟨h₂.current.trans h₁.current, h₂.now.trans h₁.now, h₂.refuses.trans h₁.refuses⟩

theorem alike_insert (disk : Disk) (loc : Location) (node : Node) :
    Alike disk (disk.insert loc node) := ⟨rfl, rfl, rfl⟩

theorem alike_erase (disk : Disk) (loc : Location) : Alike disk (disk.erase loc) := ⟨rfl, rfl, rfl⟩

theorem alike_moveTree (disk : Disk) (source target : Location) :
    Alike disk (disk.moveTree source target) := ⟨rfl, rfl, rfl⟩

theorem alike_stamp (disk : Disk) (loc : Location) : Alike disk (disk.stamp loc) := by
  unfold stamp
  split
  · exact alike_insert _ _ _
  · exact Alike.refl disk

/-! ### Lists of entries -/

theorem lookup_filter (p : Location → Bool) (l : Location) (entries : List (Location × Node)) :
    (entries.filter (fun e => p e.1)).lookup l = if p l then entries.lookup l else none := by
  induction entries with
  | nil => simp
  | cons e entries ih =>
    obtain ⟨k, node⟩ := e
    rw [List.filter_cons, lookup_cons_eq]
    by_cases hk : p k = true
    · rw [if_pos hk, lookup_cons_eq, ih]
      by_cases hl : l = k
      · rw [if_pos hl, if_pos hl, hl, if_pos hk]
      · rw [if_neg hl, if_neg hl]
    · rw [if_neg hk, ih]
      by_cases hl : l = k
      · rw [hl, if_neg hk, if_neg hk]
      · rw [if_neg hl]

theorem lookup_map (f : Location → Location) (l : Location) (entries : List (Location × Node))
    (hf : ∀ e ∈ entries, f e.1 = f l → e.1 = l) :
    (entries.map (fun e => (f e.1, e.2))).lookup (f l) = entries.lookup l := by
  induction entries with
  | nil => rfl
  | cons e entries ih =>
    obtain ⟨k, node⟩ := e
    rw [List.map_cons, lookup_cons_eq, lookup_cons_eq,
      ih (fun e he => hf e (List.mem_cons_of_mem _ he))]
    by_cases hl : l = k
    · rw [if_pos hl, hl, if_pos rfl]
    · rw [if_neg hl, if_neg (fun h => hl (hf _ List.mem_cons_self h.symm).symm)]

theorem mem_names {name : String} {dir : Location} :
    name ∈ disk.names dir ↔ (disk.find? (name :: dir)).isSome = true := by
  rw [find?_of_ne_nil (List.cons_ne_nil _ _), List.lookup_isSome_iff]
  simp only [names, List.mem_filterMap, beq_iff_eq]
  constructor
  · rintro ⟨⟨k, node⟩, he, hk⟩
    cases k with
    | nil => cases hk
    | cons step parent =>
      simp only [Option.ite_none_right_eq_some, Option.some.injEq] at hk
      obtain ⟨rfl, rfl⟩ := hk
      exact ⟨_, he, rfl⟩
  · rintro ⟨⟨k, node⟩, he, hk⟩
    refine ⟨_, he, ?_⟩
    simp only at hk
    simp [← hk]

theorem nodup_names (disk : Disk) (dir : Location) : (disk.names dir).Nodup := by
  have h := disk.distinct
  unfold names
  generalize disk.entries = entries at h ⊢
  induction entries with
  | nil => exact List.nodup_nil
  | cons e entries ih =>
    obtain ⟨k, node⟩ := e
    rw [List.map_cons, List.nodup_cons] at h
    have hi := ih h.2
    cases k with
    | nil => simpa only [List.filterMap_cons] using hi
    | cons step parent =>
      by_cases hp : parent = dir
      · subst hp
        rw [List.filterMap_cons_some (b := step) (by simp), List.nodup_cons]
        refine ⟨?_, hi⟩
        intro hm
        obtain ⟨⟨k', node'⟩, he, hk⟩ := List.mem_filterMap.1 hm
        cases k' with
        | nil => cases hk
        | cons step' parent' =>
          simp only [Option.ite_none_right_eq_some, Option.some.injEq] at hk
          obtain ⟨rfl, rfl⟩ := hk
          exact h.1 (List.mem_map.2 ⟨_, he, rfl⟩)
      · rw [List.filterMap_cons_none (by simp [hp])]
        exact hi

/-! ### Stamps -/

theorem find?_stamp_of_ne (h : l ≠ loc) : (disk.stamp loc).find? l = disk.find? l := by
  unfold stamp
  split
  · next node hn =>
    by_cases hloc : loc = []
    · subst hloc
      rw [find?_of_ne_nil h, find?_of_ne_nil h]
      simp [insert, lookup_cons_eq, lookup_filter_ne, h]
    · rw [find?_insert _ _ hloc, if_neg h]
  · rfl

theorem content_stamp (disk : Disk) (loc l : Location) :
    ((disk.stamp loc).find? l).map Node.content = (disk.find? l).map Node.content := by
  by_cases hl : l = loc
  · subst hl
    by_cases h : l = []
    · subst h
      rfl
    · unfold stamp
      split
      · next node hn => rw [find?_insert _ _ h, if_pos rfl, find?_of_ne_nil h, hn]; rfl
      · rfl
  · rw [find?_stamp_of_ne hl]

theorem isDirectory_eq_content (disk : Disk) (loc : Location) :
    disk.isDirectory loc = ((disk.find? loc).map Node.content == some .directory) := by
  unfold isDirectory
  cases disk.find? loc with
  | none => rfl
  | some node => rfl

@[simp] theorem isDirectory_stamp : (disk.stamp loc).isDirectory l = disk.isDirectory l := by
  rw [isDirectory_eq_content, isDirectory_eq_content, content_stamp]

/-! ### Moves -/

theorem suffix_relocate (source target l : Location) : target <:+ relocate source target l :=
  ⟨_, rfl⟩

theorem relocate_injective {k : Location} (hk : source <:+ k) (hl : source <:+ l)
    (h : relocate source target k = relocate source target l) : k = l := by
  obtain ⟨a, rfl⟩ := hk
  obtain ⟨b, rfl⟩ := hl
  rw [relocate_of_suffix, relocate_of_suffix] at h
  rw [List.append_cancel_right h]

theorem lookup_moved (entries : List (Location × Node)) (ht : ¬ target <:+ l) :
    (entries.map (fun e => (relocate source target e.1, e.2))).lookup l = none := by
  rw [List.lookup_eq_none_iff]
  intro e he
  obtain ⟨e', -, rfl⟩ := List.mem_map.1 he
  rw [bne_iff_ne]
  rintro rfl
  exact ht (suffix_relocate _ _ _)

theorem find?_moveTree_of_apart (hs : ¬ source <:+ l) (ht : ¬ target <:+ l) :
    (disk.moveTree source target).find? l = disk.find? l := by
  by_cases hl : l = []
  · subst hl
    rfl
  · have hs' : isWithin source l = false := by rwa [← Bool.not_eq_true, isWithin_iff]
    have ht' : isWithin target l = false := by rwa [← Bool.not_eq_true, isWithin_iff]
    rw [find?_of_ne_nil hl, find?_of_ne_nil hl]
    simp only [moveTree]
    rw [List.lookup_append, lookup_moved _ ht, Option.or_none,
      lookup_filter (fun k => !isWithin source k && !isWithin target k), hs', ht']
    rfl

theorem find?_moveTree_target (above : Location) (hs : source ≠ []) (ht : target ≠ []) :
    (disk.moveTree source target).find? (above ++ target) = disk.find? (above ++ source) := by
  have hw : isWithin target (above ++ target) = true := isWithin_iff.2 ⟨above, rfl⟩
  have hw' : isWithin source (above ++ source) = true := isWithin_iff.2 ⟨above, rfl⟩
  rw [find?_of_ne_nil (by simp [ht]), find?_of_ne_nil (by simp [hs])]
  simp only [moveTree]
  rw [List.lookup_append, lookup_filter (fun k => !isWithin source k && !isWithin target k), hw,
    ← relocate_of_suffix source target above, lookup_map]
  · rw [lookup_filter (isWithin source), hw']
    simp
  · intro e he heq
    have hk := isWithin_iff.1 (List.mem_filter.1 he).2
    exact relocate_injective hk ⟨above, rfl⟩ heq

theorem find?_moveTree_source (hl : l ≠ []) (hs : source <:+ l) (ht : ¬ target <:+ l) :
    (disk.moveTree source target).find? l = none := by
  have hs' : isWithin source l = true := isWithin_iff.2 hs
  rw [find?_of_ne_nil hl]
  simp only [moveTree]
  rw [List.lookup_append, lookup_moved _ ht, Option.or_none,
    lookup_filter (fun k => !isWithin source k && !isWithin target k), hs']
  rfl

end BuoyGateway.Disk
