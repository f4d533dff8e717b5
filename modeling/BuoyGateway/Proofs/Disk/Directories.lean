import BuoyGateway.Proofs.Disk.Way

/-!
# Directories made on the way

`Grows` says that a disk has at least the directories of another, and the same files. Making
directories only ever grows a disk, and when it succeeds the path leads to a directory. Where the
directory above is there already, at most the last directory is made. Every entry of a `rooted` disk
lies in a directory, and making directories keeps it so.
-/

namespace BuoyGateway.Disk

def holdsFile (disk : Disk) (loc : Location) (octets : List UInt8) : Prop :=
  ∃ executable modified, disk.find? loc = some ⟨.file octets executable, modified⟩

/-- `disk'` has the directories of `disk`, with the same files and surroundings. -/
structure Grows (disk disk' : Disk) : Prop extends Alike disk disk' where
  directories : ∀ l, disk.isDirectory l = true → disk'.isDirectory l = true
  files : ∀ l octets, disk'.holdsFile l octets ↔ disk.holdsFile l octets

theorem Grows.refl (disk : Disk) : Grows disk disk :=
  ⟨Alike.refl disk, fun _ h => h, fun _ _ => Iff.rfl⟩

theorem Grows.trans {a b c : Disk} (h₁ : Grows a b) (h₂ : Grows b c) : Grows a c :=
  ⟨h₁.toAlike.trans h₂.toAlike, fun l h => h₂.directories l (h₁.directories l h),
    fun l octets => (h₂.files l octets).trans (h₁.files l octets)⟩

variable {disk disk' : Disk} {start loc l : Location} {before : List String} {step path : String}

theorem holdsFile_iff_content {octets : List UInt8} : disk.holdsFile loc octets ↔
    ∃ executable, (disk.find? loc).map Node.content = some (.file octets executable) := by
  unfold holdsFile
  cases disk.find? loc with
  | none => simp
  | some node =>
    obtain ⟨content, modified⟩ := node
    simp

theorem holdsFile_congr {octets : List UInt8} (h : disk'.find? loc = disk.find? loc) :
    disk'.holdsFile loc octets ↔ disk.holdsFile loc octets := by
  simp only [holdsFile, h]

theorem Grows.walk (h : Grows disk disk') {steps : List String}
    (hw : disk.walk start steps = .ok loc) : disk'.walk start steps = .ok loc := by
  rw [walk_eq_ok_iff] at hw ⊢
  exact ⟨hw.1, fun l hl => h.directories l (hw.2.1 l hl), hw.2.2⟩

theorem Grows.locateDirectory (h : Grows disk disk') (hl : disk.locateDirectory path = .ok loc) :
    disk'.locateDirectory path = .ok loc :=
  locateDirectory_of_trail hl h.current (fun l _ => h.directories l)
    (h.directories _ (locateDirectory_eq_ok_iff.1 hl).2.2.2.2)

theorem makeDirectoryAt_ok (h : disk.makeDirectoryAt loc = .ok disk') :
    disk.find? loc = none ∧ disk' = (disk.insert loc ⟨.directory, disk.now⟩).stamp loc.tail := by
  unfold makeDirectoryAt at h
  split at h
  · cases h
  · next hn =>
    obtain ⟨_, -, h⟩ := bind_eq_ok.1 h
    cases h
    exact ⟨hn, rfl⟩

theorem makeDirectoryAt_of_some {node : Node} (h : disk.find? loc = some node) :
    disk.makeDirectoryAt loc = .error .alreadyExists := by
  simp [makeDirectoryAt, h, throw, throwThe, MonadExceptOf.throw]

theorem ne_nil_of_find?_eq_none (h : disk.find? loc = none) : loc ≠ [] := by
  rintro rfl
  cases h

theorem isDirectory_insert_directory (disk : Disk) {t : Time.Instant} (h : loc ≠ [])
    (l : Location) : (disk.insert loc ⟨.directory, t⟩).isDirectory l =
      (l == loc || disk.isDirectory l) := by
  unfold isDirectory
  rw [find?_insert _ _ h]
  by_cases hl : l = loc
  · simp [hl, Node.isDirectory]
  · simp [hl]

theorem grows_of_makeDirectoryAt (h : disk.makeDirectoryAt loc = .ok disk') :
    Grows disk disk' ∧ disk'.isDirectory loc = true := by
  obtain ⟨hn, rfl⟩ := makeDirectoryAt_ok h
  have hloc := ne_nil_of_find?_eq_none hn
  refine ⟨⟨(alike_insert _ _ _).trans (alike_stamp _ _), ?_, ?_⟩, ?_⟩
  · intro l hl
    rw [isDirectory_stamp, isDirectory_insert_directory _ hloc, hl, Bool.or_true]
  · intro l octets
    rw [holdsFile_iff_content, holdsFile_iff_content, content_stamp, find?_insert _ _ hloc]
    by_cases hl : l = loc
    · simp [hl, hn]
    · rw [if_neg hl]
  · rw [isDirectory_stamp, isDirectory_insert_directory _ hloc, beq_self_eq_true, Bool.true_or]

def makeLast (disk : Disk) (start : Location) (steps : List String) : Except SystemError Disk := do
  disk.makeDirectoryAt (← disk.walk start steps)

def reaches (disk : Disk) (start : Location) (steps : List String) : Bool :=
  match disk.walk start steps with
  | .ok loc => disk.isDirectory loc
  | .error _ => false

theorem reaches_iff {steps : List String} : disk.reaches start steps = true ↔
    ∃ loc, disk.walk start steps = .ok loc ∧ disk.isDirectory loc = true := by
  unfold reaches
  cases disk.walk start steps <;> simp

theorem makeAll_cons (disk : Disk) (start : Location) (step : String) (before : List String) :
    disk.makeAll start (step :: before) =
      match disk.makeLast start (step :: before).reverse with
      | .ok disk => (.ok (), disk)
      | .error .notFound =>
        match disk.makeAll start before with
        | (.error e, disk) => (.error e, disk)
        | (.ok (), disk) =>
          match disk.makeLast start (step :: before).reverse with
          | .ok disk => (.ok (), disk)
          | .error e =>
            if disk.reaches start (step :: before).reverse then (.ok (), disk) else (.error e, disk)
      | .error e =>
        if disk.reaches start (step :: before).reverse then (.ok (), disk)
        else (.error e, disk) := rfl

theorem grows_of_makeLast {steps : List String} (h : disk.makeLast start steps = .ok disk') :
    Grows disk disk' ∧ disk'.reaches start steps = true := by
  cases hw : disk.walk start steps with
  | error e => simp [makeLast, hw, bind, Except.bind] at h
  | ok loc =>
    have hm : disk.makeDirectoryAt loc = .ok disk' := by simpa [makeLast, hw, bind, Except.bind] using h
    obtain ⟨hg, hd⟩ := grows_of_makeDirectoryAt hm
    exact ⟨hg, reaches_iff.2 ⟨loc, hg.walk hw, hd⟩⟩

theorem grows_of_reaches (disk : Disk) {e : SystemError} {steps : List String}
    {made : Except SystemError Unit × Disk}
    (h : made = if disk.reaches start steps then (.ok (), disk) else (.error e, disk)) :
    Grows disk made.2 ∧ (made.1 = .ok () → made.2.reaches start steps = true) := by
  subst h
  by_cases hr : disk.reaches start steps = true
  · rw [if_pos hr]
    exact ⟨Grows.refl disk, fun _ => hr⟩
  · rw [if_neg hr]
    exact ⟨Grows.refl disk, fun h => by cases h⟩

/-- Making directories only adds directories, and ends at one when it succeeds. -/
theorem makeAll_grows (disk : Disk) (start : Location) (before : List String) :
    Grows disk (disk.makeAll start before).2 ∧
      (before ≠ [] → (disk.makeAll start before).1 = .ok () →
        (disk.makeAll start before).2.reaches start before.reverse = true) := by
  induction before with
  | nil => exact ⟨Grows.refl disk, fun h => absurd rfl h⟩
  | cons step before ih =>
    rw [makeAll_cons]
    split
    · next disk' h =>
      obtain ⟨hg, hr⟩ := grows_of_makeLast h
      exact ⟨hg, fun _ _ => hr⟩
    · split
      · next e above habove =>
        rw [habove] at ih
        exact ⟨ih.1, fun _ h => by cases h⟩
      · next above habove =>
        rw [habove] at ih
        split
        · next disk' h =>
          obtain ⟨hg, hr⟩ := grows_of_makeLast h
          exact ⟨ih.1.trans hg, fun _ _ => hr⟩
        · obtain ⟨hg, hr⟩ := grows_of_reaches above rfl
          exact ⟨ih.1.trans hg, fun _ => hr⟩
    · obtain ⟨hg, hr⟩ := grows_of_reaches disk rfl
      exact ⟨hg, fun _ => hr⟩

theorem makeDirectories_grows (disk : Disk) (path : String) :
    Grows disk (disk.makeDirectories path).2 := by
  unfold makeDirectories
  split
  · exact Grows.refl disk
  · split
    · exact Grows.refl disk
    · exact (makeAll_grows disk _ _).1

theorem locateDirectory_makeDirectories (hs : Path.steps path ≠ [])
    (h : disk.makeDirectories path = (.ok (), disk')) :
    ∃ loc, disk'.locateDirectory path = .ok loc := by
  have hempty : path ≠ "" := by
    rintro rfl
    exact hs (by decide)
  unfold makeDirectories at h
  split at h
  · cases h
  · next hnul =>
    split at h
    · cases h
    · next hsize =>
      have hm := makeAll_grows disk (disk.origin path) (Path.steps path).reverse
      rw [h] at hm
      obtain ⟨loc, hw, hd⟩ := reaches_iff.1 (hm.2 (by simpa using hs) rfl)
      have hcurrent : disk'.current = disk.current := hm.1.current
      have ho : disk'.origin path = disk.origin path := by simp only [origin, hcurrent]
      rw [List.reverse_reverse] at hw
      exact ⟨loc, locateDirectory_eq_ok_iff.2
        ⟨by simpa using hnul, hempty, by omega, by rw [ho]; exact hw, hd⟩⟩

/-! ### A directory beside others -/

theorem makeAll_of_reaches (h : disk.reaches start before.reverse = true) :
    disk.makeAll start before = (.ok (), disk) := by
  cases before with
  | nil => rfl
  | cons step before =>
    obtain ⟨loc, hw, hd⟩ := reaches_iff.1 h
    obtain ⟨node, hn, -⟩ := isDirectory_iff.1 hd
    have hm : disk.makeLast start (step :: before).reverse = .error .alreadyExists := by
      simp only [makeLast, hw, bind, Except.bind, makeDirectoryAt_of_some hn]
    rw [makeAll_cons, hm]
    simp only [h, ↓reduceIte]

/-- Below a directory that is there, at most one directory is made, and only where nothing was. -/
theorem makeAll_cons_of_reaches (h : disk.reaches start before.reverse = true)
    (hw : disk.walk start (step :: before).reverse = .ok loc) :
    (disk.makeAll start (step :: before)).2 = disk ∨
      (disk.find? loc = none ∧ (disk.makeAll start (step :: before)).2 =
        (disk.insert loc ⟨.directory, disk.now⟩).stamp loc.tail) := by
  have hlast : disk.makeLast start (step :: before).reverse = disk.makeDirectoryAt loc := by
    simp only [makeLast, hw, bind, Except.bind]
  rw [makeAll_cons, hlast, makeAll_of_reaches h]
  cases hm : disk.makeDirectoryAt loc with
  | ok disk' => exact .inr (makeDirectoryAt_ok hm)
  | error e =>
    left
    cases e <;> simp only [hlast, hm] <;> split <;> rfl

/-! ### Rooted disks -/

def rooted (disk : Disk) : Prop :=
  ∀ name dir, (disk.find? (name :: dir)).isSome = true → disk.isDirectory dir = true

theorem rooted_iff : disk.rooted ↔
    ∀ entry ∈ disk.entries, entry.1 = [] ∨ disk.isDirectory entry.1.tail = true := by
  have hfind : ∀ name dir, (disk.find? (name :: dir)).isSome = true ↔
      ∃ entry ∈ disk.entries, entry.1 = name :: dir := by
    intro name dir
    rw [find?_of_ne_nil (List.cons_ne_nil _ _), List.lookup_isSome_iff]
    constructor
    · rintro ⟨entry, he, hk⟩
      exact ⟨entry, he, (beq_iff_eq.1 hk).symm⟩
    · rintro ⟨entry, he, hk⟩
      exact ⟨entry, he, beq_iff_eq.2 hk.symm⟩
  simp only [rooted, hfind]
  constructor
  · intro h entry he
    match hk : entry.1 with
    | [] => exact .inl rfl
    | name :: dir => exact .inr (h name dir ⟨entry, he, hk⟩)
  · rintro h name dir ⟨entry, he, hk⟩
    have hd := (h entry he).resolve_left (by rw [hk]; exact List.cons_ne_nil _ _)
    rwa [hk] at hd

instance (disk : Disk) : Decidable disk.rooted := decidable_of_iff _ rooted_iff.symm

theorem rooted.suffix (hr : disk.rooted) (hd : disk.isDirectory loc = true) (hl : l <:+ loc) :
    disk.isDirectory l = true := by
  obtain ⟨above, rfl⟩ := hl
  induction above with
  | nil => exact hd
  | cons name above ih =>
    refine ih (hr name (above ++ l) ?_)
    obtain ⟨node, hn, -⟩ := isDirectory_iff.1 hd
    rw [List.cons_append] at hn
    rw [hn]
    rfl

theorem isSome_stamp (disk : Disk) (loc l : Location) :
    ((disk.stamp loc).find? l).isSome = (disk.find? l).isSome := by
  have h := congrArg Option.isSome (content_stamp disk loc l)
  rwa [Option.isSome_map, Option.isSome_map] at h

theorem rooted.makeLast (hr : disk.rooted)
    (h : disk.makeLast start (step :: before).reverse = .ok disk') : disk'.rooted := by
  have hg := (grows_of_makeLast h).1
  obtain ⟨loc, hw, hm⟩ := bind_eq_ok.1 h
  obtain ⟨hn, rfl⟩ := makeDirectoryAt_ok hm
  have hloc := ne_nil_of_find?_eq_none hn
  rw [List.reverse_cons, walk_eq_ok_iff, Path.goal_append, Path.trail_append] at hw
  obtain ⟨hgoal, htrail, -⟩ := hw
  have hlast : disk.isDirectory (Path.goal start before.reverse) = true :=
    htrail _ (List.mem_append_right _ (by simp [Path.trail]))
  have habove : disk.isDirectory loc.tail = true := by
    rw [← hgoal]
    refine hr.suffix hlast ?_
    simp only [Path.goal, Path.after]
    split
    · exact (List.tail_suffix _).trans (List.tail_suffix _)
    · exact List.suffix_refl _
  intro name dir hf
  refine hg.directories dir ?_
  rw [isSome_stamp, find?_insert _ _ hloc] at hf
  by_cases he : name :: dir = loc
  · rw [← he] at habove
    exact habove
  · rw [if_neg he] at hf
    exact hr name dir hf

theorem rooted.makeAll (hr : disk.rooted) (start : Location) (before : List String) :
    (disk.makeAll start before).2.rooted := by
  induction before with
  | nil => exact hr
  | cons step before ih =>
    rw [makeAll_cons]
    split
    · next disk' h => exact hr.makeLast h
    · split
      · next e above habove =>
        rw [habove] at ih
        exact ih
      · next above habove =>
        rw [habove] at ih
        split
        · next disk' h => exact rooted.makeLast ih h
        · split <;> exact ih
    · split <;> exact hr

theorem rooted.makeDirectories (hr : disk.rooted) (path : String) :
    (disk.makeDirectories path).2.rooted := by
  unfold Disk.makeDirectories
  split
  · exact hr
  · split
    · exact hr
    · exact hr.makeAll _ _

end BuoyGateway.Disk
