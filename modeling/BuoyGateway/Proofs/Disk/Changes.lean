import BuoyGateway.Proofs.Disk.View

/-!
# What changes do

The single changes of a disk, when they succeed, and when nothing keeps them from it. A medium that
is `sound` refuses no access.
-/

namespace BuoyGateway.Disk

variable {disk disk' : Disk} {loc source target : Location}

def sound (disk : Disk) : Prop := ∀ access loc, disk.refuses access loc = none

theorem sound.permit (h : disk.sound) (access : Access) (loc : Location) :
    disk.permit access loc = .ok () := by
  simp only [Disk.permit, h access loc]

theorem sound.shows (h : disk.sound) (dir : Location) (name : String) :
    disk.shows dir name = true := by
  rw [Disk.shows, h]
  rfl

theorem Alike.sound (h : Alike disk disk') (hs : disk.sound) : disk'.sound := by
  intro access loc
  rw [h.refuses, hs]

theorem removeAt_ok (h : disk.removeAt loc = .ok disk') :
    (∃ octets executable modified, disk.find? loc = some ⟨.file octets executable, modified⟩) ∧
      disk' = (disk.erase loc).stamp loc.tail := by
  obtain ⟨_, -, h⟩ := bind_eq_ok.1 h
  split at h
  · cases h
  · cases h
  · next octets executable modified hn =>
    cases h
    exact ⟨⟨octets, executable, modified, hn⟩, rfl⟩

theorem removeAt_of_file (hs : disk.sound) {octets : List UInt8} {executable : Bool}
    {modified : Time.Instant} (h : disk.find? loc = some ⟨.file octets executable, modified⟩) :
    disk.removeAt loc = .ok ((disk.erase loc).stamp loc.tail) := by
  simp only [removeAt, hs.permit, h, bind, Except.bind, pure, Except.pure]

theorem createAt_of_none (hs : disk.sound) (h : disk.find? loc = none) :
    disk.createAt loc = .ok ((disk.insert loc ⟨.file [] false, disk.now⟩).stamp loc.tail) := by
  simp only [createAt, hs.permit, h, bind, Except.bind, pure, Except.pure]

theorem createAt_ok (h : disk.createAt loc = .ok disk') : disk.find? loc = none ∧
    disk' = (disk.insert loc ⟨.file [] false, disk.now⟩).stamp loc.tail := by
  unfold createAt at h
  split at h
  · cases h
  · next hn =>
    obtain ⟨_, -, h⟩ := bind_eq_ok.1 h
    cases h
    exact ⟨hn, rfl⟩

theorem writeAt_ok {octets : List UInt8} (h : disk.writeAt loc octets = .ok disk') :
    ∃ old executable modified, disk.find? loc = some ⟨.file old executable, modified⟩ ∧
      disk' = disk.insert loc ⟨.file octets executable, disk.now⟩ := by
  obtain ⟨_, -, h⟩ := bind_eq_ok.1 h
  split at h
  · cases h
  · cases h
  · next old executable modified hn =>
    cases h
    exact ⟨old, executable, modified, hn, rfl⟩

theorem writeAt_of_file (hs : disk.sound) {octets : List UInt8} {executable : Bool}
    {modified : Time.Instant} (h : disk.find? loc = some ⟨.file octets executable, modified⟩)
    (octets' : List UInt8) :
    disk.writeAt loc octets' = .ok (disk.insert loc ⟨.file octets' executable, disk.now⟩) := by
  simp only [writeAt, hs.permit, h, bind, Except.bind, pure, Except.pure]

/-- What is moved is moved as a whole, and only where something gives way to it. -/
theorem renameAt_ok (hne : source ≠ target) (h : disk.renameAt source target = .ok disk') :
    disk.givesWay source target = .ok () ∧
      disk' = ((disk.moveTree source target).stamp source.tail).stamp target.tail := by
  obtain ⟨_, -, h⟩ := bind_eq_ok.1 h
  obtain ⟨_, hg, h⟩ := bind_eq_ok.1 h
  rw [if_neg hne] at h
  split at h
  · cases h
  · cases h
    exact ⟨hg, rfl⟩

/-- A file does not make a directory give way, and neither does a directory one that is not empty. -/
theorem directory_of_givesWay (h : disk.givesWay source target = .ok ())
    (ht : disk.isDirectory target = true) :
    disk.isDirectory source = true ∧ ∀ entry, disk.find? (entry :: target) = none := by
  obtain ⟨t, htarget, hcontent⟩ := isDirectory_iff.1 ht
  have htd : t.isDirectory = true := by simp [Node.isDirectory, hcontent]
  unfold givesWay at h
  cases hsource : disk.find? source with
  | none =>
    rw [hsource] at h
    cases h
  | some s =>
    simp only [hsource, htarget, htd, Bool.not_true, Bool.and_false, Bool.false_eq_true,
      ↓reduceIte, Bool.and_true, Bool.true_and] at h
    cases hs : s.isDirectory with
    | false => simp [hs] at h
    | true =>
      refine ⟨by simp [isDirectory, hsource, hs], ?_⟩
      cases hnames : disk.names target with
      | cons first rest => simp [hs, hnames] at h
      | nil =>
        intro entry
        have hn : entry ∉ disk.names target := by simp [hnames]
        rw [mem_names] at hn
        simpa using hn

theorem renameAt_of_file (hs : disk.sound) {node : Node} (h : disk.find? source = some node)
    (hn : node.isDirectory = false) (ht : disk.isDirectory target = false)
    (hw : ¬ source <:+ target) :
    disk.renameAt source target =
      .ok (((disk.moveTree source target).stamp source.tail).stamp target.tail) := by
  have hne : source ≠ target := by
    rintro rfl
    exact hw (List.suffix_refl _)
  have hw' : isWithin source target = false := by rwa [← Bool.not_eq_true, isWithin_iff]
  have hgives : disk.givesWay source target = .ok () := by
    unfold givesWay
    rw [h]
    cases htarget : disk.find? target with
    | none => rfl
    | some t =>
      have htd : t.isDirectory = false := by simpa [isDirectory, htarget] using ht
      simp [hn, htd]
  simp only [renameAt, hs.permit, hgives, hne, hw', bind, Except.bind, pure, Except.pure,
    ↓reduceIte, Bool.false_eq_true]

end BuoyGateway.Disk
