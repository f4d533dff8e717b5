import BuoyGateway.Proofs.Disk.Changes
import BuoyGateway.Proofs.Spool.FileNames

/-!
# What queueing and deleting a message does

A message that is queued appears whole under its name, unless a directory is there, and nothing else
in the directory or outside of it changes. The temporary file is gone, also when a step on the way
fails, unless the medium refuses to remove it. Deleting a file takes this file away and nothing else.
-/

namespace BuoyGateway.Disk

variable {disk disk' : Disk} {dir l : Location} {name : String} {octets : List UInt8}

/-- The place lies below no entry of the directory that is missing. -/
def BelowPresent (disk : Disk) (dir l : Location) : Prop :=
  ∀ entry, (entry :: dir) <:+ l → (disk.find? (entry :: dir)).isSome = true

/-- A directory gains a file under a name where no directory is, and all else stays. -/
structure Gains (disk disk' : Disk) (dir : Location) (name : String) (octets : List UInt8) : Prop
    extends Alike disk disk' where
  free : disk.isDirectory (name :: dir) = false
  file : ∃ modified, disk'.find? (name :: dir) = some ⟨.file octets false, modified⟩
  others : ∀ other, other ≠ name → disk'.find? (other :: dir) = disk.find? (other :: dir)
  outside : ∀ l, BelowPresent disk dir l → l ≠ dir → ¬ (name :: dir) <:+ l →
    disk'.find? l = disk.find? l
  directory : disk.isDirectory dir = true → disk'.isDirectory dir = true

theorem suffix_sibling {a b : String} (h : (a :: dir) <:+ (b :: dir)) : a = b :=
  (List.cons.inj (h.eq_of_length (by simp))).1

theorem dir_outside (entry : String) (dir : Location) : ¬ (entry :: dir) <:+ dir := by
  intro h
  have := h.length_le
  simp only [List.length_cons] at this
  omega

theorem isDirectory_congr (h : (disk'.find? l).map Node.content = (disk.find? l).map Node.content) :
    disk'.isDirectory l = disk.isDirectory l := by
  rw [isDirectory_eq_content, isDirectory_eq_content, h]

theorem isDirectory_of_find? (h : disk'.find? l = disk.find? l) :
    disk'.isDirectory l = disk.isDirectory l := by
  simp only [isDirectory, h]

theorem BelowPresent.apart (h : BelowPresent disk dir l) (hn : disk.find? (name :: dir) = none) :
    ¬ (name :: dir) <:+ l := by
  intro hs
  have := h name hs
  rw [hn] at this
  cases this

theorem isDirectory_of_none (h : disk.find? l = none) : disk.isDirectory l = false := by
  simp only [isDirectory, h, Option.any_none]

/-- A file was begun under a name where nothing was, and all else stays. -/
structure Begins (disk disk' : Disk) (dir : Location) (name : String) (octets : List UInt8) : Prop
    extends Alike disk disk' where
  file : ∃ modified, disk'.find? (name :: dir) = some ⟨.file octets false, modified⟩
  others : ∀ l, l ≠ dir → l ≠ name :: dir → disk'.find? l = disk.find? l
  directory : disk'.isDirectory dir = disk.isDirectory dir

theorem begins_created (disk : Disk) (dir : Location) (name : String) :
    Begins disk ((disk.insert (name :: dir) ⟨.file [] false, disk.now⟩).stamp dir) dir name [] := by
  have hname : name :: dir ≠ [] := List.cons_ne_nil _ _
  refine ⟨(alike_insert _ _ _).trans (alike_stamp _ _), ⟨disk.now, ?_⟩, fun l hdir hl => ?_,
    isDirectory_congr ?_⟩
  · rw [find?_stamp_of_ne (List.cons_ne_self _ _), find?_insert _ _ hname, if_pos rfl]
  · rw [find?_stamp_of_ne hdir, find?_insert _ _ hname, if_neg hl]
  · rw [content_stamp, find?_insert _ _ hname, if_neg (List.cons_ne_self _ _).symm]

theorem Begins.write {old : List UInt8} (h : Begins disk disk' dir name old) (octets : List UInt8)
    (now : Time.Instant) :
    Begins disk (disk'.insert (name :: dir) ⟨.file octets false, now⟩) dir name octets := by
  have hname : name :: dir ≠ [] := List.cons_ne_nil _ _
  refine ⟨h.toAlike.trans (alike_insert _ _ _), ⟨now, ?_⟩, fun l hdir hl => ?_, ?_⟩
  · rw [find?_insert _ _ hname, if_pos rfl]
  · rw [find?_insert _ _ hname, if_neg hl, h.others l hdir hl]
  · rw [← h.directory]
    refine isDirectory_of_find? ?_
    rw [find?_insert _ _ hname, if_neg (List.cons_ne_self _ _).symm]

theorem Begins.of_writeAt {old : List UInt8} (h : Begins disk disk' dir name old)
    (octets : List UInt8) {written : Disk} (hw : disk'.writeAt (name :: dir) octets = .ok written) :
    Begins disk written dir name octets := by
  obtain ⟨_, executable, _, hfile, rfl⟩ := writeAt_ok hw
  obtain ⟨_, hbegun⟩ := h.file
  rw [hbegun] at hfile
  cases hfile
  exact h.write octets _

theorem Begins.gains (h : Begins disk disk' dir name octets)
    (hn : disk.find? (name :: dir) = none) : Gains disk disk' dir name octets where
  toAlike := h.toAlike
  free := isDirectory_of_none hn
  file := h.file
  others _ hne := h.others _ (List.cons_ne_self _ _) (by simpa using hne)
  outside _ _ hdir hl := h.others _ hdir (fun he => hl (he ▸ List.suffix_refl _))
  directory hd := h.directory.trans hd

/-- A file that was gained under a temporary name is moved to a name where no directory is. -/
theorem gains_moved {temporary : String} (h : Gains disk disk' dir temporary octets)
    (hne : temporary ≠ name) (hfresh : disk.find? (temporary :: dir) = none)
    (hfree : disk.isDirectory (name :: dir) = false) :
    Gains disk (((disk'.moveTree (temporary :: dir) (name :: dir)).stamp dir).stamp dir) dir name
      octets := by
  have hstamps : ∀ l, l ≠ dir →
      (((disk'.moveTree (temporary :: dir) (name :: dir)).stamp dir).stamp dir).find? l =
        (disk'.moveTree (temporary :: dir) (name :: dir)).find? l := by
    intro l hl
    rw [find?_stamp_of_ne hl, find?_stamp_of_ne hl]
  refine ⟨((h.toAlike.trans (alike_moveTree _ _ _)).trans (alike_stamp _ _)).trans (alike_stamp _ _),
    hfree, ?_, ?_, ?_, ?_⟩
  · obtain ⟨modified, hf⟩ := h.file
    refine ⟨modified, ?_⟩
    rw [hstamps _ (List.cons_ne_self _ _), ← hf]
    exact find?_moveTree_target [] (List.cons_ne_nil _ _) (List.cons_ne_nil _ _)
  · intro other ho
    rw [hstamps _ (List.cons_ne_self _ _)]
    by_cases ht : other = temporary
    · subst ht
      rw [hfresh]
      exact find?_moveTree_source (List.cons_ne_nil _ _) (List.suffix_refl _)
        (fun hs => hne (suffix_sibling hs).symm)
    · rw [find?_moveTree_of_apart (fun hs => ht (suffix_sibling hs).symm)
        (fun hs => ho (suffix_sibling hs).symm), h.others other ht]
  · intro l hl hdir hname
    rw [hstamps l hdir, find?_moveTree_of_apart (hl.apart hfresh) hname,
      h.outside l hl hdir (hl.apart hfresh)]
  · intro hd
    rw [← h.directory hd]
    refine isDirectory_congr ?_
    rw [content_stamp, content_stamp,
      find?_moveTree_of_apart (dir_outside temporary dir) (dir_outside name dir)]

/-- The steps of a write that have succeeded when it fails later are undone, and only times of the
directory differ. The temporary file is left if the medium refuses to remove it. -/
structure Restores (disk disk' : Disk) (dir : Location) : Prop extends Alike disk disk' where
  kept : ∀ l, l ≠ dir → l ≠ disk.freshName dir :: dir → disk'.find? l = disk.find? l
  removed : disk.permit .remove (disk.freshName dir :: dir) = .ok () →
    disk'.find? (disk.freshName dir :: dir) = none
  directory : disk'.isDirectory dir = disk.isDirectory dir

theorem Restores.refl (disk : Disk) (dir : Location) : Restores disk disk dir :=
  ⟨Alike.refl disk, fun _ _ _ => rfl, fun _ => find?_freshName disk dir, rfl⟩

theorem Restores.record (h : Restores disk disk' dir) (hname : isRecordName name = true) :
    disk'.find? (name :: dir) = disk.find? (name :: dir) := by
  refine h.kept _ (List.cons_ne_self _ _) fun he => ?_
  rw [(List.cons.inj he).1, isRecordName_freshName] at hname
  cases hname

theorem Restores.entry (h : Restores disk disk' dir)
    (hremove : disk.permit .remove (disk.freshName dir :: dir) = .ok ()) (name : String) :
    disk'.find? (name :: dir) = disk.find? (name :: dir) := by
  by_cases hname : name = disk.freshName dir
  · rw [hname, h.removed hremove, find?_freshName]
  · exact h.kept _ (List.cons_ne_self _ _) (by simpa using hname)

theorem Restores.outside (h : Restores disk disk' dir) (hdir : l ≠ dir)
    (hbelow : ∀ entry, ¬ (entry :: dir) <:+ l) : disk'.find? l = disk.find? l := by
  refine h.kept l hdir ?_
  rintro rfl
  exact hbelow _ (List.suffix_refl _)

theorem Begins.restores (h : Begins disk disk' dir (disk.freshName dir) octets) :
    Restores disk (disk'.drop (disk.freshName dir :: dir)) dir := by
  have hname : disk.freshName dir :: dir ≠ [] := List.cons_ne_nil _ _
  unfold drop
  cases hremove : disk'.removeAt (disk.freshName dir :: dir) with
  | ok removed =>
    obtain ⟨-, rfl⟩ := removeAt_ok hremove
    refine ⟨h.toAlike.trans ((alike_erase _ _).trans (alike_stamp _ _)), fun l hdir hl => ?_,
      fun _ => ?_, ?_⟩
    · rw [List.tail_cons, find?_stamp_of_ne hdir, find?_erase _ hname, if_neg hl, h.others l hdir hl]
    · rw [List.tail_cons, find?_stamp_of_ne (List.cons_ne_self _ _), find?_erase _ hname,
        if_pos rfl]
    · rw [← h.directory]
      refine isDirectory_congr ?_
      rw [List.tail_cons, content_stamp, find?_erase _ hname, if_neg (List.cons_ne_self _ _).symm]
  | error e =>
    refine ⟨h.toAlike, h.others, fun hpermit => ?_, h.directory⟩
    -- The file is there, so only the medium can have kept it from being removed.
    obtain ⟨_, hfile⟩ := h.file
    simp only [permit, ← h.refuses] at hpermit
    simp only [removeAt, permit, hpermit, hfile, bind, Except.bind, pure, Except.pure] at hremove
    cases hremove

/-- What was begun under a temporary name and given its own name is gained. -/
theorem Begins.gains_renamed {temporary : String} (h : Begins disk disk' dir temporary octets)
    (hfresh : disk.find? (temporary :: dir) = none) {final : Disk}
    (hrename : disk'.renameAt (temporary :: dir) (name :: dir) = .ok final) :
    Gains disk final dir name octets := by
  have hgains := h.gains hfresh
  by_cases hne : temporary = name
  · subst hne
    obtain ⟨_, -, hrename⟩ := bind_eq_ok.1 hrename
    obtain ⟨_, -, hrename⟩ := bind_eq_ok.1 hrename
    rw [if_pos rfl] at hrename
    cases hrename
    exact hgains
  · obtain ⟨hgives, rfl⟩ := renameAt_ok (by simpa using hne) hrename
    refine gains_moved hgains hne hfresh ?_
    -- A file has taken the place, so no directory was there.
    rw [← Bool.not_eq_true, ← isDirectory_of_find? (hgains.others name (Ne.symm hne))]
    intro hd
    obtain ⟨hfile, -⟩ := directory_of_givesWay hgives hd
    obtain ⟨modified, hf⟩ := hgains.file
    simp [isDirectory, hf, Node.isDirectory] at hfile

/-- A file that is written is gained, and a write that fails leaves at most its temporary file. -/
theorem writeWhole_spec (disk : Disk) (dir : Location) (name : String) (octets : List UInt8) :
    match disk.writeWhole dir name octets with
    | (.ok (), disk') => Gains disk disk' dir name octets
    | (.error _, disk') => Restores disk disk' dir := by
  unfold writeWhole
  dsimp only
  cases hcreate : disk.createAt (disk.freshName dir :: dir) with
  | error e => exact Restores.refl disk dir
  | ok created =>
    obtain ⟨-, rfl⟩ := createAt_ok hcreate
    have hcreated := begins_created disk dir (disk.freshName dir)
    dsimp only
    cases hwrite : Disk.writeAt _ (disk.freshName dir :: dir) octets with
    | error e => exact hcreated.restores
    | ok written =>
      have hwritten := hcreated.of_writeAt octets hwrite
      dsimp only
      cases hrename : (do
          (← written.syncAt (disk.freshName dir :: dir)).renameAt (disk.freshName dir :: dir)
            (name :: dir)) with
      | error e => exact hwritten.restores
      | ok final =>
        obtain ⟨synced, hsync, hrename⟩ := bind_eq_ok.1 hrename
        obtain ⟨_, -, hsync⟩ := bind_eq_ok.1 hsync
        cases hsync
        exact hwritten.gains_renamed (find?_freshName disk dir) hrename

/-- On a sound medium a file is written whole under a name where no directory is. -/
theorem writeWhole_of_free (hs : disk.sound) (hfree : disk.isDirectory (name :: dir) = false)
    (octets : List UInt8) :
    ∃ disk', disk.writeWhole dir name octets = (.ok (), disk') := by
  have hfresh := find?_freshName disk dir
  let temporary := disk.freshName dir
  let created := (disk.insert (temporary :: dir) ⟨.file [] false, disk.now⟩).stamp dir
  let written := created.insert (temporary :: dir) ⟨.file octets false, created.now⟩
  have hcreated : Begins disk created dir temporary [] := begins_created disk dir temporary
  have hgains : Gains disk written dir temporary octets := (hcreated.write octets _).gains hfresh
  have hcreate : disk.createAt (temporary :: dir) = .ok created := createAt_of_none hs hfresh
  obtain ⟨_, hempty⟩ := hcreated.file
  have hwrite : created.writeAt (temporary :: dir) octets = .ok written :=
    writeAt_of_file (hcreated.toAlike.sound hs) hempty octets
  have hsound : written.sound := hgains.toAlike.sound hs
  have hsync : written.syncAt (temporary :: dir) = .ok written := by
    simp only [syncAt, hsound.permit, bind, Except.bind, pure, Except.pure]
  obtain ⟨modified, hfile⟩ := hgains.file
  have hrename : ∃ disk', written.renameAt (temporary :: dir) (name :: dir) = .ok disk' := by
    by_cases hne : temporary = name
    · refine ⟨written, ?_⟩
      subst hne
      simp [renameAt, hsound.permit, givesWay, hfile, Node.isDirectory, bind, Except.bind, pure,
        Except.pure]
    · have hfree' : written.isDirectory (name :: dir) = false := by
        rw [← hfree]
        exact isDirectory_of_find? (hgains.others name (Ne.symm hne))
      exact ⟨_, renameAt_of_file hsound hfile rfl hfree' (fun h => hne (suffix_sibling h))⟩
  obtain ⟨disk', hrename⟩ := hrename
  refine ⟨disk', ?_⟩
  simp only [writeWhole, hcreate, hwrite, hsync, hrename, temporary, bind, Except.bind]

/-- A message that is queued is gained by the outbox, and a queue that fails leaves at most a temporary
file. -/
theorem queue_spec (disk : Disk) {outbox : String} (hd : disk.locateDirectory outbox = .ok dir)
    (ref : Ref) (r : Outgoing) :
    match disk.queue outbox ref r with
    | (.ok (), disk') => Gains disk disk' dir (r.fileName ref) r.octets
    | (.error _, disk') => Restores disk disk' dir := by
  have h := writeWhole_spec disk dir (r.fileName ref) r.octets
  simp only [queue, hd]
  exact h

/-- On a sound medium a message is queued whole under a name where no directory is. -/
theorem queue_of_free (hs : disk.sound) {outbox : String}
    (hd : disk.locateDirectory outbox = .ok dir) {r : Outgoing} {ref : Ref}
    (hfree : disk.isDirectory (r.fileName ref :: dir) = false) :
    ∃ disk', disk.queue outbox ref r = (.ok (), disk') ∧
      Gains disk disk' dir (r.fileName ref) r.octets := by
  obtain ⟨disk', hw⟩ := writeWhole_of_free hs hfree r.octets
  have hq : disk.queue outbox ref r = (.ok (), disk') := by simp only [queue, hd, hw]
  have hg := queue_spec disk hd ref r
  rw [hq] at hg
  exact ⟨disk', hq, hg⟩

/-- A directory loses a file, and all else stays. -/
structure Loses (disk disk' : Disk) (dir : Location) (name : String) : Prop
    extends Alike disk disk' where
  gone : disk'.find? (name :: dir) = none
  others : ∀ l, l ≠ name :: dir → l ≠ dir → disk'.find? l = disk.find? l
  directory : disk.isDirectory dir = true → disk'.isDirectory dir = true

theorem removeAt_loses (hs : disk.sound) {executable : Bool} {modified : Time.Instant}
    (h : disk.find? (name :: dir) = some ⟨.file octets executable, modified⟩) :
    ∃ disk', disk.removeAt (name :: dir) = .ok disk' ∧ Loses disk disk' dir name := by
  have hname : name :: dir ≠ [] := List.cons_ne_nil _ _
  refine ⟨_, removeAt_of_file hs h, (alike_erase _ _).trans (alike_stamp _ _), ?_, ?_, ?_⟩
  · rw [List.tail_cons, find?_stamp_of_ne (List.cons_ne_self _ _), find?_erase _ hname, if_pos rfl]
  · intro l hl hdir
    rw [List.tail_cons, find?_stamp_of_ne hdir, find?_erase _ hname, if_neg hl]
  · intro hd
    rw [← hd]
    refine isDirectory_congr ?_
    rw [List.tail_cons, content_stamp, find?_erase _ hname, if_neg (List.cons_ne_self _ _).symm]

end BuoyGateway.Disk
