import BuoyGateway.Proofs.Spool.Queueing
import BuoyGateway.Proofs.Spool.Undisturbed

/-!
# A spool that stands

A spool stands on a disk when all directories that its path leads through are there, with those that
they lie in, and its inbox and outbox. It stands on every rooted disk where both can be
located. Queueing, deleting, and looks that find the inbox keep a spool standing.
-/

namespace BuoyGateway.Disk

open BuoyGateway.Path (trail goal)

variable {disk disk' : Disk} {base part name : String} {loc l : Location} {octets : List UInt8}

def way (disk : Disk) (base : String) : List Location :=
  trail (disk.origin base) (Path.steps base) ++ [disk.homeOf base]

/-- The place is a directory that the path of a spool leads through, or one lies in it. -/
def onWay (disk : Disk) (base : String) (l : Location) : Prop := ∃ below ∈ disk.way base, l <:+ below

structure Stands (disk : Disk) (base : String) : Prop where
  way : ∀ l, disk.onWay base l → disk.isDirectory l = true
  inbox : disk.isDirectory ("inbox" :: disk.homeOf base) = true
  outbox : disk.isDirectory ("outbox" :: disk.homeOf base) = true

theorem way_eq (hp : IsPart part) (disk : Disk) (base : String) :
    trail (disk.origin (Path.join base part)) (Path.steps (Path.join base part)) =
      disk.way base := by
  rw [hp.origin, hp.steps, Path.trail_append]
  rfl

theorem Alike.way (h : Alike disk disk') (base : String) : disk'.way base = disk.way base := by
  simp only [Disk.way, h.homeOf base, origin, h.current]

theorem Alike.onWay (h : Alike disk disk') (base : String) (l : Location) :
    disk'.onWay base l ↔ disk.onWay base l := by
  simp only [Disk.onWay, h.way base]

theorem onWay.of_suffix {l' : Location} (h : disk.onWay base l) (hl : l' <:+ l) :
    disk.onWay base l' := by
  obtain ⟨below, hb, hs⟩ := h
  exact ⟨below, hb, hl.trans hs⟩

theorem isDirectory_of_mem_way (hp : IsPart part)
    (h : disk.locateDirectory (Path.join base part) = .ok loc) (hl : l ∈ disk.way base) :
    disk.isDirectory l = true := by
  obtain ⟨-, -, -, hw, -⟩ := locateDirectory_eq_ok_iff.1 h
  exact (walk_eq_ok_iff.1 hw).2.1 l (by rwa [way_eq hp])

theorem stands_of_rooted (hr : disk.rooted)
    (hi : disk.locateDirectory (Path.join base "inbox") = .ok loc)
    (ho : disk.locateDirectory (Path.join base "outbox") = .ok l) : disk.Stands base := by
  refine ⟨?_, ?_, ?_⟩
  · rintro l ⟨below, hb, hl⟩
    exact hr.suffix (isDirectory_of_mem_way isPart_inbox hi hb) hl
  · rw [← (locateDirectory_part isPart_inbox hi).1]
    exact (locateDirectory_eq_ok_iff.1 hi).2.2.2.2
  · rw [← (locateDirectory_part isPart_outbox ho).1]
    exact (locateDirectory_eq_ok_iff.1 ho).2.2.2.2

/-- A part of a spool that stands can be located, if its path could ever be. -/
theorem Stands.locate (h : disk'.Stands base) (hp : IsPart part)
    (h₀ : disk.locateDirectory (Path.join base part) = .ok loc) (hc : disk'.current = disk.current)
    (hd : disk'.isDirectory (part :: disk'.homeOf base) = true) :
    disk'.locateDirectory (Path.join base part) = .ok (part :: disk'.homeOf base) := by
  have horigin : ∀ path, disk'.origin path = disk.origin path := by
    intro path
    simp only [origin, hc]
  have hhome : disk'.homeOf base = disk.homeOf base := by simp only [homeOf, horigin]
  have hloc := (locateDirectory_part hp h₀).1
  rw [← hhome] at hloc
  subst hloc
  refine locateDirectory_of_trail h₀ hc (fun l hl _ => h.way l ⟨l, ?_, List.suffix_refl l⟩) hd
  rwa [← way_eq hp, horigin]

theorem stands_of_directories (ha : Alike disk disk')
    (hway : ∀ l, disk.onWay base l → disk'.isDirectory l = true)
    (hi : disk'.isDirectory ("inbox" :: disk.homeOf base) = true)
    (ho : disk'.isDirectory ("outbox" :: disk.homeOf base) = true) : disk'.Stands base := by
  refine ⟨fun l hl => hway l ((ha.onWay base l).1 hl), ?_, ?_⟩ <;> rwa [ha.homeOf base]

theorem Stands.gains (h : disk.Stands base)
    (hg : Gains disk disk' ("outbox" :: disk.homeOf base) name octets) : disk'.Stands base := by
  have hpresent : ∀ l, disk.onWay base l → BelowPresent disk ("outbox" :: disk.homeOf base) l := by
    intro l hl entry hs
    obtain ⟨node, hn, -⟩ := isDirectory_iff.1 (h.way _ (hl.of_suffix hs))
    rw [hn]
    rfl
  refine stands_of_directories hg.toAlike ?_ ?_ (hg.directory h.outbox)
  · intro l hl
    by_cases hdir : l = "outbox" :: disk.homeOf base
    · rw [hdir]
      exact hg.directory h.outbox
    · rw [isDirectory_of_find? (hg.outside l (hpresent l hl) hdir ?_)]
      · exact h.way l hl
      · intro hs
        have hd := h.way _ (hl.of_suffix hs)
        rw [hg.free] at hd
        cases hd
  · have hlength : ∀ entry, ¬ (entry :: "outbox" :: disk.homeOf base) <:+
        ("inbox" :: disk.homeOf base) := by
      intro entry hs
      have := hs.length_le
      simp only [List.length_cons] at this
      omega
    rw [isDirectory_of_find? (hg.outside _ (fun entry hs => absurd hs (hlength entry)) (by simp)
      (hlength name))]
    exact h.inbox

theorem Stands.loses (h : disk.Stands base)
    (hl : Loses disk disk' ("inbox" :: disk.homeOf base) name) {executable : Bool}
    {modified : Time.Instant} (hf : disk.find? (name :: "inbox" :: disk.homeOf base) =
      some ⟨.file octets executable, modified⟩) : disk'.Stands base := by
  refine stands_of_directories hl.toAlike ?_ (hl.directory h.inbox) ?_
  · intro l hw
    have hd := h.way l hw
    by_cases hdir : l = "inbox" :: disk.homeOf base
    · rw [hdir]
      exact hl.directory h.inbox
    · rw [isDirectory_of_find? (hl.others l ?_ hdir)]
      · exact hd
      · rintro rfl
        simp [isDirectory, hf, Node.isDirectory] at hd
  · rw [isDirectory_of_find? (hl.others _ (by simp) (by simp))]
    exact h.outbox

/-- Somebody left the spool in the directory of a path alone: its way and its three directories are
there as before, with the same entries and all below them. -/
structure LeavesSpool (base : String) (disk disk' : Disk) : Prop where
  current : disk'.current = disk.current
  refuses : disk'.refuses = disk.refuses
  way : ∀ l, disk.onWay base l → disk'.isDirectory l = disk.isDirectory l
  directories : ∀ part ∈ ["inbox", "outbox", "rejected"],
    disk'.isDirectory (part :: disk.homeOf base) = disk.isDirectory (part :: disk.homeOf base)
  entries : ∀ part ∈ ["inbox", "outbox", "rejected"], ∀ above name,
    disk'.find? (above ++ name :: part :: disk.homeOf base) =
      disk.find? (above ++ name :: part :: disk.homeOf base)

theorem LeavesSpool.refl (base : String) (disk : Disk) : LeavesSpool base disk disk :=
  ⟨rfl, rfl, fun _ _ => rfl, fun _ _ => rfl, fun _ _ _ _ => rfl⟩

theorem LeavesSpool.homeOf (h : LeavesSpool base disk disk') :
    disk'.homeOf base = disk.homeOf base := by
  simp only [Disk.homeOf, origin, h.current]

theorem Stands.left (h : disk.Stands base) (hl : LeavesSpool base disk disk') :
    disk'.Stands base := by
  have hway : disk'.way base = disk.way base := by
    simp only [Disk.way, hl.homeOf, origin, hl.current]
  refine ⟨?_, ?_, ?_⟩
  · intro l hw
    simp only [onWay, hway] at hw
    rw [hl.way l hw]
    exact h.way l hw
  · rw [hl.homeOf, hl.directories "inbox" (by simp)]
    exact h.inbox
  · rw [hl.homeOf, hl.directories "outbox" (by simp)]
    exact h.outbox

/-- The spool in the directory of a path is at hand: it stands, its inbox and its outbox can be
located, and the medium refuses nothing. -/
structure Serves (disk : Disk) (base : String) : Prop where
  sound : disk.sound
  stands : disk.Stands base
  inbox : disk.locateDirectory (Path.join base "inbox") = .ok ("inbox" :: disk.homeOf base)
  outbox : disk.locateDirectory (Path.join base "outbox") = .ok ("outbox" :: disk.homeOf base)

theorem Serves.of_stands (h : disk.Serves base) (hs : disk'.sound) (hst : disk'.Stands base)
    (hc : disk'.current = disk.current) : disk'.Serves base :=
  ⟨hs, hst, hst.locate isPart_inbox h.inbox hc hst.inbox,
    hst.locate isPart_outbox h.outbox hc hst.outbox⟩

theorem Serves.gains (h : disk.Serves base)
    (hg : Gains disk disk' ("outbox" :: disk.homeOf base) name octets) : disk'.Serves base :=
  h.of_stands (hg.toAlike.sound h.sound) (h.stands.gains hg) hg.current

theorem Serves.loses (h : disk.Serves base)
    (hl : Loses disk disk' ("inbox" :: disk.homeOf base) name) {executable : Bool}
    {modified : Time.Instant} (hf : disk.find? (name :: "inbox" :: disk.homeOf base) =
      some ⟨.file octets executable, modified⟩) : disk'.Serves base :=
  h.of_stands (hl.toAlike.sound h.sound) (h.stands.loses hl hf) hl.current

theorem Serves.left (h : disk.Serves base) (hl : LeavesSpool base disk disk') :
    disk'.Serves base := by
  refine h.of_stands ?_ (h.stands.left hl) hl.current
  intro access loc
  rw [hl.refuses, h.sound]

end BuoyGateway.Disk

namespace BuoyGateway.Gateway

variable {ε : Type} {g : Gateway ε} {base name : String} {names : List String}

/-- A look at a file keeps a spool standing, as long as the inbox is found after it and the file can
be moved aside if it has to be. -/
theorem stands_afterFile (hs : g.spool.LiesIn base) (h : g.disk.Stands base)
    (hi : (g.afterFile name).holdsInbox)
    (haside : g.rejects name → (g.moveAside name).1 = .ok ()) :
    (g.afterFile name).disk.Stands base := by
  rcases afterFile_disk g name with ⟨hr, hd⟩ | ⟨-, hd⟩
  · obtain ⟨hspares, hmoves, -⟩ := moveAside_spec hs (holdsInbox_of_isStale hr.2.2) name
    have hmoves := hmoves (haside hr)
    rw [← hd] at hspares hmoves
    obtain ⟨dir, hlocated⟩ := hi
    rw [(afterFile_liesIn hs name).inbox] at hlocated
    refine Disk.stands_of_directories hspares.toAlike ?_ ?_ ?_
    · intro l hl
      obtain ⟨below, hb, hsuffix⟩ := id hl
      have hthere : (g.afterFile name).disk.isDirectory below = true :=
        Disk.isDirectory_of_mem_way Disk.isPart_inbox hlocated
          (by rwa [hspares.toAlike.way base])
      by_cases hin : (name :: "inbox" :: g.disk.homeOf base) <:+ l
      · -- The way cannot lead through an entry that is gone.
        obtain ⟨above, rfl⟩ := hin.trans hsuffix
        obtain ⟨node, hn, -⟩ := Disk.isDirectory_iff.1 hthere
        rw [hmoves.gone above] at hn
        cases hn
      · by_cases hre : (name :: "rejected" :: g.disk.homeOf base) <:+ l
        · -- What gave way was an empty directory, and a directory took its place.
          obtain ⟨hdirectory, hempty⟩ := hmoves.gaveWay (h.way _ (hl.of_suffix hre))
          obtain ⟨above, rfl⟩ := hre
          rcases List.eq_nil_or_concat above with rfl | ⟨above, entry, rfl⟩
          · obtain ⟨node, hn, hc⟩ := Disk.isDirectory_iff.1 hdirectory
            exact Disk.isDirectory_iff.2 ⟨node, (hmoves.found []).trans hn, hc⟩
          · have hentry := h.way (entry :: name :: "rejected" :: g.disk.homeOf base)
              (hl.of_suffix ⟨above, by simp⟩)
            obtain ⟨node, hn, -⟩ := Disk.isDirectory_iff.1 hentry
            rw [hempty entry] at hn
            cases hn
        · exact hspares.directories l ⟨hin, hre⟩ (h.way l hl)
    · exact hspares.directories _ (Disk.apart_of_length (by simp)) h.inbox
    · exact hspares.directories _ (Disk.apart_of_length (by simp)) h.outbox
  · rw [hd]
    exact h

/-- Every entry that a look at files has to move aside can be moved. -/
def movesAll (g : Gateway ε) (names : List String) : Prop :=
  ∀ name ∈ names, (g.reached names name).rejects name →
    ((g.reached names name).moveAside name).1 = .ok ()

end BuoyGateway.Gateway
