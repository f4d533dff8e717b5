import BuoyGateway.Proofs.Spool.Look
import BuoyGateway.Proofs.Spool.Rejection

/-!
# Looks that do not disturb each other

As long as the inbox can be located, a look at one file leaves what the others hold. Only a path that
leads back up through its own inbox can be cut by moving an entry aside; one that never climbs
holds all through a look.
-/

namespace BuoyGateway

namespace Path

/-- Steps that never climb leave only places above the one where they end. -/
theorem suffix_goal {steps : List String} (h : ".." ∉ steps) (start : Location) :
    (∀ l ∈ trail start steps, l <:+ goal start steps) ∧ start <:+ goal start steps := by
  induction steps generalizing start with
  | nil => exact ⟨fun _ hl => absurd hl List.not_mem_nil, List.suffix_refl _⟩
  | cons step steps ih =>
    rw [List.mem_cons, not_or] at h
    obtain ⟨hrest, hstart⟩ := ih h.2 (after start step)
    have hafter : after start step = step :: start := if_neg (Ne.symm h.1)
    rw [hafter] at hrest hstart
    have hs : start <:+ goal (step :: start) steps := (List.suffix_cons _ _).trans hstart
    simp only [trail, goal, hafter, List.forall_mem_cons]
    exact ⟨⟨hs, hrest⟩, hs⟩

end Path

namespace Disk

variable {disk disk' : Disk} {base part : String} {home l loc : Location}

/-- The place lies neither at nor below an entry of one of the directories of a spool. -/
def Outside (home l : Location) : Prop :=
  ∀ part ∈ ["inbox", "outbox", "rejected"], ∀ entry, ¬ (entry :: part :: home) <:+ l

/-- The path of a spool does not lead through what is in the directories of this spool. -/
def leadsAround (disk : Disk) (base : String) : Prop :=
  ∀ l ∈ Path.trail (disk.origin base) (Path.steps base), Outside (disk.homeOf base) l

/-- Directories outside of those of the spool, and these themselves, are still there. -/
def KeepsOutside (base : String) (disk disk' : Disk) : Prop :=
  ∀ l, Outside (disk.homeOf base) l → disk.isDirectory l = true → disk'.isDirectory l = true

theorem outside_of_length (h : l.length ≤ home.length + 1) : Outside home l := by
  intro part _ entry hs
  have := hs.length_le
  simp only [List.length_cons] at this
  omega

theorem Outside.apart (h : Outside home l) (name : String) : Apart home name l :=
  ⟨h "inbox" (by simp) name, h "rejected" (by simp) name⟩

theorem leadsAround_of_plain (hc : ".." ∉ Path.steps base) : disk.leadsAround base :=
  fun l hl => outside_of_length (Nat.le_succ_of_le ((Path.suffix_goal hc _).1 l hl).length_le)

theorem leadsAround.congr (h : disk.leadsAround base) (hc : disk'.current = disk.current) :
    disk'.leadsAround base := by
  simp only [leadsAround, homeOf, origin, hc] at h ⊢
  exact h

/-- A path that does not lead through the directories of its spool leads to a part of the spool as
long as what it leads through is there. -/
theorem KeepsOutside.locate (h : KeepsOutside base disk disk') (hp : IsPart part)
    (haround : disk.leadsAround base) (hcurrent : disk'.current = disk.current)
    (hl : disk.locateDirectory (Path.join base part) = .ok loc) :
    disk'.locateDirectory (Path.join base part) = .ok loc := by
  refine locateDirectory_of_trail hl hcurrent (fun l hm hd => h l ?_ hd) (h loc ?_ ?_)
  · rw [hp.origin, hp.steps, Path.trail_append, List.mem_append] at hm
    rcases hm with hm | hm
    · exact haround l hm
    · rw [List.mem_singleton.1 hm]
      exact outside_of_length (Nat.le_succ _)
  · rw [(locateDirectory_part hp hl).1]
    exact outside_of_length (Nat.le_refl _)
  · exact (locateDirectory_eq_ok_iff.1 hl).2.2.2.2

theorem KeepsOutside.refl (base : String) (disk : Disk) : KeepsOutside base disk disk :=
  fun _ _ hd => hd

theorem KeepsOutside.trans {a b c : Disk} (h₁ : KeepsOutside base a b) (h₂ : KeepsOutside base b c)
    (hhome : b.homeOf base = a.homeOf base) : KeepsOutside base a c :=
  fun l hl hd => h₂ l (hhome.symm ▸ hl) (h₁ l hl hd)

end Disk

namespace Gateway

variable {ε : Type} {g g' : Gateway ε} {base name other : String} {dir : Location}
  {names : List String}

/-! ### What a file holds -/

theorem readIncoming_congr (hi : g.disk.locateDirectory g.spool.inbox = .ok dir)
    (hi' : g'.disk.locateDirectory g'.spool.inbox = .ok dir) (ha : Disk.Alike g.disk g'.disk)
    (hf : g'.disk.find? (name :: dir) = g.disk.find? (name :: dir)) :
    g'.readIncoming name = g.readIncoming name := by
  simp only [readIncoming, hi, hi', bind, Except.bind, Disk.readAt, Disk.permit, ha.refuses, hf]

theorem modified_congr (hi : g.disk.locateDirectory g.spool.inbox = .ok dir)
    (hi' : g'.disk.locateDirectory g'.spool.inbox = .ok dir) (ha : Disk.Alike g.disk g'.disk)
    (hf : g'.disk.find? (name :: dir) = g.disk.find? (name :: dir)) :
    g'.modified name = g.modified name := by
  simp only [modified, hi, hi', bind, Except.bind, Disk.modifiedAt, Disk.permit, ha.refuses, hf]

structure SameFile (g g' : Gateway ε) (name : String) : Prop where
  record : g'.readIncoming name = g.readIncoming name
  stamp : g'.fileStamp name = g.fileStamp name
  stale : g'.isStale name = g.isStale name

theorem SameFile.refl (g : Gateway ε) (name : String) : SameFile g g name := ⟨rfl, rfl, rfl⟩

theorem SameFile.trans {a b c : Gateway ε} (h₁ : SameFile a b name) (h₂ : SameFile b c name) :
    SameFile a c name :=
  ⟨h₂.record.trans h₁.record, h₂.stamp.trans h₁.stamp, h₂.stale.trans h₁.stale⟩

theorem sameFile_of_find? (hi : g.disk.locateDirectory g.spool.inbox = .ok dir)
    (hi' : g'.disk.locateDirectory g'.spool.inbox = .ok dir) (ha : Disk.Alike g.disk g'.disk)
    (hf : g'.disk.find? (name :: dir) = g.disk.find? (name :: dir)) : SameFile g g' name := by
  have hm := modified_congr hi hi' ha hf
  exact ⟨readIncoming_congr hi hi' ha hf, by simp only [fileStamp, hm, ha.now],
    by simp only [isStale, hm, ha.now]⟩

theorem SameFile.reads (h : SameFile g g' name) : g'.reads name ↔ g.reads name := by
  simp only [Gateway.reads, h.record]

/-- What a file brings up depends on what the gateway says of it, and on whether it was
delivered. -/
theorem SameFile.arrival? (h : SameFile g g' name)
    (hd : name ∈ g'.spool.delivered ↔ name ∈ g.spool.delivered) :
    g'.arrival? name = g.arrival? name := by
  simp only [Gateway.arrival?, h.record, h.stamp, List.contains_eq_mem, hd]

theorem SameFile.rejects (h : SameFile g g' name)
    (hd : name ∈ g'.spool.delivered ↔ name ∈ g.spool.delivered) :
    g'.rejects name ↔ g.rejects name := by
  simp only [Gateway.rejects, h.reads, h.stale, hd]

/-! ### Other files -/

theorem sameFile_afterFile (hs : g.spool.LiesIn base) (hi : g.holdsInbox)
    (hi' : (g.afterFile other).holdsInbox) (hne : name ≠ other) :
    SameFile g (g.afterFile other) name := by
  have hspares := afterFile_spares hs other
  have hl' := locate_inbox (afterFile_liesIn hs other) hi'
  rw [hspares.toAlike.homeOf base] at hl'
  exact sameFile_of_find? (locate_inbox hs hi) hl' hspares.toAlike (hspares.inbox hne)

theorem afterFiles_spares (hs : g.spool.LiesIn base) (hn : name ∉ names) :
    Disk.Alike g.disk (afterFiles names g).disk ∧
      (afterFiles names g).disk.find? (name :: "inbox" :: g.disk.homeOf base) =
        g.disk.find? (name :: "inbox" :: g.disk.homeOf base) := by
  induction names generalizing g with
  | nil => exact ⟨Disk.Alike.refl _, rfl⟩
  | cons first names ih =>
    rw [List.mem_cons, not_or] at hn
    have hspares := afterFile_spares hs first
    obtain ⟨ha, hf⟩ := ih (afterFile_liesIn hs first) hn.2
    rw [hspares.toAlike.homeOf base] at hf
    exact ⟨hspares.toAlike.trans ha, hf.trans (hspares.inbox hn.1)⟩

def holdsThrough (g : Gateway ε) (names : List String) : Prop :=
  ∀ before, before <+: names → (afterFiles before g).holdsInbox

theorem holdsThrough_cons :
    g.holdsThrough (name :: names) ↔ g.holdsInbox ∧ (g.afterFile name).holdsThrough names := by
  constructor
  · intro h
    exact ⟨h [] List.nil_prefix, fun before hb => h (name :: before)
      (List.cons_prefix_cons.2 ⟨rfl, hb⟩)⟩
  · rintro ⟨hi, h⟩ before hb
    cases before with
    | nil => exact hi
    | cons first before =>
      obtain ⟨rfl, hrest⟩ := List.cons_prefix_cons.1 hb
      exact h before hrest

theorem holdsThrough.holdsInbox (h : g.holdsThrough names) : g.holdsInbox :=
  h [] List.nil_prefix

theorem holdsThrough.of_prefix {before : List String} (h : g.holdsThrough names)
    (hb : before <+: names) : g.holdsThrough before :=
  fun first hf => h first (hf.trans hb)

theorem sameFile_afterFiles (hs : g.spool.LiesIn base) (h : g.holdsThrough names)
    (hn : name ∉ names) : SameFile g (afterFiles names g) name := by
  induction names generalizing g with
  | nil => exact SameFile.refl g name
  | cons first names ih =>
    rw [holdsThrough_cons] at h
    rw [List.mem_cons, not_or] at hn
    exact (sameFile_afterFile hs h.1 h.2.holdsInbox hn.1).trans
      (ih (afterFile_liesIn hs first) h.2 hn.2)

/-- When a look comes to a file, the file holds what it held before. -/
theorem sameFile_reached (hs : g.spool.LiesIn base) (h : g.holdsThrough names) (name : String) :
    SameFile g (g.reached names name) name :=
  sameFile_afterFiles hs (h.of_prefix (List.takeWhile_prefix _)) (name_notMem_before name names)

/-! ### Paths that never climb -/

theorem afterFile_keepsOutside (hs : g.spool.LiesIn base) (name : String) :
    Disk.KeepsOutside base g.disk (g.afterFile name).disk :=
  fun l hl hd => (afterFile_spares hs name).directories l (hl.apart name) hd

theorem holdsInbox_afterFile (hs : g.spool.LiesIn base) (hc : ".." ∉ Path.steps base)
    (hi : g.holdsInbox) (name : String) : (g.afterFile name).holdsInbox := by
  have hl := locate_inbox hs hi
  rw [hs.inbox] at hl
  refine ⟨"inbox" :: g.disk.homeOf base, ?_⟩
  rw [(afterFile_liesIn hs name).inbox]
  exact (afterFile_keepsOutside hs name).locate Disk.isPart_inbox (Disk.leadsAround_of_plain hc)
    (afterFile_spares hs name).current hl

/-- A path that never climbs holds all through a look. -/
theorem holdsThrough_of_plain (hs : g.spool.LiesIn base) (hc : ".." ∉ Path.steps base)
    (hi : g.holdsInbox) (names : List String) : g.holdsThrough names := by
  induction names generalizing g with
  | nil =>
    intro before hb
    rw [List.prefix_nil.1 hb]
    exact hi
  | cons name names ih =>
    exact holdsThrough_cons.2 ⟨hi, ih (afterFile_liesIn hs name) (holdsInbox_afterFile hs hc hi name)⟩

theorem listed_liesIn (hs : g.spool.LiesIn base) (names : List String) :
    (g.listed names).spool.LiesIn base := by
  rw [listed_spool]
  exact ⟨hs.inbox, hs.outbox, hs.rejected⟩

theorem sameFile_listed (g : Gateway ε) (names : List String) (name : String) :
    SameFile g (g.listed names) name := by
  have hinbox : (g.listed names).spool.inbox = g.spool.inbox := by rw [listed_spool]
  have hdisk : (g.listed names).disk = g.disk := rfl
  have hm : (g.listed names).modified name = g.modified name := by
    simp only [modified, hinbox, hdisk]
  exact ⟨by simp only [readIncoming, hinbox, hdisk], by simp only [fileStamp, hm, hdisk],
    by simp only [isStale, hm, hdisk]⟩

/-- When a look comes to a file, what is there is what was there before. -/
theorem atFile_spares (hs : g.spool.LiesIn base) (name : String) :
    Disk.Alike g.disk (g.atFile name).disk ∧
      (g.atFile name).disk.find? (name :: "inbox" :: g.disk.homeOf base) =
        g.disk.find? (name :: "inbox" :: g.disk.homeOf base) := by
  cases hr : g.disk.recordNames g.spool.inbox with
  | error e =>
    have hsame : g.atFile name = g := by simp only [atFile, hr]
    rw [hsame]
    exact ⟨Disk.Alike.refl _, rfl⟩
  | ok names =>
    rw [atFile_eq hr]
    exact afterFiles_spares (listed_liesIn hs names) (name_notMem_before name names)

theorem atFile_liesIn (hs : g.spool.LiesIn base) (name : String) :
    (g.atFile name).spool.LiesIn base := by
  cases hr : g.disk.recordNames g.spool.inbox with
  | error e =>
    simp only [atFile, hr]
    exact hs
  | ok names =>
    have hl := listed_liesIn hs names
    rw [atFile_eq hr, reached, afterFiles_spool, Spool.receiveAll_eq]
    exact ⟨hl.inbox, hl.outbox, hl.rejected⟩

/-- When a look comes to a file and can still locate the inbox, the file holds what it held before. -/
theorem sameFile_of_holdsInbox (hs : g.spool.LiesIn base) (hi : g.holdsInbox)
    (hi' : (g.atFile name).holdsInbox) : SameFile g (g.atFile name) name := by
  obtain ⟨ha, hf⟩ := atFile_spares hs name
  have hl' := locate_inbox (atFile_liesIn hs name) hi'
  rw [ha.homeOf base] at hl'
  exact sameFile_of_find? (locate_inbox hs hi) hl' ha hf

theorem holdsInbox_atFile (hs : g.spool.LiesIn base) (hc : ".." ∉ Path.steps base)
    (hi : g.holdsInbox) (name : String) : (g.atFile name).holdsInbox := by
  cases hr : g.disk.recordNames g.spool.inbox with
  | error e =>
    simp only [atFile, hr]
    exact hi
  | ok names =>
    have hlisted : (g.listed names).holdsInbox := by
      obtain ⟨dir, hd⟩ := hi
      refine ⟨dir, ?_⟩
      rw [listed_spool]
      exact hd
    rw [atFile_eq hr]
    exact holdsThrough_of_plain (listed_liesIn hs names) hc hlisted names _
      (List.takeWhile_prefix _)

/-- When a look comes to a file by a path that never climbs, the file holds what it held before. -/
theorem sameFile_atFile (hs : g.spool.LiesIn base) (hc : ".." ∉ Path.steps base) (name : String) :
    SameFile g (g.atFile name) name := by
  cases hr : g.disk.recordNames g.spool.inbox with
  | error e =>
    simp only [atFile, hr]
    exact SameFile.refl g name
  | ok names =>
    obtain ⟨dir, hd, -⟩ := Disk.recordNames_ok hr
    exact sameFile_of_holdsInbox hs ⟨dir, hd⟩ (holdsInbox_atFile hs hc ⟨dir, hd⟩ name)

end Gateway

end BuoyGateway
