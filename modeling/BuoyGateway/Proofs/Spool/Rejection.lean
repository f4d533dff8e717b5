import BuoyGateway.Proofs.Disk.Changes
import BuoyGateway.Proofs.Spool.Arrivals
import BuoyGateway.Proofs.Spool.Home

/-!
# What moving aside does

Moving an entry of the inbox aside takes place below the two locations of the entry; all else on
the disk stays, apart from the times of the directories of the spool and the directory of the
rejected entries, which may be made.
-/

namespace BuoyGateway

namespace Disk

variable {disk disk' : Disk} {base part name : String} {home loc l source target : Location}

/-- The place lies apart from the entry of the inbox and from the rejected entry of the same name. -/
def Apart (home : Location) (name : String) (l : Location) : Prop :=
  ¬ (name :: "inbox" :: home) <:+ l ∧ ¬ (name :: "rejected" :: home) <:+ l

def Written (home l : Location) : Prop := l ∈ [home, "inbox" :: home, "rejected" :: home]

theorem written_home (home : Location) : Written home home := by simp [Written]

theorem written_inbox (home : Location) : Written home ("inbox" :: home) := by simp [Written]

theorem written_rejected (home : Location) : Written home ("rejected" :: home) := by
  simp [Written]

theorem apart_of_length (h : l.length ≤ home.length + 1) : Apart home name l := by
  refine ⟨?_, ?_⟩ <;>
  · intro hs
    have := hs.length_le
    simp only [List.length_cons] at this
    omega

theorem not_written (home above : Location) (name part : String) :
    ¬ Written home (above ++ name :: part :: home) := by
  intro h
  have hl : (above ++ name :: part :: home).length ≤ home.length + 1 := by
    simp only [Written, List.mem_cons, List.not_mem_nil, or_false] at h
    rcases h with h | h | h <;> rw [h] <;> simp
  simp only [List.length_append, List.length_cons] at hl
  omega

/-- What a rejection leaves on a disk. -/
structure Spares (disk disk' : Disk) (home : Location) (name : String) : Prop
    extends Alike disk disk' where
  kept : ∀ l, Apart home name l → ¬ Written home l → disk'.find? l = disk.find? l
  directories : ∀ l, Apart home name l → disk.isDirectory l = true → disk'.isDirectory l = true

theorem Spares.refl (disk : Disk) (home : Location) (name : String) :
    Spares disk disk home name := ⟨Alike.refl disk, fun _ _ _ => rfl, fun _ _ h => h⟩

theorem Spares.trans {a b c : Disk} (h₁ : Spares a b home name) (h₂ : Spares b c home name) :
    Spares a c home name :=
  ⟨h₁.toAlike.trans h₂.toAlike, fun l ha hw => (h₂.kept l ha hw).trans (h₁.kept l ha hw),
    fun l ha h => h₂.directories l ha (h₁.directories l ha h)⟩

theorem spares_stamp (disk : Disk) (h : Written home loc) :
    Spares disk (disk.stamp loc) home name := by
  refine ⟨alike_stamp disk loc, ?_, ?_⟩
  · intro l _ hl
    refine find?_stamp_of_ne ?_
    rintro rfl
    exact hl h
  · intro l _ hl
    rwa [isDirectory_stamp]

theorem spares_makeDirectories (name : String)
    (hw : disk.walk (disk.origin base) (Path.steps base) = .ok (disk.homeOf base))
    (hd : disk.isDirectory (disk.homeOf base) = true) :
    Spares disk (disk.makeDirectories (Path.join base "rejected")).2 (disk.homeOf base) name := by
  have hg := makeDirectories_grows disk (Path.join base "rejected")
  refine ⟨hg.toAlike, ?_, fun l _ => hg.directories l⟩
  intro l _ hl
  refine find?_makeDirectories_part isPart_rejected hw hd ?_ ?_
  · rintro rfl
    exact hl (written_rejected _)
  · rintro rfl
    exact hl (written_home _)

theorem spares_moveTree (disk : Disk) (home : Location) (name : String) :
    Spares disk (disk.moveTree (name :: "inbox" :: home) (name :: "rejected" :: home)) home name := by
  refine ⟨alike_moveTree _ _ _, fun l ha _ => find?_moveTree_of_apart ha.1 ha.2, ?_⟩
  intro l ha hl
  obtain ⟨node, hn, hc⟩ := isDirectory_iff.1 hl
  exact isDirectory_iff.2 ⟨node, by rw [find?_moveTree_of_apart ha.1 ha.2, hn], hc⟩

/-- An entry of the inbox is found among the rejected ones, with all below it, and not in the inbox
any more. What was there gave way to it. -/
structure MovesAside (disk disk' : Disk) (home : Location) (name : String) : Prop where
  found : ∀ above, disk'.find? (above ++ name :: "rejected" :: home) =
    disk.find? (above ++ name :: "inbox" :: home)
  gone : ∀ above, disk'.find? (above ++ name :: "inbox" :: home) = none
  gaveWay : disk.isDirectory (name :: "rejected" :: home) = true →
    disk.isDirectory (name :: "inbox" :: home) = true ∧
      ∀ entry, disk.find? (entry :: name :: "rejected" :: home) = none

/-- What is moved aside was there before the directory of the rejected entries was made. -/
theorem MovesAside.of_kept {made : Disk} (h : MovesAside made disk' home name)
    (hkept : ∀ l, ¬ Written home l → made.find? l = disk.find? l) :
    MovesAside disk disk' home name := by
  have hbelow : ∀ above part, made.find? (above ++ name :: part :: home) =
      disk.find? (above ++ name :: part :: home) :=
    fun above part => hkept _ (not_written home above name part)
  have hd : ∀ part, made.isDirectory (name :: part :: home) =
      disk.isDirectory (name :: part :: home) := by
    intro part
    simp only [isDirectory]
    rw [← List.nil_append (name :: part :: home), hbelow]
  refine ⟨fun above => (h.found above).trans (hbelow above "inbox"), h.gone, fun hr => ?_⟩
  rw [← hd] at hr
  obtain ⟨hi, hnone⟩ := h.gaveWay hr
  refine ⟨hd "inbox" ▸ hi, fun entry => ?_⟩
  rw [← hnone entry]
  exact (hbelow [entry] "rejected").symm

/-- A rename from the inbox to the rejected entries spares all that lies apart, and moves the
entry. -/
theorem renameAt_aside
    (h : disk.renameAt (name :: "inbox" :: home) (name :: "rejected" :: home) = .ok disk') :
    Spares disk disk' home name ∧ MovesAside disk disk' home name := by
  have hne : name :: "inbox" :: home ≠ name :: "rejected" :: home := by simp
  obtain ⟨hgives, rfl⟩ := renameAt_ok hne h
  refine ⟨((spares_moveTree disk home name).trans (spares_stamp _ (written_inbox _))).trans
    (spares_stamp _ (written_rejected _)), ?_⟩
  have hstamp : ∀ above part, (((disk.moveTree (name :: "inbox" :: home)
      (name :: "rejected" :: home)).stamp ("inbox" :: home)).stamp ("rejected" :: home)).find?
        (above ++ name :: part :: home) =
      (disk.moveTree (name :: "inbox" :: home) (name :: "rejected" :: home)).find?
        (above ++ name :: part :: home) := by
    intro above part
    have hnw := not_written home above name part
    rw [find?_stamp_of_ne, find?_stamp_of_ne]
    · intro he
      rw [he] at hnw
      exact hnw (written_inbox _)
    · intro he
      rw [he] at hnw
      exact hnw (written_rejected _)
  refine ⟨fun above => ?_, fun above => ?_, directory_of_givesWay hgives⟩
  · exact (hstamp above _).trans (find?_moveTree_target above (List.cons_ne_nil _ _)
      (List.cons_ne_nil _ _))
  · refine (hstamp above _).trans (find?_moveTree_source (by simp) ⟨above, rfl⟩ ?_)
    rintro ⟨above', he⟩
    have hlength : above'.length = above.length := by
      have := congrArg List.length he
      simp only [List.length_append, List.length_cons] at this
      omega
    simpa using (List.append_inj he hlength).2

theorem Spares.inbox (h : Spares disk disk' home name) {other : String} (hne : other ≠ name) :
    disk'.find? (other :: "inbox" :: home) = disk.find? (other :: "inbox" :: home) := by
  refine h.kept _ ⟨?_, ?_⟩ (not_written home [] other "inbox")
  · intro hs
    have he := hs.eq_of_length (by simp)
    exact hne (List.cons.inj he).1.symm
  · intro hs
    have he := hs.eq_of_length (by simp)
    simp at he

end Disk

namespace Gateway

variable {ε : Type} {g g' : Gateway ε} {base name other : String} {dir : Location}

def holdsInbox (g : Gateway ε) : Prop :=
  ∃ dir, g.disk.locateDirectory g.spool.inbox = .ok dir

theorem locate_inbox (hs : g.spool.LiesIn base) (hi : g.holdsInbox) :
    g.disk.locateDirectory g.spool.inbox = .ok ("inbox" :: g.disk.homeOf base) := by
  obtain ⟨dir, hd⟩ := hi
  rw [hs.inbox] at hd ⊢
  rw [hd, (Disk.locateDirectory_part Disk.isPart_inbox hd).1]

/-- Moving an entry aside spares all else, and moves the entry if it succeeds. If it fails, no entry
of the spool is changed. -/
theorem moveAside_spec (hs : g.spool.LiesIn base) (hi : g.holdsInbox) (name : String) :
    Disk.Spares g.disk (g.moveAside name).2 (g.disk.homeOf base) name ∧
      ((g.moveAside name).1 = .ok () →
        Disk.MovesAside g.disk (g.moveAside name).2 (g.disk.homeOf base) name) ∧
      ((g.moveAside name).1 ≠ .ok () → ∀ l, ¬ Disk.Written (g.disk.homeOf base) l →
        (g.moveAside name).2.find? l = g.disk.find? l) := by
  have hl := locate_inbox hs hi
  rw [hs.inbox] at hl
  obtain ⟨-, hw, hd⟩ := Disk.locateDirectory_part Disk.isPart_inbox hl
  have hmade := Disk.spares_makeDirectories name hw hd
  have hkept : ∀ l, ¬ Disk.Written (g.disk.homeOf base) l →
      (g.disk.makeDirectories (Path.join base "rejected")).2.find? l = g.disk.find? l := by
    intro l hl
    refine Disk.find?_makeDirectories_part Disk.isPart_rejected hw hd ?_ ?_
    · rintro rfl
      exact hl (Disk.written_rejected _)
    · rintro rfl
      exact hl (Disk.written_home _)
  unfold moveAside
  rw [hs.rejected, hs.inbox]
  match hm : g.disk.makeDirectories (Path.join base "rejected") with
  | (.error e, made) =>
    rw [hm] at hmade hkept
    exact ⟨hmade, fun h => (by cases h), fun _ => hkept⟩
  | (.ok (), made) =>
    rw [hm] at hmade hkept
    dsimp only
    split
    · next disk hmoved =>
      obtain ⟨inbox, hinbox, hmoved⟩ := bind_eq_ok.1 hmoved
      obtain ⟨rejected, hrejected, hmoved⟩ := bind_eq_ok.1 hmoved
      have hhome := hmade.toAlike.homeOf base
      obtain ⟨rfl, -, -⟩ := Disk.locateDirectory_part Disk.isPart_inbox hinbox
      obtain ⟨rfl, -, -⟩ := Disk.locateDirectory_part Disk.isPart_rejected hrejected
      rw [hhome] at hmoved
      obtain ⟨hspares, hmove⟩ := Disk.renameAt_aside hmoved
      exact ⟨hmade.trans hspares, fun _ => hmove.of_kept hkept, fun h => absurd rfl h⟩
    · exact ⟨hmade, fun h => (by cases h), fun _ => hkept⟩

theorem holdsInbox_of_isStale (h : g.isStale name = true) : g.holdsInbox := by
  unfold isStale at h
  split at h
  · next t hm =>
    obtain ⟨dir, hd, -⟩ := bind_eq_ok.1 hm
    exact ⟨dir, hd⟩
  · cases h

theorem rejectIfStale_disk (g : Gateway ε) (name : String) (why : Failure) :
    (g.rejectIfStale name why).disk =
      if g.isStale name then (g.moveAside name).2 else g.disk := by
  unfold rejectIfStale
  split
  · dsimp only
    split <;>
    · next h =>
      change g.moveAside name = _ at h
      rw [h]
      rfl
  · rfl

/-- A look at the file moves it aside, or tries to. -/
def rejects (g : Gateway ε) (name : String) : Prop :=
  name ∉ g.spool.delivered ∧ ¬ g.reads name ∧ g.isStale name = true

/-- A look at one file changes nothing on the disk, unless it moves the file aside. -/
theorem afterFile_disk (g : Gateway ε) (name : String) :
    (g.rejects name ∧ (g.afterFile name).disk = (g.moveAside name).2) ∨
      (¬ g.rejects name ∧ (g.afterFile name).disk = g.disk) := by
  unfold afterFile
  by_cases hd : name ∈ g.spool.delivered
  · rw [pollFile_delivered (by simpa using hd)]
    exact .inr ⟨fun h => h.1 hd, rfl⟩
  · have hd' : g.spool.delivered.contains name = false := by simpa using hd
    cases hr : g.readIncoming name with
    | ok record =>
      rw [pollFile_readable hd' hr]
      exact .inr ⟨fun h => h.2.1 ⟨record, hr⟩, rfl⟩
    | error why =>
      rw [pollFile_unreadable hd' hr]
      have hreads : ¬ g.reads name := by
        rintro ⟨record, h⟩
        rw [hr] at h
        cases h
      dsimp only
      rw [rejectIfStale_disk]
      by_cases hs : g.isStale name = true
      · rw [if_pos hs]
        exact .inl ⟨⟨hd, hreads, hs⟩, rfl⟩
      · rw [if_neg hs]
        exact .inr ⟨fun h => hs h.2.2, rfl⟩

theorem afterFile_spares (hs : g.spool.LiesIn base) (name : String) :
    Disk.Spares g.disk (g.afterFile name).disk (g.disk.homeOf base) name := by
  rcases afterFile_disk g name with ⟨hr, h⟩ | ⟨-, h⟩
  · rw [h]
    exact (moveAside_spec hs (holdsInbox_of_isStale hr.2.2) name).1
  · rw [h]
    exact Disk.Spares.refl _ _ _

theorem afterFile_liesIn (hs : g.spool.LiesIn base) (name : String) :
    (g.afterFile name).spool.LiesIn base := by
  rw [(pollFile_spec g name).2, Spool.receiveAll_eq]
  exact ⟨hs.inbox, hs.outbox, hs.rejected⟩

end Gateway

end BuoyGateway
