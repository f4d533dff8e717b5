import BuoyGateway.Proofs.Disk.Directories
import BuoyGateway.Spool.Basic

/-!
# The home of a spool

The three directories of a spool lie beside each other, in the place that its own path leads to.
Beside one that can be located, making another one makes one directory at most.
-/

namespace BuoyGateway

/-- The directories of the spool lie in the directory of a path. -/
structure Spool.LiesIn (spool : Spool) (base : String) : Prop where
  inbox : spool.inbox = Path.join base "inbox"
  outbox : spool.outbox = Path.join base "outbox"
  rejected : spool.rejected = Path.join base "rejected"

namespace Disk

open BuoyGateway.Path (trail goal)

variable {disk disk' : Disk} {base part : String} {loc l : Location}

/-- The place that a path leads to if it leads anywhere. -/
def homeOf (disk : Disk) (base : String) : Location := goal (disk.origin base) (Path.steps base)

theorem Alike.homeOf (h : Alike disk disk') (base : String) : disk'.homeOf base = disk.homeOf base := by
  simp only [Disk.homeOf, origin, h.current]

structure IsPart (part : String) : Prop where
  slash : '/' ∉ part.toList
  nonempty : part ≠ ""
  here : part ≠ "."
  climb : part ≠ ".."
  size : Text.size part ≤ nameLimit

theorem IsPart.steps (h : IsPart part) (base : String) :
    Path.steps (Path.join base part) = Path.steps base ++ [part] :=
  Path.steps_join base h.slash h.nonempty h.here

theorem IsPart.origin (h : IsPart part) (disk : Disk) (base : String) :
    disk.origin (Path.join base part) = disk.origin base := by
  have hp : Path.isAbsolute part = false := by
    unfold Path.isAbsolute
    rw [decide_eq_false_iff_not]
    exact fun he => h.slash (List.mem_of_head? he)
  simp only [Disk.origin, Path.isAbsolute_join base hp]

theorem isPart_inbox : IsPart "inbox" := by constructor <;> decide

theorem isPart_outbox : IsPart "outbox" := by constructor <;> decide

theorem isPart_rejected : IsPart "rejected" := by constructor <;> decide

theorem locateDirectory_part (hp : IsPart part)
    (h : disk.locateDirectory (Path.join base part) = .ok loc) :
    loc = part :: disk.homeOf base ∧
      disk.walk (disk.origin base) (Path.steps base) = .ok (disk.homeOf base) ∧
      disk.isDirectory (disk.homeOf base) = true := by
  obtain ⟨-, -, -, hw, -⟩ := locateDirectory_eq_ok_iff.1 h
  rw [hp.origin, hp.steps, walk_eq_ok_iff] at hw
  obtain ⟨hg, ht, hf⟩ := hw
  rw [Path.goal_append] at hg
  rw [Path.trail_append] at ht
  refine ⟨?_, walk_eq_ok_iff.2 ⟨rfl, ?_, ?_⟩, ?_⟩
  · rw [← hg]
    simp [goal, Path.after, hp.climb, Disk.homeOf]
  · exact fun l hl => ht l (List.mem_append_left _ hl)
  · exact fun step hs => hf step (List.mem_append_left _ hs)
  · exact ht _ (List.mem_append_right _ (by simp [trail, Disk.homeOf]))

/-- Beside a part of a spool, making another one makes one directory at most. -/
theorem makeDirectories_part (hp : IsPart part)
    (hw : disk.walk (disk.origin base) (Path.steps base) = .ok (disk.homeOf base))
    (hd : disk.isDirectory (disk.homeOf base) = true) :
    (disk.makeDirectories (Path.join base part)).2 = disk ∨
      (disk.find? (part :: disk.homeOf base) = none ∧
        (disk.makeDirectories (Path.join base part)).2 =
          (disk.insert (part :: disk.homeOf base) ⟨.directory, disk.now⟩).stamp (disk.homeOf base)) := by
  have hpart : disk.walk (disk.origin base) (part :: (Path.steps base).reverse).reverse =
      .ok (part :: disk.homeOf base) := by
    rw [List.reverse_cons, List.reverse_reverse, walk_eq_ok_iff, Path.goal_append,
      Path.trail_append]
    obtain ⟨-, ht, hf⟩ := walk_eq_ok_iff.1 hw
    refine ⟨by simp [goal, Path.after, hp.climb, Disk.homeOf], ?_, ?_⟩
    · intro l hl
      rw [List.mem_append] at hl
      rcases hl with hl | hl
      · exact ht l hl
      · simp only [trail, List.mem_singleton] at hl
        subst hl
        exact hd
    · intro step hs
      rw [List.mem_append, List.mem_singleton] at hs
      rcases hs with hs | rfl
      · exact hf step hs
      · exact .inr hp.size
  have hreaches : disk.reaches (disk.origin base) (Path.steps base).reverse.reverse = true := by
    rw [List.reverse_reverse]
    exact reaches_iff.2 ⟨_, hw, hd⟩
  unfold makeDirectories
  split
  · exact .inl rfl
  · split
    · exact .inl rfl
    · rw [hp.origin, hp.steps, List.reverse_append]
      exact makeAll_cons_of_reaches hreaches hpart

theorem find?_makeDirectories_part (hp : IsPart part)
    (hw : disk.walk (disk.origin base) (Path.steps base) = .ok (disk.homeOf base))
    (hd : disk.isDirectory (disk.homeOf base) = true) (hpart : l ≠ part :: disk.homeOf base)
    (hhome : l ≠ disk.homeOf base) :
    (disk.makeDirectories (Path.join base part)).2.find? l = disk.find? l := by
  rcases makeDirectories_part hp hw hd with h | ⟨-, h⟩
  · rw [h]
  · rw [h, find?_stamp_of_ne hhome, find?_insert _ _ (List.cons_ne_nil _ _), if_neg hpart]

end Disk

end BuoyGateway
