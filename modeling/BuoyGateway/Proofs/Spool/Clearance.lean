import Mathlib.Data.List.Basic
import BuoyGateway.Proofs.Spool.Standing

/-!
# What a look does to the disk

A look that finds the inbox and can move what it has to move clears the inbox of the entries that it
rejects, and of no others; these are found among the rejected ones. Which entries those are, and what
the others bring up, can be told from the disk before the look.
-/

namespace BuoyGateway

namespace Disk

variable {disk disk' : Disk} {base part part' name other : String} {home above : Location}
  {p q : String → Prop}

theorem suffix_entry (h : name :: part :: home <:+ above ++ other :: part' :: home) :
    name = other ∧ part = part' := by
  have hs : name :: part :: home <:+ other :: part' :: home :=
    List.suffix_of_suffix_length_le h ⟨above, rfl⟩ (by simp)
  have he := hs.eq_of_length (by simp)
  simp only [List.cons.injEq, and_true] at he
  exact he

theorem Spares.below (h : Spares disk disk' home name) (hne : other ≠ name) (above : Location)
    (part : String) :
    disk'.find? (above ++ other :: part :: home) = disk.find? (above ++ other :: part :: home) :=
  h.kept _ ⟨fun hs => hne (suffix_entry hs).1.symm, fun hs => hne (suffix_entry hs).1.symm⟩
    (not_written home above other part)

theorem Spares.outbox (h : Spares disk disk' home name) (above : Location) (other : String) :
    disk'.find? (above ++ other :: "outbox" :: home) =
      disk.find? (above ++ other :: "outbox" :: home) := by
  refine h.kept _ ⟨fun hs => ?_, fun hs => ?_⟩ (not_written home above other "outbox")
  · exact absurd (suffix_entry hs).2 (by decide)
  · exact absurd (suffix_entry hs).2 (by decide)

/-- The inbox is cleared of some entries, which are found among the rejected ones; all other entries
stay. -/
structure Clears (disk disk' : Disk) (home : Location) (p : String → Prop) : Prop
    extends Alike disk disk' where
  rejected : ∀ name, p name → ∀ above,
    disk'.find? (above ++ name :: "rejected" :: home) =
        disk.find? (above ++ name :: "inbox" :: home) ∧
      disk'.find? (above ++ name :: "inbox" :: home) = none
  stayed : ∀ name, ¬ p name → ∀ above,
    disk'.find? (above ++ name :: "inbox" :: home) =
        disk.find? (above ++ name :: "inbox" :: home) ∧
      disk'.find? (above ++ name :: "rejected" :: home) =
        disk.find? (above ++ name :: "rejected" :: home)
  outbox : ∀ above name, disk'.find? (above ++ name :: "outbox" :: home) =
    disk.find? (above ++ name :: "outbox" :: home)

theorem Clears.refl (disk : Disk) (home : Location) (hp : ∀ name, ¬ p name) :
    Clears disk disk home p :=
  ⟨Alike.refl disk, fun name h => absurd h (hp name), fun _ _ _ => ⟨rfl, rfl⟩, fun _ _ => rfl⟩

theorem Clears.trans {a b c : Disk} (h₁ : Clears a b home p) (h₂ : Clears b c home q)
    (hpq : ∀ name, p name → ¬ q name) : Clears a c home (fun name => p name ∨ q name) := by
  refine ⟨h₁.toAlike.trans h₂.toAlike, ?_, ?_, ?_⟩
  · intro name h above
    by_cases hp : p name
    · obtain ⟨hfound, hgone⟩ := h₁.rejected name hp above
      obtain ⟨hinbox, hrejected⟩ := h₂.stayed name (hpq name hp) above
      exact ⟨hrejected.trans hfound, hinbox.trans hgone⟩
    · obtain ⟨hfound, hgone⟩ := h₂.rejected name (h.resolve_left hp) above
      exact ⟨hfound.trans (h₁.stayed name hp above).1, hgone⟩
  · intro name h above
    rw [not_or] at h
    obtain ⟨hinbox₁, hrejected₁⟩ := h₁.stayed name h.1 above
    obtain ⟨hinbox₂, hrejected₂⟩ := h₂.stayed name h.2 above
    exact ⟨hinbox₂.trans hinbox₁, hrejected₂.trans hrejected₁⟩
  · exact fun above name => (h₂.outbox above name).trans (h₁.outbox above name)

theorem Clears.congr (h : Clears disk disk' home p) (hpq : ∀ name, p name ↔ q name) :
    Clears disk disk' home q :=
  ⟨h.toAlike, fun name hq => h.rejected name ((hpq name).2 hq),
    fun name hq => h.stayed name (fun hp => hq ((hpq name).1 hp)), h.outbox⟩

end Disk

namespace Gateway

variable {ε : Type} {g : Gateway ε} {base name other : String} {names : List String}

def setsAside (g : Gateway ε) (name : String) : Prop :=
  g.rejects name ∧ (g.moveAside name).1 = .ok ()

/-- A look at a file clears the inbox of the file if it moves it aside. -/
theorem afterFile_clears (hs : g.spool.LiesIn base) (name : String) :
    Disk.Clears g.disk (g.afterFile name).disk (g.disk.homeOf base)
      (fun n => n = name ∧ g.setsAside name) := by
  rcases afterFile_disk g name with ⟨hr, hd⟩ | ⟨hr, hd⟩
  · obtain ⟨hspares, hmoves, hkept⟩ := moveAside_spec hs (holdsInbox_of_isStale hr.2.2) name
    rw [hd]
    by_cases hok : (g.moveAside name).1 = .ok ()
    · have hmoved := hmoves hok
      refine ⟨hspares.toAlike, ?_, ?_, hspares.outbox⟩
      · rintro n ⟨rfl, -⟩ above
        exact ⟨hmoved.found above, hmoved.gone above⟩
      · intro n hn above
        have hne : n ≠ name := fun he => hn ⟨he, hr, hok⟩
        exact ⟨hspares.below hne above "inbox", hspares.below hne above "rejected"⟩
    · have hstays : ∀ part n above, (g.moveAside name).2.find? (above ++ n :: part ::
          g.disk.homeOf base) = g.disk.find? (above ++ n :: part :: g.disk.homeOf base) :=
        fun part n above => hkept hok _ (Disk.not_written _ above n part)
      exact ⟨hspares.toAlike, fun n hn => absurd hn.2.2 hok,
        fun n _ above => ⟨hstays "inbox" n above, hstays "rejected" n above⟩, hspares.outbox⟩
  · rw [hd]
    exact Disk.Clears.refl _ _ (fun n hn => hr hn.2.1)

theorem mem_delivered_afterFile (hne : other ≠ name) :
    other ∈ (g.afterFile name).spool.delivered ↔ other ∈ g.spool.delivered := by
  rw [(pollFile_spec g name).2, Spool.receiveAll_eq]
  simp only [List.mem_append, List.mem_reverse, List.mem_map, Option.mem_toList,
    or_iff_right_iff_imp]
  rintro ⟨message, hm, rfl⟩
  exact absurd (name_of_arrival? hm) hne

theorem movesAll_cons (hn : name ∉ names) : g.movesAll (name :: names) ↔
    (g.rejects name → (g.moveAside name).1 = .ok ()) ∧ (g.afterFile name).movesAll names := by
  have hreached : ∀ other ∈ names, g.reached (name :: names) other =
      (g.afterFile name).reached names other := by
    intro other ho
    refine reached_cons_of_ne g ?_ names
    rintro rfl
    exact hn ho
  constructor
  · intro h
    refine ⟨?_, fun other ho => ?_⟩
    · have hfirst := h name List.mem_cons_self
      rwa [reached_cons_self] at hfirst
    · rw [← hreached other ho]
      exact h other (List.mem_cons_of_mem _ ho)
  · rintro ⟨hfirst, hrest⟩ other ho
    rcases List.mem_cons.1 ho with rfl | ho
    · rwa [reached_cons_self]
    · rw [hreached other ho]
      exact hrest other ho

/-- What holds of the files that are left after a look at the first one. -/
theorem sameFile_rest (hs : g.spool.LiesIn base) (h : g.holdsThrough (name :: names))
    (hn : name ∉ names) (ho : other ∈ names) : SameFile g (g.afterFile name) other ∧
      (other ∈ (g.afterFile name).spool.delivered ↔ other ∈ g.spool.delivered) := by
  have hne : other ≠ name := by
    rintro rfl
    exact hn ho
  rw [holdsThrough_cons] at h
  exact ⟨sameFile_afterFile hs h.1 h.2.holdsInbox hne, mem_delivered_afterFile hne⟩

/-- A look at files clears the inbox of those that it moves aside, and of no others. -/
theorem afterFiles_clears (hs : g.spool.LiesIn base) (hnd : names.Nodup) :
    Disk.Clears g.disk (afterFiles names g).disk (g.disk.homeOf base)
      (fun n => n ∈ names ∧ (g.reached names n).setsAside n) := by
  induction names generalizing g with
  | nil => exact Disk.Clears.refl _ _ (fun n hn => List.not_mem_nil hn.1)
  | cons name names ih =>
    rw [List.nodup_cons] at hnd
    have hfirst := afterFile_clears hs name
    have hrest := ih (afterFile_liesIn hs name) hnd.2
    rw [hfirst.toAlike.homeOf base] at hrest
    refine (hfirst.trans hrest ?_).congr ?_
    · rintro n ⟨rfl, -⟩ hn
      exact hnd.1 hn.1
    · intro n
      by_cases hn : n = name
      · subst hn
        simp [reached_cons_self, hnd.1]
      · simp [reached_cons_of_ne g (Ne.symm hn), hn]

/-- A look that somebody waits for clears the inbox of the files that it moves aside; any other look
leaves it. -/
theorem poll_clears (hs : g.spool.LiesIn base) :
    Disk.Clears g.disk (poll g).2.disk (g.disk.homeOf base) (fun n =>
      g.spool.hasSubscriber .messages = true ∧ g.lists n ∧ (g.atFile n).setsAside n) := by
  cases hn : g.disk.recordNames g.spool.inbox with
  | error e =>
    rw [poll_unlisted hn]
    refine Disk.Clears.refl _ _ ?_
    rintro n ⟨-, ⟨all, hall, -⟩, -⟩
    simp only [Disk.recordNames, hall, bind, Except.bind] at hn
    cases hn
  | ok names =>
    cases hsub : g.spool.hasSubscriber .messages with
    | false =>
      rw [poll_unheard hn hsub]
      exact Disk.Clears.refl _ _ (fun n h => Bool.false_ne_true h.1)
    | true =>
      rw [poll_heard hn hsub, pollFiles_eq]
      refine (afterFiles_clears (listed_liesIn hs names) (Disk.nodup_recordNames hn)).congr ?_
      intro n
      rw [lists_iff hn, atFile_eq hn]
      simp only [true_and]

/-- A look at files that finds the inbox and can move what it has to move clears the inbox of the
files that it rejects. -/
theorem afterFiles_clears_rejects (hs : g.spool.LiesIn base) (hnd : names.Nodup)
    (hh : g.holdsThrough names) (hm : g.movesAll names) :
    Disk.Clears g.disk (afterFiles names g).disk (g.disk.homeOf base)
      (fun n => n ∈ names ∧ g.rejects n) := by
  refine (afterFiles_clears hs hnd).congr (fun n => and_congr_right (fun hn => ?_))
  have hrejects : (g.reached names n).rejects n ↔ g.rejects n :=
    (sameFile_reached hs hh n).rejects (mem_delivered_reached hnd)
  exact ⟨fun h => hrejects.1 h.1, fun h => ⟨hrejects.2 h, hm n hn (hrejects.2 h)⟩⟩

theorem stands_afterFiles (hs : g.spool.LiesIn base) (hnd : names.Nodup)
    (hh : g.holdsThrough names) (hm : g.movesAll names) (h : g.disk.Stands base) :
    (afterFiles names g).disk.Stands base := by
  induction names generalizing g with
  | nil => exact h
  | cons name names ih =>
    rw [List.nodup_cons] at hnd
    obtain ⟨hfirst, hrest⟩ := (movesAll_cons hnd.1).1 hm
    have hh' := (holdsThrough_cons.1 hh).2
    exact ih (afterFile_liesIn hs name) hnd.2 hh' hrest
      (stands_afterFile hs h hh'.holdsInbox hfirst)

/-- What files bring up in a look that finds the inbox can be told before the look. -/
theorem arrivals_eq (hs : g.spool.LiesIn base) (hnd : names.Nodup) (hh : g.holdsThrough names) :
    arrivals names g = names.filterMap g.arrival? := by
  induction names generalizing g with
  | nil => rfl
  | cons name names ih =>
    rw [List.nodup_cons] at hnd
    rw [arrivals, ih (afterFile_liesIn hs name) hnd.2 (holdsThrough_cons.1 hh).2]
    have hsame : names.filterMap (g.afterFile name).arrival? = names.filterMap g.arrival? := by
      refine List.filterMap_congr ?_
      intro other ho
      obtain ⟨hfile, hdelivered⟩ := sameFile_rest hs hh hnd.1 ho
      exact hfile.arrival? hdelivered
    rw [hsame]
    cases h : g.arrival? name <;> simp [h]

end Gateway

end BuoyGateway
