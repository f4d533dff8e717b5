import BuoyGateway.Proofs.Spool.Clearance

/-!
# What settling messages does to a spool

While messages are attended to, files leave the inbox, messages are queued in the outbox, and all
other entries of the spool stay. Steps that each do so do so together, as long as no message is queued
under a name that was taken before.
-/

namespace BuoyGateway.Disk

variable {a b c disk disk' : Disk} {home : Location} {base name : String}
  {deleted deleted' : List String} {queued queued' : List (String × Outgoing)}

/-- A directory gains the file of a message, if there is one. -/
def Gets (disk disk' : Disk) (dir : Location) : Option (String × Outgoing) → Prop
  | none => disk' = disk
  | some (name, r) => Gains disk disk' dir name r.octets

/-- Files leave the inbox, messages are queued in the outbox, and all other entries stay. -/
structure Settles (disk disk' : Disk) (home : Location) (deleted : List String)
    (queued : List (String × Outgoing)) : Prop where
  current : disk'.current = disk.current
  gone : ∀ name ∈ deleted, disk'.find? (name :: "inbox" :: home) = none
  inbox : ∀ name ∉ deleted, ∀ above,
    disk'.find? (above ++ name :: "inbox" :: home) = disk.find? (above ++ name :: "inbox" :: home)
  files : ∀ entry ∈ queued, ∃ modified,
    disk'.find? (entry.1 :: "outbox" :: home) = some ⟨.file entry.2.octets false, modified⟩
  outbox : ∀ name ∉ queued.map Prod.fst,
    disk'.find? (name :: "outbox" :: home) = disk.find? (name :: "outbox" :: home)
  rejected : ∀ name above, disk'.find? (above ++ name :: "rejected" :: home) =
    disk.find? (above ++ name :: "rejected" :: home)

theorem Settles.refl (disk : Disk) (home : Location) : Settles disk disk home [] [] :=
  ⟨rfl, by simp, fun _ _ _ => rfl, by simp, fun _ _ => rfl, fun _ _ => rfl⟩

theorem Settles.homeOf (h : Settles disk disk' home deleted queued) (base : String) :
    disk'.homeOf base = disk.homeOf base := by
  simp only [Disk.homeOf, origin, h.current]

theorem Settles.trans (h₁ : Settles a b home deleted queued) (h₂ : Settles b c home deleted' queued')
    (hd : ∀ entry ∈ queued, entry.1 ∉ queued'.map Prod.fst) :
    Settles a c home (deleted ++ deleted') (queued ++ queued') := by
  refine ⟨h₂.current.trans h₁.current, ?_, ?_, ?_, ?_, ?_⟩
  · intro name hn
    by_cases h : name ∈ deleted'
    · exact h₂.gone name h
    · rw [List.mem_append, or_iff_left h] at hn
      exact (h₂.inbox name h []).trans (h₁.gone name hn)
  · intro name hn above
    rw [List.mem_append, not_or] at hn
    exact (h₂.inbox name hn.2 above).trans (h₁.inbox name hn.1 above)
  · intro entry he
    rcases List.mem_append.1 he with h | h
    · rw [h₂.outbox entry.1 (hd entry h)]
      exact h₁.files entry h
    · exact h₂.files entry h
  · intro name hn
    rw [List.map_append, List.mem_append, not_or] at hn
    exact (h₂.outbox name hn.2).trans (h₁.outbox name hn.1)
  · exact fun name above => (h₂.rejected name above).trans (h₁.rejected name above)

theorem entry_ne_part (above home : Location) (name part part' : String) :
    above ++ name :: part :: home ≠ part' :: home := by
  intro h
  have := congrArg List.length h
  simp only [List.length_append, List.length_cons] at this
  omega

theorem Serves.gets (h : disk.Serves base) {reply : Option (String × Outgoing)}
    (hg : Gets disk disk' ("outbox" :: disk.homeOf base) reply) : disk'.Serves base := by
  cases reply with
  | none =>
    cases hg
    exact h
  | some entry => exact h.gains hg

theorem Gets.settles {reply : Option (String × Outgoing)}
    (h : Gets disk disk' ("outbox" :: home) reply) : Settles disk disk' home [] reply.toList := by
  cases reply with
  | none =>
    cases h
    exact Settles.refl disk home
  | some entry =>
    have hg : Gains disk disk' ("outbox" :: home) entry.1 entry.2.octets := h
    have houtside : ∀ part, part ≠ "outbox" → ∀ name above,
        disk'.find? (above ++ name :: part :: home) = disk.find? (above ++ name :: part :: home) := by
      intro part hp name above
      exact hg.outside _ (fun other hs => absurd (suffix_entry hs).2 (Ne.symm hp))
        (entry_ne_part above home name part "outbox") (fun hs => hp (suffix_entry hs).2.symm)
    refine ⟨hg.current, by simp, fun name _ => houtside "inbox" (by decide) name, ?_, ?_,
      houtside "rejected" (by decide)⟩
    · intro other ho
      obtain rfl := List.mem_singleton.1 ho
      exact hg.file
    · intro name hn
      exact hg.others name (by simpa using hn)

theorem Loses.settles (h : Loses disk disk' ("inbox" :: home) name) :
    Settles disk disk' home [name] [] := by
  have hothers : ∀ part other, (part ≠ "inbox" ∨ other ≠ name) → ∀ above,
      disk'.find? (above ++ other :: part :: home) =
        disk.find? (above ++ other :: part :: home) := by
    intro part other hne above
    refine h.others _ (fun he => ?_) (entry_ne_part above home other part "inbox")
    have hs : other :: part :: home <:+ [] ++ name :: "inbox" :: home := ⟨above, he⟩
    obtain ⟨rfl, rfl⟩ := suffix_entry hs
    simp at hne
  refine ⟨h.current, ?_, ?_, by simp, fun other _ => hothers "outbox" other (by simp) [],
    fun other => hothers "rejected" other (by simp)⟩
  · intro other ho
    obtain rfl := List.mem_singleton.1 ho
    exact h.gone
  · intro other ho
    exact hothers "inbox" other (.inr (by simpa using ho))

theorem LeavesSpool.settles (h : LeavesSpool base disk disk') :
    Settles disk disk' (disk.homeOf base) [] [] :=
  ⟨h.current, by simp, fun name _ above => h.entries "inbox" (by simp) above name, by simp,
    fun name _ => h.entries "outbox" (by simp) [] name,
    fun name above => h.entries "rejected" (by simp) above name⟩

end BuoyGateway.Disk
