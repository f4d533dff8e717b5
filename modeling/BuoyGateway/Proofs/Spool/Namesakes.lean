import BuoyGateway.Proofs.Spool.Ledger
import BuoyGateway.Proofs.Spool.Sorting

/-!
# Files that a look keeps

A look destroys no file of the inbox: each stays where it is, or is found among the rejected ones
under its own name. A rejected file stays, whatever else the gateway does, until a look moves aside an
entry of the inbox that has the same name; then it gives way to that entry, and what it held is lost.
-/

namespace BuoyGateway

namespace Disk

theorem entry_ne_directory (home above : Location) (name part part' : String) :
    above ++ name :: part :: home ≠ part' :: home := by
  intro he
  have hlength := congrArg List.length he
  simp only [List.length_append, List.length_cons] at hlength
  omega

theorem entry_not_below {part part' : String} (h : part' ≠ part) (home above : Location)
    (name other : String) : ¬ (other :: part' :: home) <:+ above ++ name :: part :: home :=
  fun hs => h (suffix_entry hs).2

end Disk

namespace Gateway

variable {ε : Type} {g : Gateway ε} {base name : String} {m : Move ε} {moves : List (Move ε)}

/-- A look moves the entry of the inbox aside: somebody waits for messages, the entry is listed and
was not delivered, it does not read and has been left unchanged for a minute, and it can be moved. -/
def putsAside (g : Gateway ε) (name : String) : Prop :=
  g.spool.hasSubscriber .messages = true ∧ g.Pending name ∧ ¬ (g.atFile name).reads name ∧
    (g.atFile name).Aged name ∧ ((g.atFile name).moveAside name).1 = .ok ()

/-- Others leave what is at the place alone, and do not change where paths start. -/
def leavesAlone (loc : Location) (g : Gateway ε) : Move ε → Prop
  | .change f => (f g.machine).disk.current = g.disk.current ∧
      (f g.machine).disk.find? loc = g.disk.find? loc
  | _ => True

def leaveAlone (loc : Location) : List (Move ε) → Gateway ε → Prop
  | [], _ => True
  | m :: moves, g => g.leavesAlone loc m ∧ leaveAlone loc moves (g.move m)

/-! ### One look -/

theorem lists.recordNames (h : g.lists name) :
    ∃ names, g.disk.recordNames g.spool.inbox = .ok names := by
  obtain ⟨all, hall, -⟩ := h
  exact ⟨_, by simp only [Disk.recordNames, hall, bind, Except.bind, pure, Except.pure]; rfl⟩

theorem putsAside_iff : g.putsAside name ↔ g.spool.hasSubscriber .messages = true ∧
    g.lists name ∧ (g.atFile name).setsAside name := by
  refine and_congr_right (fun _ => ?_)
  constructor
  · rintro ⟨hp, h⟩
    obtain ⟨names, hn⟩ := hp.1.recordNames
    exact ⟨hp.1, (setsAside_iff hn hp).2 h⟩
  · rintro ⟨hl, haside⟩
    obtain ⟨names, hn⟩ := hl.recordNames
    have hp : g.Pending name :=
      ⟨hl, fun hd => haside.1.1 ((mem_delivered_atFile hn).2 ⟨hd, (lists_iff hn).1 hl⟩)⟩
    exact ⟨hp, (setsAside_iff hn hp).1 haside⟩

/-- A look clears the inbox of the entries that it moves aside. -/
theorem poll_clears_putsAside (hs : g.spool.LiesIn base) :
    Disk.Clears g.disk (poll g).2.disk (g.disk.homeOf base) g.putsAside :=
  (poll_clears hs).congr (fun _ => putsAside_iff.symm)

/-! ### Runs -/

theorem rejected_delete (hs : g.spool.LiesIn base) (ref : Ref) (above : Location) (name : String) :
    (delete ref g).2.disk.find? (above ++ name :: "rejected" :: g.disk.homeOf base) =
      g.disk.find? (above ++ name :: "rejected" :: g.disk.homeOf base) := by
  rw [delete_eq]
  split
  · rfl
  · next message _ =>
    split
    · next disk hd =>
      obtain ⟨dir, hdir, hremove⟩ := bind_eq_ok.1 hd
      rw [hs.inbox] at hdir
      obtain ⟨rfl, -, -⟩ := Disk.locateDirectory_part Disk.isPart_inbox hdir
      obtain ⟨-, rfl⟩ := Disk.removeAt_ok hremove
      have hne : above ++ name :: "rejected" :: g.disk.homeOf base ≠
          message.name :: "inbox" :: g.disk.homeOf base := by
        intro he
        have hbelow := Disk.entry_not_below (show "inbox" ≠ "rejected" by decide)
          (g.disk.homeOf base) above name message.name
        rw [he] at hbelow
        exact hbelow (List.suffix_refl _)
      change ((g.disk.erase (message.name :: "inbox" :: g.disk.homeOf base)).stamp
        ("inbox" :: g.disk.homeOf base)).find? _ = _
      rw [Disk.find?_stamp_of_ne (Disk.entry_ne_directory _ _ _ _ _),
        Disk.find?_erase _ (List.cons_ne_nil _ _), if_neg hne]
    · rfl

theorem rejected_send (hs : g.spool.LiesIn base) (ref : Ref) (above : Location) (name : String) :
    Disk.Alike g.disk (send ref g).2.disk ∧
      (send ref g).2.disk.find? (above ++ name :: "rejected" :: g.disk.homeOf base) =
        g.disk.find? (above ++ name :: "rejected" :: g.disk.homeOf base) := by
  have hbelow : ∀ other, ¬ (other :: "outbox" :: g.disk.homeOf base) <:+
      above ++ name :: "rejected" :: g.disk.homeOf base :=
    Disk.entry_not_below (by decide) _ _ _
  have hne := Disk.entry_ne_directory (g.disk.homeOf base) above name "rejected" "outbox"
  rw [send_eq]
  split
  · exact ⟨Disk.Alike.refl _, rfl⟩
  · next destination text _ =>
    have hqueue := queue_outbox hs ref ⟨destination, text, g.disk.now⟩
    match hq : g.disk.queue g.spool.outbox ref ⟨destination, text, g.disk.now⟩ with
    | (.ok (), disk) =>
      rw [hq] at hqueue
      exact ⟨hqueue.toAlike,
        hqueue.outside _ (fun other hb => absurd hb (hbelow other)) hne (hbelow _)⟩
    | (.error e, disk) =>
      rw [hq] at hqueue
      exact ⟨hqueue.toAlike, hqueue.outside hne hbelow⟩

/-- A rejected entry stays in a move, with all below it, unless the move is a look that moves aside an
entry of its name. -/
theorem rejected_move (hs : g.spool.LiesIn base) (above : Location)
    (hleft : g.leavesAlone (above ++ name :: "rejected" :: g.disk.homeOf base) m)
    (hlook : m = .poll → ¬ g.putsAside name) :
    (g.move m).disk.current = g.disk.current ∧
      (g.move m).disk.find? (above ++ name :: "rejected" :: g.disk.homeOf base) =
        g.disk.find? (above ++ name :: "rejected" :: g.disk.homeOf base) := by
  cases m with
  | poll =>
    have hclears := poll_clears_putsAside hs
    exact ⟨hclears.current, (hclears.stayed name (hlook rfl) above).2⟩
  | change f => exact hleft
  | delete ref =>
    exact ⟨(delete_keeps hs ref name).1.current, rejected_delete hs ref above name⟩
  | send ref =>
    obtain ⟨halike, hsame⟩ := rejected_send hs ref above name
    exact ⟨halike.current, hsame⟩
  | _ => exact ⟨rfl, rfl⟩

/-- A rejected entry stays all through a run in which others leave it alone and no look moves aside an
entry of its name. -/
theorem rejected_run (hs : g.spool.LiesIn base) (above : Location)
    (hleft : leaveAlone (above ++ name :: "rejected" :: g.disk.homeOf base) moves g)
    (hlooks : AtLooks (fun g => ¬ g.putsAside name) g moves) :
    (run moves g).disk.find? (above ++ name :: "rejected" :: g.disk.homeOf base) =
      g.disk.find? (above ++ name :: "rejected" :: g.disk.homeOf base) := by
  induction moves generalizing g with
  | nil => rfl
  | cons m moves ih =>
    obtain ⟨hlook, hlooks⟩ := atLooks_cons.1 hlooks
    obtain ⟨hcurrent, hsame⟩ := rejected_move hs above hleft.1 hlook
    have hhome : (g.move m).disk.homeOf base = g.disk.homeOf base := by
      simp only [Disk.homeOf, Disk.origin, hcurrent]
    have hrest := ih (move_liesIn hs m) (by rw [hhome]; exact hleft.2) hlooks
    rw [hhome] at hrest
    exact hrest.trans hsame

/-! ### What becomes of the files -/

/-- A file of the inbox is after a look where it was, unless the look moves its entry aside, and then it
is at the rejected entry of the same name. A rejected file is after a look where it was, unless the
look moves aside an entry of the same name, and then what was at that entry is there instead. In a run
a rejected file stays until the first look that does so, as long as others leave it alone. -/
theorem poll_keeps_files (hs : g.spool.LiesIn base) :
    let home := g.disk.homeOf base
    let after := (poll g).2.disk
    (∀ above name octets, g.disk.holdsFile (above ++ name :: "inbox" :: home) octets →
      (¬ g.putsAside name → after.holdsFile (above ++ name :: "inbox" :: home) octets) ∧
      (g.putsAside name → after.holdsFile (above ++ name :: "rejected" :: home) octets)) ∧
    (∀ above name octets, g.disk.holdsFile (above ++ name :: "rejected" :: home) octets →
      ¬ g.putsAside name → after.holdsFile (above ++ name :: "rejected" :: home) octets) ∧
    (∀ above name, g.putsAside name → after.find? (above ++ name :: "rejected" :: home) =
      g.disk.find? (above ++ name :: "inbox" :: home)) ∧
    ∀ moves above name octets,
      leaveAlone (above ++ name :: "rejected" :: home) moves g →
      AtLooks (fun g => ¬ g.putsAside name) g moves →
      g.disk.holdsFile (above ++ name :: "rejected" :: home) octets →
        (run moves g).disk.holdsFile (above ++ name :: "rejected" :: home) octets := by
  intro home after
  have hclears : Disk.Clears g.disk after home g.putsAside := poll_clears_putsAside hs
  refine ⟨fun above name octets h => ⟨fun hp => ?_, fun hp => ?_⟩,
    fun above name octets h hp => ?_, fun above name hp => (hclears.rejected name hp above).1,
    fun moves above name octets hleft hlooks h => ?_⟩
  · exact (Disk.holdsFile_congr (hclears.stayed name hp above).1).2 h
  · obtain ⟨executable, modified, hf⟩ := h
    exact ⟨executable, modified, (hclears.rejected name hp above).1.trans hf⟩
  · exact (Disk.holdsFile_congr (hclears.stayed name hp above).2).2 h
  · exact (Disk.holdsFile_congr (rejected_run hs above hleft hlooks)).2 h

def staleEntry (name : String) (octets : List UInt8) : Move Unit :=
  .change (fun machine => { machine with
    disk := machine.disk.insert [name, "inbox", "s"]
      ⟨.file octets false, Time.Instant.ofSeconds (-60)⟩ })

/-- A rejected file stays when an entry of another name is moved aside. -/
theorem poll_keeps_files_beside :
    let first := Text.encode "first".toList
    let second := Text.encode "second".toList
    let g := run [.subscribe .messages, staleEntry "1.json" first, .poll,
      staleEntry "2.json" second] (opened ⟨Disk.emptySpool, [], ()⟩ Settings.below)
    g.spool.LiesIn "s" ∧ (poll g).2.disk.holdsFile ["1.json", "rejected", "s"] first ∧
      (poll g).2.disk.holdsFile ["2.json", "rejected", "s"] second := by
  intro first second g
  have hs : g.spool.LiesIn "s" := run_liesIn (opened_liesIn _ _) _
  have hhome : g.disk.homeOf "s" = ["s"] := by decide +kernel
  obtain ⟨hinbox, hrejected, -, -⟩ := poll_keeps_files hs
  rw [hhome] at hinbox hrejected
  have hfirst : g.disk.holdsFile ["1.json", "rejected", "s"] first :=
    ⟨false, Time.Instant.ofSeconds (-60), by decide +kernel⟩
  have hsecond : g.disk.holdsFile ["2.json", "inbox", "s"] second :=
    ⟨false, Time.Instant.ofSeconds (-60), by decide +kernel⟩
  have hunlisted : ¬ g.putsAside "1.json" := fun h => absurd h.2.1.1 (by decide +kernel)
  have haside : g.putsAside "2.json" :=
    ⟨by decide +kernel, ⟨by decide +kernel, by decide +kernel⟩, by decide +kernel,
      isStale_iff_aged.1 (by decide +kernel), by decide +kernel⟩
  exact ⟨hs, hrejected [] _ _ hfirst hunlisted, (hinbox [] _ _ hsecond).2 haside⟩

/-- A file is rejected, and another one is put into the inbox under its name. The look that rejects
the second file destroys the first. -/
theorem rejected_replaced :
    let first := Text.encode "first".toList
    let second := Text.encode "second".toList
    let g := run [.subscribe .messages, staleEntry "1.json" first, .poll,
      staleEntry "1.json" second] (opened ⟨Disk.emptySpool, [], ()⟩ Settings.below)
    g.disk.holdsFile ["1.json", "rejected", "s"] first ∧ (poll g).1 = .ok [] ∧
      ∀ loc, ¬ (poll g).2.disk.holdsFile loc first := by
  intro first second g
  refine ⟨⟨false, Time.Instant.ofSeconds (-60), by decide +kernel⟩, by decide +kernel, ?_⟩
  rintro loc ⟨executable, modified, hf⟩
  have hall : ∀ entry ∈ (poll g).2.disk.entries, ∀ executable,
      entry.2.content ≠ .file first executable := by
    decide +kernel
  have hloc : loc ≠ [] := by
    rintro rfl
    cases hf
  rw [Disk.find?_of_ne_nil hloc] at hf
  obtain ⟨before, after, hentries, -⟩ := List.lookup_eq_some_iff.1 hf
  exact hall _ (hentries ▸ List.mem_append_right _ List.mem_cons_self) executable rfl

end Gateway

end BuoyGateway
