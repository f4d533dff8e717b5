import BuoyGateway.Proofs.Spool.Ledger
import BuoyGateway.Proofs.Time.Stamp
import Mathlib.Data.List.Nodup
import Mathlib.Data.List.Perm.Subperm
import Mathlib.Data.List.Sort

/-!
# The order of the outbox

Files of the outbox are listed in the order of their names. A name begins with the time at which its
message was queued, so as long as the clock does not go back, messages are listed in the order in
which they were sent. Within a microsecond the numbers of the messages decide, as texts: a number that
outgrows its six digits comes before some smaller ones.
-/

namespace BuoyGateway

namespace Outgoing

variable {r r' : Outgoing} {ref ref' : Ref}

/-- A message that was queued later, and no less in number, has the later name. -/
theorem fileName_lt (h : r.queuedAt.IsReading) (h' : r'.queuedAt.IsReading)
    (htime : r.queuedAt.NotAfter r'.queuedAt) (href : ref < ref')
    (hsame : r.queuedAt.SameMicro r'.queuedAt → Decimal.LeadsUpTo 6 ref ref') :
    r.fileName ref < r'.fileName ref' := by
  have hname : ∀ (r : Outgoing) (ref : Ref), (r.fileName ref).toList =
      r.queuedAt.fileStamp ++ '-' :: (Decimal.padded 6 ref ++ '.' :: "json".toList) := by
    intro r ref
    simp [fileName]
  rw [String.lt_iff, hname, hname]
  rcases htime.earlier_or_same with hearlier | hmicro
  · exact Time.Instant.fileStamp_lt h h' hearlier _ _
  · rw [Time.Instant.fileStamp_congr hmicro]
    refine List.append_left_lt (List.cons_lt_cons_iff.2 (Or.inr ⟨rfl, ?_⟩))
    exact Decimal.padded_append_lt href (hsame hmicro) (by decide) _ _

end Outgoing

/-- A list in strict order is part of another one that has all its members. -/
theorem sublist_of_ascending {names names' : List String} (h : names.Pairwise (· < ·))
    (h' : names'.Pairwise (· < ·)) (hmem : ∀ name ∈ names, name ∈ names') : names.Sublist names' := by
  have hnodup : names.Nodup := by
    refine h.imp ?_
    rintro a _ hab rfl
    exact String.lt_irrefl a hab
  exact List.sublist_of_subperm_of_pairwise (List.Nodup.subperm hnodup hmem) h h'

namespace Disk

def isThere (disk : Disk) (dir : Location) (e : Ref × Outgoing) : Bool :=
  (disk.find? (e.2.fileName e.1 :: dir)).isSome

/-- Others took records out of the outbox of the spool in the directory of a path, or left them, and
the clock did not go back. -/
structure Thins (base : String) (disk disk' : Disk) : Prop where
  current : disk'.current = disk.current
  records : ∀ name, isRecordName name = true →
    disk'.find? (name :: "outbox" :: disk.homeOf base) = none ∨
      (disk'.find? (name :: "outbox" :: disk.homeOf base)).map Node.content =
        (disk.find? (name :: "outbox" :: disk.homeOf base)).map Node.content
  clock : disk.now.NotAfter disk'.now

end Disk

/-- Messages are queued at readings of the clock, which does not go back, and others at most take
records out of the outbox. -/
def Deed.isOrderly {ε : Type} (base : String) (g : Gateway ε) : Deed ε → Prop
  | .message _ _ => g.disk.now.IsReading
  | .move (.send _) => g.disk.now.IsReading
  | .move (.change f) => Disk.Thins base g.disk (f g.machine).disk
  | .move _ => True

namespace Spool

variable {spool : Spool}

theorem drafts_edit {ref : Ref} {change : Draft → Except Fault Draft} {d : Ref × Draft}
    (h : d ∈ (spool.edit ref change).2.drafts) : ∃ d' ∈ spool.drafts, d'.1 = d.1 := by
  unfold edit at h
  split at h
  · exact ⟨d, h, rfl⟩
  · next draft hdraft =>
    split at h
    · exact ⟨d, h, rfl⟩
    · rcases List.mem_cons.1 h with rfl | h
      · obtain ⟨before, after, hsplit, -⟩ := List.lookup_eq_some_iff.1 hdraft
        exact ⟨(ref, draft), hsplit ▸ List.mem_append_right _ List.mem_cons_self, rfl⟩
      · exact ⟨d, List.mem_of_mem_filter h, rfl⟩

end Spool

namespace Gateway

variable {ε : Type} {launch : Action → StateM (Machine ε) Report} {g : Gateway ε}
  {base destination text : String} {home : Location} {direct : Prop} {entries : List (Ref × Outgoing)}

theorem drafts_poll (g : Gateway ε) : (poll g).2.spool.drafts = g.spool.drafts := by
  cases hr : g.disk.recordNames g.spool.inbox with
  | error e => rw [poll_unlisted hr]
  | ok names =>
    have hlisted : (g.listed names).spool.drafts = g.spool.drafts := by rw [listed_spool]
    cases hs : g.spool.hasSubscriber .messages with
    | false => rw [poll_unheard hr hs, hlisted]
    | true =>
      rw [poll_heard hr hs, pollFiles_eq]
      dsimp only
      rw [afterFiles_spool, Spool.receiveAll_eq]
      exact hlisted

/-- A draft is one from before a move, or has a new number. -/
theorem drafts_move {m : Move ε} {d : Ref × Draft} (h : d ∈ (g.move m).spool.drafts) :
    (∃ d' ∈ g.spool.drafts, d'.1 = d.1) ∨ g.spool.lastId < d.1 := by
  by_cases hm : m = .poll
  · subst hm
    exact Or.inl ⟨d, drafts_poll g ▸ h, rfl⟩
  · rw [spool_move hm] at h
    cases m with
    | create =>
      rcases List.mem_cons.1 h with rfl | h
      · exact Or.inr (Nat.lt_succ_self _)
      · exact Or.inl ⟨d, h, rfl⟩
    | release ref => exact Or.inl ⟨d, List.mem_of_mem_filter h, rfl⟩
    | setDestination ref destination => exact Or.inl (Spool.drafts_edit h)
    | setText ref text => exact Or.inl (Spool.drafts_edit h)
    | _ => exact Or.inl ⟨d, h, rfl⟩

def Orderly (launch : Action → StateM (Machine ε) Report) (base : String) :
    List (Deed ε) → Gateway ε → Prop
  | [], _ => True
  | d :: deeds, g => d.isOrderly base g ∧ Orderly launch base deeds (g.does launch d)

/-- The records in the outbox of the spool in the directory of a path are files of messages. The
messages of the ledger came in the order of their numbers and times, and a record that bears one of
their numbers is the file of that message. There are others only if messages were sent past the
calls. -/
structure Lists (base : String) (home : Location) (direct : Prop) (g : Gateway ε)
    (entries : List (Ref × Outgoing)) : Prop where
  lies : g.spool.LiesIn base
  bounded : g.spool.Bounded
  home_eq : g.disk.homeOf base = home
  records : ∀ name, isRecordName name = true →
    (g.disk.find? (name :: "outbox" :: home)).isSome = true →
      ∃ ref r, name = r.fileName ref ∧ r.queuedAt.IsReading ∧
        g.disk.holdsFile (name :: "outbox" :: home) r.octets ∧
        ref ≤ g.spool.lastId ∧ ((ref, r) ∈ entries ∨ direct ∧ ref ∉ entries.map Prod.fst)
  numbers : ∀ e ∈ entries, e.1 ≤ g.spool.lastId
  drafts : ∀ d ∈ g.spool.drafts, d.1 ∉ entries.map Prod.fst
  order : entries.Pairwise (fun e e' => e.1 < e'.1 ∧ e.2.queuedAt.NotAfter e'.2.queuedAt)
  times : ∀ e ∈ entries, e.2.queuedAt.IsReading ∧ e.2.queuedAt.NotAfter g.disk.now

theorem Lists.notMem_of_lt (h : g.Lists base home direct entries) {ref : Ref}
    (href : g.spool.lastId < ref) : ref ∉ entries.map Prod.fst := by
  rw [List.mem_map]
  rintro ⟨e, he, rfl⟩
  exact absurd href (Nat.not_lt.2 (h.numbers e he))

/-! ### One deed -/

/-- What was listed stays so while records at most go away. -/
theorem Lists.carry (h : g.Lists base home direct entries) {g' : Gateway ε}
    (hlies : g'.spool.LiesIn base) (hbounded : g'.spool.Bounded)
    (hthins : Disk.Thins base g.disk g'.disk) (hlast : g.spool.lastId ≤ g'.spool.lastId)
    (hdrafts : ∀ d ∈ g'.spool.drafts, (∃ d' ∈ g.spool.drafts, d'.1 = d.1) ∨ g.spool.lastId < d.1) :
    g'.Lists base home direct entries := by
  obtain rfl := h.home_eq
  have hhome : g'.disk.homeOf base = g.disk.homeOf base := by
    simp only [Disk.homeOf, Disk.origin, hthins.current]
  refine ⟨hlies, hbounded, hhome, fun name hname hsome => ?_,
    fun e he => Nat.le_trans (h.numbers e he) hlast, fun d hd => ?_, h.order,
    fun e he => ⟨(h.times e he).1, (h.times e he).2.trans hthins.clock⟩⟩
  · rcases hthins.records name hname with hnone | hsame
    · rw [hnone] at hsome
      cases hsome
    · have hbefore := hsome
      rw [← Option.isSome_map, hsame, Option.isSome_map] at hbefore
      obtain ⟨ref, r, rfl, htime, ⟨executable, modified, hf⟩, href, hentry⟩ :=
        h.records name hname hbefore
      obtain ⟨⟨content, modified'⟩, hnode⟩ := Option.isSome_iff_exists.1 hsome
      rw [hnode, hf, Option.map_some, Option.map_some, Option.some.injEq] at hsame
      obtain rfl : content = .file r.octets executable := hsame
      exact ⟨ref, r, rfl, htime, ⟨executable, modified', hnode⟩, Nat.le_trans href hlast, hentry⟩
  · rcases hdrafts d hd with ⟨d', hd', he⟩ | hnew
    · exact he ▸ h.drafts d' hd'
    · exact h.notMem_of_lt hnew

theorem thins_of_leaves {disk disk' : Disk} (h : Disk.LeavesOutbox base disk disk')
    (halike : Disk.Alike disk disk') : Disk.Thins base disk disk' where
  current := h.current
  records name _ := Or.inr (by rw [h.entries])
  clock := by
    rw [halike.now]
    exact Time.Instant.NotAfter.refl _

theorem thins_of_restores {disk disk' : Disk}
    (h : disk.Restores disk' ("outbox" :: disk.homeOf base)) : Disk.Thins base disk disk' where
  current := h.current
  records name hname := Or.inr (by rw [h.record hname])
  clock := by
    rw [h.now]
    exact Time.Instant.NotAfter.refl _

theorem Lists.records_gains (h : g.Lists base home direct entries) {disk' : Disk} {r : Outgoing}
    {ref : Ref} (htime : r.queuedAt.IsReading)
    (hg : g.disk.Gains disk' ("outbox" :: home) (r.fileName ref) r.octets)
    {name : String} (hname : isRecordName name = true)
    (hsome : (disk'.find? (name :: "outbox" :: home)).isSome = true) :
    ∃ ref' r', name = r'.fileName ref' ∧ r'.queuedAt.IsReading ∧
      disk'.holdsFile (name :: "outbox" :: home) r'.octets ∧
      ((ref', r') = (ref, r) ∨ ref' ≤ g.spool.lastId ∧
        ((ref', r') ∈ entries ∨ direct ∧ ref' ∉ entries.map Prod.fst)) := by
  by_cases hnew : name = r.fileName ref
  · obtain ⟨modified, hf⟩ := hg.file
    exact ⟨ref, r, hnew, htime, ⟨false, modified, by rw [hnew, hf]⟩, Or.inl rfl⟩
  · have hsame := hg.others name hnew
    rw [hsame] at hsome
    obtain ⟨ref', r', he, htime', hfile, hentry⟩ := h.records name hname hsome
    exact ⟨ref', r', he, htime', (Disk.holdsFile_congr hsame).2 hfile, Or.inr hentry⟩

/-- The outbox lists one message more when it is queued under the next number. -/
theorem Lists.add (h : g.Lists base home direct entries) {g' : Gateway ε} {r : Outgoing}
    (hlies : g'.spool.LiesIn base) (hbounded : g'.spool.Bounded)
    (hlast : g'.spool.lastId = g.spool.lastId + 1) (hdrafts : g'.spool.drafts = g.spool.drafts)
    (htime : g.disk.now.IsReading) (hqueued : r.queuedAt = g.disk.now)
    (hg : g.disk.Gains g'.disk ("outbox" :: home) (r.fileName (g.spool.lastId + 1)) r.octets) :
    g'.Lists base home direct (entries ++ [(g.spool.lastId + 1, r)]) := by
  obtain rfl := h.home_eq
  have hreading : r.queuedAt.IsReading := hqueued ▸ htime
  refine ⟨hlies, hbounded, hg.toAlike.homeOf base, fun name hname hsome => ?_, fun e he => ?_,
    fun d hd => ?_, ?_, fun e he => ?_⟩
  · obtain ⟨ref, r', hr, hreading', hfile, hentry⟩ := h.records_gains hreading hg hname hsome
    refine ⟨ref, r', hr, hreading', hfile, ?_⟩
    rcases hentry with hentry | ⟨hle, hentry⟩
    · cases hentry
      exact ⟨Nat.le_of_eq hlast.symm, Or.inl (List.mem_append_right _ (List.mem_singleton.2 rfl))⟩
    · rw [hlast]
      refine ⟨Nat.le_succ_of_le hle, hentry.imp (List.mem_append_left _) (And.imp_right ?_)⟩
      intro hnot
      rw [List.map_append, List.mem_append, not_or]
      exact ⟨hnot, fun hm => absurd (List.mem_singleton.1 hm) (Nat.ne_of_lt (Nat.lt_succ_of_le hle))⟩
  · rw [hlast]
    rcases List.mem_append.1 he with he | he
    · exact Nat.le_succ_of_le (h.numbers e he)
    · rw [List.mem_singleton.1 he]
  · rw [hdrafts] at hd
    rw [List.map_append, List.mem_append, not_or]
    refine ⟨h.drafts d hd, fun hm => ?_⟩
    have hle := h.bounded.drafts d hd
    rw [List.mem_singleton.1 hm] at hle
    exact Nat.not_succ_le_self _ hle
  · refine List.pairwise_append.2 ⟨h.order, List.pairwise_singleton _ _, fun e he e' he' => ?_⟩
    rw [List.mem_singleton.1 he']
    exact ⟨Nat.lt_succ_of_le (h.numbers e he), hqueued ▸ (h.times e he).2⟩
  · rw [hg.toAlike.now]
    rcases List.mem_append.1 he with he | he
    · exact h.times e he
    · rw [List.mem_singleton.1 he]
      exact ⟨hreading, hqueued ▸ Time.Instant.NotAfter.refl _⟩

theorem lists_message (h : g.Lists base home direct entries) (htime : g.disk.now.IsReading) :
    (g.does launch (.message destination text)).Lists base home direct
      (entries ++ (g.booked launch (.message destination text)).toList) := by
  obtain rfl := h.home_eq
  obtain ⟨hanswer, hdisk, hspool⟩ := sendMessage_eq launch h.bounded destination text
  obtain ⟨hgains, hrestores⟩ := sent_disk h.lies destination text
  obtain ⟨hbooked, hnone⟩ := booked_message launch destination text g
  rw [hanswer] at hbooked hnone
  have hlies : (g.does launch (.message destination text)).spool.LiesIn base := by
    rw [does, hspool]
    exact ⟨h.lies.inbox, h.lies.outbox, h.lies.rejected⟩
  have hbounded : (g.does launch (.message destination text)).spool.Bounded := by
    rw [does, hspool]
    exact h.bounded.mono (Nat.le_succ _)
  have hlast : (g.does launch (.message destination text)).spool.lastId = g.spool.lastId + 1 := by
    rw [does, hspool]
  have hdrafts : (g.does launch (.message destination text)).spool.drafts = g.spool.drafts := by
    rw [does, hspool]
  have hdisk : (g.does launch (.message destination text)).disk = (g.sent destination text).2 :=
    hdisk
  by_cases hok : (g.sent destination text).1 = .ok ()
  · rw [hbooked hok, Option.toList_some]
    have hg := hgains hok
    rw [← hdisk] at hg
    exact h.add hlies hbounded hlast hdrafts htime rfl hg
  · rw [hnone hok, Option.toList_none, List.append_nil]
    refine h.carry hlies hbounded ?_ ?_ ?_
    · rw [hdisk]
      exact thins_of_restores (hrestores hok)
    · rw [hlast]
      exact Nat.le_succ _
    · rw [hdrafts]
      exact fun d hd => Or.inl ⟨d, hd, rfl⟩

theorem mem_drafts_of_finished {spool : Spool} {ref : Ref} {parts : String × String}
    (h : spool.finished ref = .ok parts) : ∃ d ∈ spool.drafts, d.1 = ref := by
  unfold Spool.finished at h
  split at h
  · cases h
  · next hd =>
    obtain ⟨before, after, hsplit, -⟩ := List.lookup_eq_some_iff.1 hd
    exact ⟨_, hsplit ▸ List.mem_append_right _ List.mem_cons_self, rfl⟩
  · cases h

/-- A message that is sent past the calls does not bear a number of the ledger. -/
theorem lists_send (h : g.Lists base home direct entries) (hdirect : direct)
    (htime : g.disk.now.IsReading) (ref : Ref) : (g.move (.send ref)).Lists base home direct entries := by
  obtain rfl := h.home_eq
  have hspool : (g.move (.send ref)).spool = g.spool := send_spool g ref
  have hcarry : Disk.Thins base g.disk (g.move (.send ref)).disk →
      (g.move (.send ref)).Lists base (g.disk.homeOf base) direct entries := by
    intro hthins
    refine h.carry ?_ ?_ hthins ?_ ?_ <;> rw [hspool]
    · exact h.lies
    · exact h.bounded
    · exact fun d hd => Or.inl ⟨d, hd, rfl⟩
  match hf : g.spool.finished ref with
  | .error fault =>
    have hsame : (g.move (.send ref)).disk = g.disk := by
      change (send ref g).2.disk = _
      rw [send_eq, hf]
    exact hcarry (hsame ▸ thins_of_leaves (Disk.LeavesOutbox.refl _ _) (Disk.Alike.refl _))
  | .ok (destination, text) =>
    have hqueue := queue_outbox h.lies ref ⟨destination, text, g.disk.now⟩
    match hq : g.disk.queue g.spool.outbox ref ⟨destination, text, g.disk.now⟩ with
    | (.error why, disk) =>
      rw [hq] at hqueue
      have hdisk : (g.move (.send ref)).disk = disk := by
        change (send ref g).2.disk = _
        rw [send_eq, hf]
        simp only [hq]
        rfl
      exact hcarry (hdisk ▸ thins_of_restores hqueue)
    | (.ok (), disk) =>
      rw [hq] at hqueue
      have hdisk : (g.move (.send ref)).disk = disk := by
        change (send ref g).2.disk = _
        rw [send_eq, hf]
        simp only [hq]
        rfl
      obtain ⟨d, hd, rfl⟩ := mem_drafts_of_finished hf
      refine ⟨hspool ▸ h.lies, hspool ▸ h.bounded, ?_, fun name hname hsome => ?_,
        hspool ▸ h.numbers, hspool ▸ h.drafts, h.order, fun e he => ?_⟩
      · rw [hdisk, hqueue.toAlike.homeOf base]
      · rw [hdisk] at hsome ⊢
        rw [hspool]
        obtain ⟨ref, r, hr, hreading, hfile, hentry⟩ := h.records_gains htime hqueue hname hsome
        refine ⟨ref, r, hr, hreading, hfile, ?_⟩
        rcases hentry with hentry | hentry
        · cases hentry
          exact ⟨h.bounded.drafts d hd, Or.inr ⟨hdirect, h.drafts d hd⟩⟩
        · exact hentry
      · rw [hdisk, hqueue.toAlike.now]
        exact h.times e he

theorem lists_does (h : g.Lists base home direct entries) {d : Deed ε} (hd : d.isOrderly base g)
    (hdirect : ∀ ref, d = .move (.send ref) → direct) :
    (g.does launch d).Lists base home direct (entries ++ (g.booked launch d).toList) := by
  cases d with
  | message destination text => exact lists_message h hd
  | move m =>
    have hnone : (g.booked launch (.move m)).toList = [] := rfl
    rw [hnone, List.append_nil]
    have hcarry : Disk.Thins base g.disk (g.move m).disk → (g.move m).Lists base home direct entries :=
      fun hthins => h.carry (move_liesIn h.lies m) (bounded_move h.bounded m) hthins
        (lastId_move g m) (fun d hd => drafts_move hd)
    have hsame : Disk.Thins base g.disk g.disk :=
      thins_of_leaves (Disk.LeavesOutbox.refl _ _) (Disk.Alike.refl _)
    cases m with
    | poll => exact hcarry (thins_of_leaves (poll_leavesOutbox h.lies).1 (poll_clears h.lies).toAlike)
    | change f => exact hcarry hd
    | delete ref =>
      exact hcarry (thins_of_leaves (delete_leavesOutbox h.lies ref).1
        (delete_keeps h.lies ref "").1)
    | send ref => exact lists_send h (hdirect ref rfl) hd ref
    | _ => exact hcarry hsame

/-! ### All deeds -/

theorem lists_doesAll (h : g.Lists base home direct entries) {deeds : List (Deed ε)}
    (horderly : Orderly launch base deeds g)
    (hdirect : ∀ ref, .move (.send ref) ∈ deeds → direct) :
    (doesAll launch deeds g).Lists base home direct (entries ++ ledger launch deeds g) := by
  induction deeds generalizing g entries with
  | nil => rwa [ledger, List.append_nil]
  | cons d deeds ih =>
    rw [ledger, ← List.append_assoc]
    exact ih (lists_does h horderly.1 (fun ref he => hdirect ref (he ▸ List.mem_cons_self)))
      horderly.2 (fun ref hm => hdirect ref (List.mem_cons_of_mem _ hm))

theorem Lists.entry_eq (h : g.Lists base home direct entries) {e : Ref × Outgoing} (he : e ∈ entries)
    {ref : Ref} {r : Outgoing} (hname : e.2.fileName e.1 = r.fileName ref)
    (hentry : (ref, r) ∈ entries ∨ direct ∧ ref ∉ entries.map Prod.fst) : e.2 = r := by
  have href : e.1 = ref := Outgoing.fileName_inj hname
  rcases hentry with hentry | ⟨-, hnot⟩
  · have hkeys : (entries.map Prod.fst).Nodup :=
      List.pairwise_map.2 (h.order.imp (fun hlt => Nat.ne_of_lt hlt.1))
    have hsame : e = (ref, r) := List.inj_on_of_nodup_map hkeys he hentry href
    rw [hsame]
  · exact absurd (List.mem_map.2 ⟨e, he, href⟩) hnot

/-- The messages of the ledger that are still there have names in their order, if those of one
microsecond have. -/
theorem Lists.ascending (h : g.Lists base home direct entries)
    (hsame : entries.Pairwise (fun e e' =>
      e.2.queuedAt.SameMicro e'.2.queuedAt → Decimal.LeadsUpTo 6 e.1 e'.1))
    (p : Ref × Outgoing → Bool) :
    ((entries.filter p).map (fun e => e.2.fileName e.1)).Pairwise (· < ·) := by
  rw [List.pairwise_map]
  refine List.Pairwise.filter p ((h.order.and hsame).imp_of_mem ?_)
  rintro e e' he he' ⟨⟨href, htime⟩, hlead⟩
  exact Outgoing.fileName_lt (h.times e he).1 (h.times e' he').1 htime href hlead

/-- The outbox reads as the messages of the ledger that are still there, in their order, and among
them messages that were sent past the calls. -/
theorem Lists.readOutbox (h : g.Lists base home direct entries)
    (hsame : entries.Pairwise (fun e e' =>
      e.2.queuedAt.SameMicro e'.2.queuedAt → Decimal.LeadsUpTo 6 e.1 e'.1))
    (hl : g.disk.locateDirectory g.spool.outbox = .ok ("outbox" :: home))
    (hlegible : g.disk.Legible ("outbox" :: home)) :
    let there := entries.filter (g.disk.isThere ("outbox" :: home))
    ∃ records, g.disk.readOutbox g.spool.outbox = .ok records ∧
      (there.map Prod.snd).Sublist records ∧ (¬ direct → records = there.map Prod.snd) := by
  intro there
  obtain ⟨names, hn⟩ := hlegible.recordNames hl
  have hmem : ∀ {name}, name ∈ names ↔ isRecordName name = true ∧
      (g.disk.find? (name :: "outbox" :: home)).isSome = true :=
    Disk.mem_recordNames_of_shows hn hl hlegible.shows
  have hrecord : ∀ name ∈ names, ∃ r,
      g.disk.readOutgoing ("outbox" :: home) name = .ok r ∧
        ∀ e ∈ entries, e.2.fileName e.1 = name → e.2 = r := by
    intro name hname
    obtain ⟨hrecordName, hsome⟩ := hmem.1 hname
    obtain ⟨ref, r, rfl, htime, hfile, -, hentry⟩ := h.records name hrecordName hsome
    exact ⟨r, Disk.readOutgoing_of_holdsFile hfile (hlegible.read _) htime,
      fun e he hsame => h.entry_eq he hsame hentry⟩
  have : Nonempty Outgoing := ⟨⟨"", "", Time.Instant.ofSeconds 0⟩⟩
  choose! record hreads hentry using hrecord
  have hthere : ∀ name ∈ there.map (fun e => e.2.fileName e.1), name ∈ names := by
    intro name hname
    obtain ⟨e, he, rfl⟩ := List.mem_map.1 hname
    exact hmem.2 ⟨e.2.isRecordName_fileName e.1, (List.mem_filter.1 he).2⟩
  have hascending := h.ascending hsame (g.disk.isThere ("outbox" :: home))
  have hsublist := sublist_of_ascending hascending (Disk.recordNames_ascending hn) hthere
  have hmap : (there.map (fun e => e.2.fileName e.1)).map record = there.map Prod.snd := by
    rw [List.map_map]
    refine List.map_congr_left (fun e he => ?_)
    exact (hentry _ (hthere _ (List.mem_map.2 ⟨e, he, rfl⟩)) e (List.mem_of_mem_filter he) rfl).symm
  refine ⟨names.map record, ?_, hmap ▸ hsublist.map record, fun hdirect => ?_⟩
  · simp only [Disk.readOutbox, hl, hn, Except.mapError, bind, Except.bind]
    exact mapM_eq_ok_of_forall hreads
  · have hall : ∀ name ∈ names, name ∈ there.map (fun e => e.2.fileName e.1) := by
      intro name hname
      obtain ⟨hrecordName, hsome⟩ := hmem.1 hname
      obtain ⟨ref, r, rfl, -, -, -, hentry⟩ := h.records name hrecordName hsome
      rcases hentry with hentry | hentry
      · exact List.mem_map.2 ⟨(ref, r), List.mem_filter.2 ⟨hentry, hsome⟩, rfl⟩
      · exact absurd hentry.1 hdirect
    have hsublist' := sublist_of_ascending (Disk.recordNames_ascending hn) hascending hall
    rw [← hmap, hsublist'.antisymm hsublist]

/-- If others leave the outbox alone and nothing is sent past the calls, all messages of the ledger are
still there. -/
theorem isThere_of_proper (machine : Machine ε) (settings : Settings) {deeds : List (Deed ε)}
    (hempty : ∀ name,
      machine.disk.find? (name :: "outbox" :: machine.disk.homeOf settings.spoolDir) = none)
    (hproper : Proper launch settings.spoolDir deeds (opened machine settings)) :
    ∀ e ∈ ledger launch deeds (opened machine settings),
      (doesAll launch deeds (opened machine settings)).disk.isThere
        ("outbox" :: machine.disk.homeOf settings.spoolDir) e = true := by
  have hstart : (opened machine settings).Keeps settings.spoolDir [] :=
    ⟨opened_liesIn machine settings, ⟨fun _ he => absurd he List.not_mem_nil,
      fun _ he => absurd he List.not_mem_nil⟩, Disk.files_empty hempty _, by simp⟩
  have hcurrent := current_doesAll hstart hproper
  have hfiles := (keeps_doesAll hstart hproper).files
  intro e he
  obtain ⟨modified, hf⟩ := hfiles.octets e he
  simp only [Disk.homeOf, Disk.origin, hcurrent] at hf
  exact Option.isSome_iff_exists.2 ⟨_, hf⟩

theorem send_notMem_of_proper {deeds : List (Deed ε)} (h : Proper launch base deeds g) (ref : Ref) :
    .move (.send ref) ∉ deeds := by
  intro hm
  obtain ⟨before, after, rfl⟩ := List.append_of_mem hm
  exact (proper_append.1 h).2.1

/-- Whatever is done with a gateway that was opened on an outbox without records, while the clock does
not go back and others at most take records out of the outbox: the outbox reads as the messages of the
calls that succeeded and are still there, in the order in which they were sent, and among them
messages that were sent past the calls. So it reads as all messages of these calls in their order if
others leave the outbox alone and nothing is sent past the calls. Of two messages that were queued
within one microsecond, the number of the first has to lead up to the number of the second. -/
theorem outbox_in_order (launch : Action → StateM (Machine ε) Report) (machine : Machine ε)
    (settings : Settings) (deeds : List (Deed ε)) :
    let base := settings.spoolDir
    let start := opened machine settings
    let outbox := "outbox" :: machine.disk.homeOf base
    let g := doesAll launch deeds start
    let sent := ledger launch deeds start
    (∀ name, machine.disk.find? (name :: outbox) = none) → Orderly launch base deeds start →
      sent.Pairwise (fun e e' =>
        e.2.queuedAt.SameMicro e'.2.queuedAt → Decimal.LeadsUpTo 6 e.1 e'.1) →
      g.disk.locateDirectory g.spool.outbox = .ok outbox → g.disk.Legible outbox →
      let there := sent.filter (g.disk.isThere outbox)
      ∃ records, g.disk.readOutbox g.spool.outbox = .ok records ∧
        (there.map Prod.snd).Sublist records ∧
        ((∀ ref, .move (.send ref) ∉ deeds) → records = there.map Prod.snd) ∧
        (Proper launch base deeds start → records = sent.map Prod.snd) := by
  intro base start outbox g sent hempty horderly hsame hl hlegible there
  have hstart : start.Lists base (machine.disk.homeOf base) (∃ ref, .move (.send ref) ∈ deeds) [] := by
    refine ⟨opened_liesIn machine settings, ⟨fun _ he => absurd he List.not_mem_nil,
      fun _ he => absurd he List.not_mem_nil⟩, rfl, fun name _ hsome => ?_, by simp, by simp,
      List.Pairwise.nil, by simp⟩
    have hnone : start.disk.find? (name :: outbox) = none := hempty name
    rw [hnone] at hsome
    cases hsome
  have hlists := lists_doesAll hstart horderly (fun ref hm => ⟨ref, hm⟩)
  rw [List.nil_append] at hlists
  obtain ⟨records, hrecords, hsublist, heq⟩ := hlists.readOutbox hsame hl hlegible
  have hdirect : (∀ ref, .move (.send ref) ∉ deeds) → records = there.map Prod.snd :=
    fun hnone => heq (fun ⟨ref, hm⟩ => hnone ref hm)
  refine ⟨records, hrecords, hsublist, hdirect, fun hproper => ?_⟩
  have hall : there = sent := List.filter_eq_self.2 (isThere_of_proper machine settings hempty hproper)
  rw [hdirect (send_notMem_of_proper hproper), hall]

def taking (e : Ref × Outgoing) : Deed Unit :=
  .move (.change (fun machine => { machine with
    disk := { machine.disk.erase [e.2.fileName e.1, "outbox", "s"] with
      refuses := fun _ _ => none } }))

theorem taking_isOrderly {g : Gateway Unit} (hhome : g.disk.homeOf "s" = ["s"])
    (e : Ref × Outgoing) : (taking e).isOrderly "s" g := by
  refine ⟨rfl, fun name _ => ?_, Time.Instant.NotAfter.refl _⟩
  rw [hhome]
  have hfind := Disk.find?_erase g.disk (List.cons_ne_nil (e.2.fileName e.1) ["outbox", "s"])
  change (g.disk.erase [e.2.fileName e.1, "outbox", "s"]).find? [name, "outbox", "s"] = none ∨
    ((g.disk.erase [e.2.fileName e.1, "outbox", "s"]).find? [name, "outbox", "s"]).map Node.content = _
  rw [hfind]
  split
  · exact Or.inl rfl
  · exact Or.inr rfl

/-- Of three messages that are sent within one microsecond the first is taken away. -/
theorem outbox_in_order_taken :
    let launch : Action → StateM (Machine Unit) Report := fun _ => pure ⟨[], .ok (.exited 0)⟩
    let message (text : String) : Outgoing := ⟨"+64211234567", text, Time.Instant.ofSeconds 0⟩
    let start : Gateway Unit := opened ⟨Disk.emptySpool, [], ()⟩ Settings.below
    let deeds := [.message "+64211234567" "A", .message "+64211234567" "B",
      .message "+64211234567" "C", taking (1, message "A")]
    (∀ name, Disk.emptySpool.find? [name, "outbox", "s"] = none) ∧ Orderly launch "s" deeds start ∧
      (doesAll launch deeds start).disk.readOutbox (doesAll launch deeds start).spool.outbox =
        .ok [message "B", message "C"] := by
  intro launch message start deeds
  have hempty := Disk.find?_emptySpool
  have horderly : Orderly launch "s" deeds start := by
    refine ⟨?_, ?_, ?_, taking_isOrderly (by decide +kernel) _, trivial⟩ <;>
    · change Time.Instant.IsReading _
      decide +kernel
  have hledger : ledger launch deeds start =
      [(1, message "A"), (2, message "B"), (3, message "C")] := by decide +kernel
  have hsame : (ledger launch deeds start).Pairwise (fun e e' =>
      e.2.queuedAt.SameMicro e'.2.queuedAt → Decimal.LeadsUpTo 6 e.1 e'.1) := by
    rw [hledger]
    decide +kernel
  have hlegible : (doesAll launch deeds start).disk.Legible ["outbox", "s"] :=
    ⟨rfl, fun _ => rfl, fun _ => rfl⟩
  obtain ⟨records, hrecords, -, hdirect, -⟩ :=
    outbox_in_order launch ⟨Disk.emptySpool, [], ()⟩ Settings.below deeds hempty horderly hsame
      (by decide +kernel) hlegible
  have hnone : ∀ ref, .move (.send ref) ∉ deeds := by
    intro ref
    simp [deeds, taking]
  have hthere : ((ledger launch deeds start).filter
      ((doesAll launch deeds start).disk.isThere
        ("outbox" :: Disk.emptySpool.homeOf Settings.below.spoolDir))).map Prod.snd =
        [message "B", message "C"] := by decide +kernel
  have heq : records = [message "B", message "C"] := (hdirect hnone).trans hthere
  refine ⟨hempty, horderly, ?_⟩
  -- The start is written out, so that both sides agree as they stand.
  simp only [start]
  exact hrecords.trans (congrArg Except.ok heq)

/-- Subscriptions use up numbers, and do nothing else to the outbox. -/
theorem exists_subscribed (launch : Action → StateM (Machine ε) Report) (hb : g.spool.Bounded)
    (n : Nat) (deeds : List (Deed ε)) : ∃ g' : Gateway ε, g'.spool.Bounded ∧ g'.disk = g.disk ∧
      g'.spool.outbox = g.spool.outbox ∧ g'.spool.lastId = g.spool.lastId + n ∧
      doesAll launch (List.replicate n (.move (.subscribe .messages)) ++ deeds) g =
        doesAll launch deeds g' ∧
      ledger launch (List.replicate n (.move (.subscribe .messages)) ++ deeds) g =
        ledger launch deeds g' := by
  induction n generalizing g with
  | zero => exact ⟨g, hb, rfl, rfl, rfl, rfl, rfl⟩
  | succ n ih =>
    obtain ⟨g', hb', hdisk, houtbox, hlast, hdoes, hledger⟩ :=
      ih (bounded_move hb (.subscribe .messages))
    refine ⟨g', hb', hdisk, houtbox, ?_, hdoes, hledger⟩
    rw [hlast]
    change g.spool.lastId + 1 + n = _
    omega

theorem does_of_queues (launch : Action → StateM (Machine ε) Report) (hb : g.spool.Bounded)
    (hd : isDialable destination = true) (ht : Text.size text ≤ textLimit) {disk : Disk}
    (hq : g.disk.queue g.spool.outbox (g.spool.lastId + 1) ⟨destination, text, g.disk.now⟩ =
      (.ok (), disk)) :
    (g.does launch (.message destination text)).disk = disk ∧
      (g.does launch (.message destination text)).spool =
        { g.spool with lastId := g.spool.lastId + 1 } ∧
      g.booked launch (.message destination text) =
        some (g.spool.lastId + 1, ⟨destination, text, g.disk.now⟩) := by
  have hsent : g.sent destination text = (.ok (), disk) := by
    simp only [sent, hd, Bool.true_eq_false, if_false, if_neg (Nat.not_lt.2 ht), hq]
  obtain ⟨hanswer, hdisk, hspool⟩ := sendMessage_eq launch hb destination text
  rw [hsent] at hanswer hdisk
  exact ⟨hdisk, hspool, (booked_message launch destination text g).1 hanswer⟩

theorem mergeSort_pair {a b : String} (h : b < a) :
    [a, b].mergeSort (fun a b => decide (a ≤ b)) = [b, a] := by
  simp [List.mergeSort, List.MergeSort.Internal.splitInTwo, String.not_le.2 h]

/-- When numbers have grown to seven digits, of two messages that are sent within one microsecond the
second may be listed first. -/
theorem outbox_out_of_order :
    let launch : Action → StateM (Machine Unit) Report := fun _ => pure ⟨[], .ok (.exited 0)⟩
    let message (text : String) : Outgoing := ⟨"+64211234567", text, Time.Instant.ofSeconds 0⟩
    let start : Gateway Unit := opened ⟨Disk.emptySpool, [], ()⟩ Settings.below
    let deeds := List.replicate 999998 (.move (.subscribe .messages)) ++
      [.message "+64211234567" "A", .message "+64211234567" "B"]
    (∀ name, Disk.emptySpool.find? [name, "outbox", "s"] = none) ∧
      (ledger launch deeds start).map Prod.snd = [message "A", message "B"] ∧
      (doesAll launch deeds start).disk.readOutbox (doesAll launch deeds start).spool.outbox =
        .ok [message "B", message "A"] := by
  intro launch message start deeds
  refine ⟨Disk.find?_emptySpool, ?_⟩
  have hb : start.spool.Bounded :=
    ⟨fun _ he => absurd he List.not_mem_nil, fun _ he => absurd he List.not_mem_nil⟩
  obtain ⟨g, hb, hdisk, houtbox, hlast, hdoes, hledger⟩ := exists_subscribed launch hb 999998
    [.message "+64211234567" "A", .message "+64211234567" "B"]
  have hdialable : isDialable "+64211234567" = true := by decide +kernel
  have hfits : ∀ text ∈ ["A", "B"], Text.size text ≤ textLimit := by decide +kernel
  -- What the outbox holds after the first message, and after both.
  let first := (Disk.emptySpool.queue start.spool.outbox 999999 (message "A")).2
  let second := (first.queue start.spool.outbox 1000000 (message "B")).2
  have hfirst : Disk.emptySpool.queue start.spool.outbox 999999 (message "A") = (.ok (), first) :=
    Prod.ext (by decide +kernel) rfl
  have hsecond : first.queue start.spool.outbox 1000000 (message "B") = (.ok (), second) :=
    Prod.ext (by decide +kernel) rfl
  have hlast : g.spool.lastId + 1 = 999999 := by
    rw [hlast, show start.spool.lastId = 0 from rfl]
  have hnow : g.disk.now = Time.Instant.ofSeconds 0 := by rw [hdisk]; rfl
  obtain ⟨hdiskA, hspoolA, hbookedA⟩ := does_of_queues launch hb hdialable
    (hfits "A" (by simp)) (by rw [hdisk, houtbox, hlast]; exact hfirst)
  obtain ⟨gA, hgA⟩ : ∃ gA, gA = g.does launch (.message "+64211234567" "A") := ⟨_, rfl⟩
  rw [← hgA] at hdiskA hspoolA
  have hboundedA : gA.spool.Bounded := by
    rw [hspoolA]
    exact hb.mono (Nat.le_succ _)
  have houtboxA : gA.spool.outbox = start.spool.outbox := by rw [hspoolA, ← houtbox]
  have hlastA : gA.spool.lastId + 1 = 1000000 := by
    rw [hspoolA]
    exact congrArg Nat.succ hlast
  have hnowA : gA.disk.now = Time.Instant.ofSeconds 0 := by rw [hdiskA]; decide +kernel
  obtain ⟨hdiskB, hspoolB, hbookedB⟩ := does_of_queues launch hboundedA hdialable
    (hfits "B" (by simp)) (by rw [houtboxA, hlastA, hnowA, hdiskA]; exact hsecond)
  have houtboxB : (gA.does launch (.message "+64211234567" "B")).spool.outbox =
      start.spool.outbox := by rw [hspoolB, ← houtboxA]
  rw [hnow] at hbookedA
  rw [hnowA] at hbookedB
  simp only [deeds]
  rw [hdoes, hledger]
  simp only [doesAll, ledger, ← hgA, hbookedA, hbookedB, hdiskB, houtboxB]
  refine ⟨rfl, ?_⟩
  -- The longer number has the lesser name.
  have hlisted : second.recordNames start.spool.outbox =
      .ok [(message "B").fileName 1000000, (message "A").fileName 999999] := by
    have hlist : second.list start.spool.outbox =
        .ok [(message "A").fileName 999999, (message "B").fileName 1000000] := by decide +kernel
    have hfilter : [(message "A").fileName 999999, (message "B").fileName 1000000].filter
        isRecordName = [(message "A").fileName 999999, (message "B").fileName 1000000] := by
      decide +kernel
    simp only [Disk.recordNames, hlist, bind, Except.bind, pure, Except.pure, hfilter]
    rw [mergeSort_pair (by decide +kernel)]
  have hlocated : second.locateDirectory start.spool.outbox = .ok ["outbox", "s"] := by
    decide +kernel
  simp only [Disk.readOutbox, hlocated, hlisted, Except.mapError, bind, Except.bind]
  decide +kernel

end Gateway

end BuoyGateway
