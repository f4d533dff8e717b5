import Mathlib.Data.List.Nodup
import BuoyGateway.Proofs.Spool.Clearance
import BuoyGateway.Proofs.Spool.Numbers
import BuoyGateway.Proofs.Text.Order

/-!
# How a look sorts the inbox

A look takes up the listed files that were not delivered. One that reads as a record is delivered
and stays; one that does not is left alone until it has not been changed for a minute, and is moved
aside then. The messages come in the order of the names, under new numbers.
-/

namespace BuoyGateway

/-- An entry of the inbox is where it was, with all below it. -/
def Disk.Stays (disk disk' : Disk) (home : Location) (name : String) : Prop :=
  ∀ above, disk'.find? (above ++ name :: "inbox" :: home) =
    disk.find? (above ++ name :: "inbox" :: home)

/-- What was at an entry of the inbox, with all below it, is at the rejected entry of the same name
instead. -/
def Disk.IsAside (disk disk' : Disk) (home : Location) (name : String) : Prop :=
  ∀ above, disk'.find? (above ++ name :: "rejected" :: home) =
      disk.find? (above ++ name :: "inbox" :: home) ∧
    disk'.find? (above ++ name :: "inbox" :: home) = none

namespace Gateway

variable {ε : Type} {g : Gateway ε} {base name : String} {names : List String}
  {events : List Event} {ref : Ref}

def Pending (g : Gateway ε) (name : String) : Prop := g.lists name ∧ name ∉ g.spool.delivered

def Aged (g : Gateway ε) (name : String) : Prop :=
  ∃ t, g.modified name = .ok t ∧
    60 * Time.Instant.nanosPerSecond ≤ g.disk.now.toNanos - t.toNanos

/-- A look sorts the entries of the inbox, each judged as it is when the look comes to it. -/
structure Sorts (g g' : Gateway ε) (home : Location) : Prop where
  delivers : ∀ name, g.Pending name → (g.atFile name).reads name →
    g.deliveries.count name = 1 ∧ name ∈ g'.spool.delivered ∧ g.disk.Stays g'.disk home name
  waits : ∀ name, g.Pending name → ¬ (g.atFile name).reads name → ¬ (g.atFile name).Aged name →
    name ∉ g.deliveries ∧ name ∉ g'.spool.delivered ∧ g.disk.Stays g'.disk home name
  rejects : ∀ name, g.Pending name → ¬ (g.atFile name).reads name → (g.atFile name).Aged name →
    name ∉ g.deliveries ∧ name ∉ g'.spool.delivered ∧
      (((g.atFile name).moveAside name).1 = .ok () → g.disk.IsAside g'.disk home name) ∧
      (((g.atFile name).moveAside name).1 ≠ .ok () → g.disk.Stays g'.disk home name)
  others : ∀ name, ¬ g.Pending name → name ∉ g.deliveries ∧ g.disk.Stays g'.disk home name
  outbox : ∀ above name, g'.disk.find? (above ++ name :: "outbox" :: home) =
    g.disk.find? (above ++ name :: "outbox" :: home)

/-- The messages of a look come in the order of the octets of their files' names, under new and
ascending numbers, and each number reads back the record of its file. A sender that is longer than a
phone number reads as an overflow. -/
structure Announces (g g' : Gateway ε) (events : List Event) : Prop where
  ascending : g.deliveries.Pairwise (fun a b => Text.encode a.toList < Text.encode b.toList)
  increasing : (events.filterMap Event.ref?).Pairwise (· < ·)
  fresh : ∀ ref ∈ events.filterMap Event.ref?, g.spool.lastId < ref ∧ ref ∉ g.spool.inUse
  names : (events.filterMap Event.ref?).map
    (fun ref => (g'.spool.received? ref).map Received.name) = g.deliveries.map some
  answers : ∀ ref ∈ events.filterMap Event.ref?, ∃ message,
    g'.spool.received? ref = some message ∧
    (g.atFile message.name).readIncoming message.name = .ok message.record ∧
    g'.answers ref = (message.record.format,
      if numberLimit < Text.size message.record.sender then .error .overflow
        else .ok message.record.sender,
      .ok (message.record.timestamp.getD ((g.atFile message.name).fileStamp message.name)),
      .ok message.record.text)

theorem isStale_iff_aged : g.isStale name = true ↔ g.Aged name := by
  unfold isStale Aged
  cases g.modified name with
  | error e => simp
  | ok t =>
    simp only [Except.ok.injEq, exists_eq_left']
    exact decide_eq_true_iff

theorem Reachable.liesIn (h : g.Reachable) : ∃ base, g.spool.LiesIn base := by
  induction h with
  | opened machine settings => exact ⟨settings.spoolDir, opened_liesIn machine settings⟩
  | move h m ih =>
    obtain ⟨base, hs⟩ := ih
    exact ⟨base, move_liesIn hs m⟩
  | @sendMessage g h launch destination text ih =>
    obtain ⟨base, hs⟩ := ih
    obtain ⟨made, -, -, -, hspool⟩ :=
      tracks_sendMessage launch h.bounded destination text g [] rfl
    rw [hspool]
    exact ⟨base, hs.inbox, hs.outbox, hs.rejected⟩
  | @handle g h launch settings ref ih =>
    obtain ⟨base, hs⟩ := ih
    obtain ⟨made, -, -, -, hspool⟩ := tracks_handle launch h.bounded settings ref g [] rfl
    rw [hspool]
    exact ⟨base, hs.inbox, hs.outbox, hs.rejected⟩

/-! ### Where the entries are after a look -/

theorem setsAside_iff (hn : g.disk.recordNames g.spool.inbox = .ok names) (hp : g.Pending name) :
    (g.atFile name).setsAside name ↔ ¬ (g.atFile name).reads name ∧ (g.atFile name).Aged name ∧
      ((g.atFile name).moveAside name).1 = .ok () := by
  have hdelivered : name ∉ (g.atFile name).spool.delivered := by
    rw [mem_delivered_atFile hn]
    exact fun h => hp.2 h.1
  simp only [setsAside, rejects, hdelivered, not_false_eq_true, true_and, isStale_iff_aged,
    and_assoc]

theorem stays_of_not_setsAside (hs : g.spool.LiesIn base)
    (h : g.lists name → ¬ (g.atFile name).setsAside name) :
    g.disk.Stays (poll g).2.disk (g.disk.homeOf base) name :=
  fun above => ((poll_clears hs).stayed name (fun hc => h hc.2.1 hc.2.2) above).1

theorem isAside_of_setsAside (hs : g.spool.LiesIn base)
    (hheard : g.spool.hasSubscriber .messages = true) (hl : g.lists name)
    (h : (g.atFile name).setsAside name) :
    g.disk.IsAside (poll g).2.disk (g.disk.homeOf base) name :=
  fun above => (poll_clears hs).rejected name ⟨hheard, hl, h⟩ above

theorem poll_sorts_files (hs : g.spool.LiesIn base)
    (hheard : g.spool.hasSubscriber .messages = true)
    (hn : g.disk.recordNames g.spool.inbox = .ok names) :
    g.Sorts (poll g).2 (g.disk.homeOf base) := by
  have hmem : ∀ {n}, n ∈ g.deliveries ↔ g.Pending n ∧ (g.atFile n).reads n := by
    intro n
    rw [mem_deliveries hn hheard, ← lists_iff hn, Pending, and_assoc]
    exact and_congr_right (fun _ => and_comm)
  have hmarked : ∀ {n}, g.Pending n → ¬ (g.atFile n).reads n →
      n ∉ g.deliveries ∧ n ∉ (poll g).2.spool.delivered := by
    intro n hp hr
    have hnot : n ∉ g.deliveries := fun hd => hr (hmem.1 hd).2
    refine ⟨hnot, fun hd => ?_⟩
    rcases (mem_delivered_poll hn).1 hd with hnew | hold
    · exact hnot hnew
    · exact hp.2 hold.1
  refine ⟨fun n hp hr => ?delivers, fun n hp hr hage => ?waits, fun n hp hr hage => ?rejects,
    fun n hp => ?others, (poll_clears hs).outbox⟩
  case delivers =>
    have hd := hmem.2 ⟨hp, hr⟩
    refine ⟨List.count_eq_one_of_mem (nodup_deliveries g) hd, (mem_delivered_poll hn).2 (.inl hd),
      stays_of_not_setsAside hs (fun _ ha => ?_)⟩
    exact ((setsAside_iff hn hp).1 ha).1 hr
  case waits =>
    obtain ⟨hnot, hunmarked⟩ := hmarked hp hr
    refine ⟨hnot, hunmarked, stays_of_not_setsAside hs (fun _ ha => ?_)⟩
    exact hage ((setsAside_iff hn hp).1 ha).2.1
  case rejects =>
    obtain ⟨hnot, hunmarked⟩ := hmarked hp hr
    refine ⟨hnot, hunmarked, fun hok => ?_, fun hfail => ?_⟩
    · exact isAside_of_setsAside hs hheard hp.1 ((setsAside_iff hn hp).2 ⟨hr, hage, hok⟩)
    · exact stays_of_not_setsAside hs (fun _ ha => hfail ha.2)
  case others =>
    refine ⟨fun hd => hp (hmem.1 hd).1, stays_of_not_setsAside hs (fun hl ha => ?_)⟩
    -- A listed file that is not pending was delivered, and then the look passes it over.
    have hd : n ∈ g.spool.delivered := by
      by_contra hnot
      exact hp ⟨hl, hnot⟩
    exact ha.1.1 ((mem_delivered_atFile hn).2 ⟨hd, (lists_iff hn).1 hl⟩)

/-! ### What comes of a look -/

theorem mem_refs_iff : ref ∈ events.filterMap Event.ref? ↔ .received ref ∈ events := by
  rw [List.mem_filterMap]
  constructor
  · rintro ⟨event, he, href⟩
    cases event with
    | full storage => cases href
    | received other =>
      cases href
      exact he
  · exact fun he => ⟨_, he, rfl⟩

theorem eventNames_eq {spool : Spool} (h : ∀ ref, .received ref ∈ events →
      ∃ message, spool.received? ref = some message) :
    (events.filterMap Event.ref?).map (fun ref => (spool.received? ref).map Received.name) =
      (events.filterMap (eventName? spool)).map some := by
  rw [List.map_filterMap, List.map_filterMap]
  refine List.filterMap_congr ?_
  intro event he
  cases event with
  | full storage => rfl
  | received ref =>
    obtain ⟨message, hm⟩ := h ref he
    simp only [Event.ref?, eventName?, hm, Option.map_some]

theorem poll_announces (h : g.Reachable) (hp : (poll g).1 = .ok events) :
    g.Announces (poll g).2 events := by
  have hgiven : events.filterMap Event.ref? = g.given .poll := by simp only [given, hp]
  refine ⟨(deliveries_ascending g).imp (fun h => Text.encode_lt h), ?increasing,
    fun ref hr => ?fresh, ?names, fun ref hr => ?answers⟩
  case increasing =>
    rw [hgiven, given_poll]
    exact List.pairwise_lt_range'
  case fresh =>
    rw [hgiven] at hr
    have hlt := (lt_of_mem_given hr).1
    refine ⟨hlt, fun hu => ?_⟩
    have hle := h.inUse_le ref hu
    exact Nat.lt_irrefl _ (Nat.lt_of_lt_of_le hlt hle)
  case names =>
    have hdeliveries : g.deliveries = events.filterMap (eventName? (poll g).2.spool) := by
      rw [deliveries, hp]
    rw [hdeliveries]
    exact eventNames_eq (refs_poll hp).2
  case answers =>
    have he := mem_refs_iff.1 hr
    obtain ⟨message, hm⟩ := (refs_poll hp).2 ref he
    obtain ⟨-, record, hread, hmessage⟩ := arrival?_eq_some_iff.1 (arrival?_of_received hp he hm)
    have hrecord : message.record = record := congrArg Received.record hmessage
    have hstamp : message.timestamp =
        record.timestamp.getD ((g.atFile message.name).fileStamp message.name) :=
      congrArg Received.timestamp hmessage
    refine ⟨message, hm, hrecord ▸ hread, ?_⟩
    rw [answers_of_some hm, hstamp, hrecord]

/-- A look that succeeds sorts the entries of the inbox, if somebody waits for it, and announces the
messages. Each file is judged as it is when the look comes to it: what is there is what was there
before, and the same is said of it as long as the inbox is found, which it always is by a path that
never climbs. A look that nobody waits for changes nothing on the disk. -/
theorem poll_sorts (h : g.Reachable) : ∃ base, g.spool.LiesIn base ∧
    (∀ events, (poll g).1 = .ok events → g.spool.hasSubscriber .messages = true →
      g.disk.locateDirectory g.spool.inbox = .ok ("inbox" :: g.disk.homeOf base) ∧
      g.Sorts (poll g).2 (g.disk.homeOf base) ∧ g.Announces (poll g).2 events ∧
      ∀ name,
        (g.atFile name).disk.find? (name :: "inbox" :: g.disk.homeOf base) =
          g.disk.find? (name :: "inbox" :: g.disk.homeOf base) ∧
        ((g.atFile name).holdsInbox → SameFile g (g.atFile name) name) ∧
        (".." ∉ Path.steps base → (g.atFile name).holdsInbox)) ∧
    (g.spool.hasSubscriber .messages = false → (poll g).2.disk = g.disk) := by
  obtain ⟨base, hs⟩ := h.liesIn
  refine ⟨base, hs, fun events hp hheard => ?_, fun hunheard => ?_⟩
  · obtain ⟨names, hn⟩ := recordNames_of_poll hp
    obtain ⟨dir, hd, -⟩ := Disk.recordNames_ok hn
    have hi : g.holdsInbox := ⟨dir, hd⟩
    exact ⟨locate_inbox hs hi, poll_sorts_files hs hheard hn, poll_announces h hp, fun name =>
      ⟨(atFile_spares hs name).2, sameFile_of_holdsInbox hs hi,
        fun hc => holdsInbox_atFile hs hc hi name⟩⟩
  · cases hn : g.disk.recordNames g.spool.inbox with
    | error e => rw [poll_unlisted hn]
    | ok names =>
      rw [poll_unheard hn hunheard]
      rfl

/-- Of three files, an old one that is cut off is moved aside, a new one that is cut off stays, and
a message is delivered. -/
theorem poll_sorts_one_of_each :
    let r : Incoming := ⟨"+64211234567", none, "REBOOT", .text⟩
    let cut : Content := .file (r.octets.take 20) false
    let machine : Machine Unit := Machine.withMail ⟨Disk.emptySpool, [], ()⟩ "3.json" r
    let disk := (machine.disk.insert ["2.json", "inbox", "s"] ⟨cut, machine.disk.now⟩).insert
      ["1.json", "inbox", "s"] ⟨cut, Time.Instant.ofSeconds (-60)⟩
    let g := (opened ⟨disk, [], ()⟩ Settings.below).move (.subscribe .messages)
    g.disk.IsAside (poll g).2.disk ["s"] "1.json" ∧ g.disk.Stays (poll g).2.disk ["s"] "2.json" ∧
      g.deliveries.count "3.json" = 1 := by
  intro r cut machine disk g
  have hlist : g.disk.list g.spool.inbox = .ok ["1.json", "2.json", "3.json"] := by decide +kernel
  have hnames : g.disk.recordNames g.spool.inbox = .ok ["1.json", "2.json", "3.json"] :=
    Disk.recordNames_of_list hlist (by decide +kernel)
  have hheard : g.spool.hasSubscriber .messages = true := by decide +kernel
  have hp := congrArg Prod.fst (poll_heard hnames hheard)
  have hlocated : g.disk.locateDirectory g.spool.inbox = .ok ["inbox", "s"] := by decide +kernel
  have hpending : ∀ name ∈ ["1.json", "2.json", "3.json"], g.Pending name :=
    fun name hn => ⟨(lists_iff hnames).2 hn, List.not_mem_nil⟩
  have hat := fun name => @atFile_eq _ g name _ hnames
  have hstart := (Reachable.opened ⟨disk, [], ()⟩ Settings.below).move (.subscribe .messages)
  obtain ⟨base, -, hlooks, -⟩ := poll_sorts hstart
  obtain ⟨hinbox, hsorts, -, -⟩ := hlooks _ hp hheard
  have hhome : g.disk.homeOf base = ["s"] := by
    have := hinbox.symm.trans hlocated
    simpa using this
  rw [← hhome]
  refine ⟨?_, ?_, ?_⟩
  · have haged : (g.atFile "1.json").Aged "1.json" := by
      rw [hat]
      exact isStale_iff_aged.1 (by decide +kernel)
    have hmoved : ((g.atFile "1.json").moveAside "1.json").1 = .ok () := by
      rw [hat]
      decide +kernel
    have hreads : ¬ (g.atFile "1.json").reads "1.json" := by
      rw [hat]
      decide +kernel
    exact (hsorts.rejects "1.json" (hpending _ (by decide)) hreads haged).2.2.1 hmoved
  · have hreads : ¬ (g.atFile "2.json").reads "2.json" := by
      rw [hat]
      decide +kernel
    have haged : ¬ (g.atFile "2.json").Aged "2.json" := by
      rw [hat, ← isStale_iff_aged]
      decide +kernel
    exact (hsorts.waits "2.json" (hpending _ (by decide)) hreads haged).2.2
  · have hreads : (g.atFile "3.json").reads "3.json" := by
      rw [hat]
      decide +kernel
    exact (hsorts.delivers "3.json" (hpending _ (by decide)) hreads).1

/-- A file reads as a record whose sender is longer than a phone number. A look delivers it, and
reading the sender of the message fails. -/
theorem poll_sorts_in_part :
    let record : Incoming := ⟨"+12345678901234567890", none, "hi", .text⟩
    let machine : Machine Unit := Machine.withMail ⟨Disk.emptySpool, [], ()⟩ "1.json" record
    let g := (opened machine Settings.below).move (.subscribe .messages)
    (g.atFile "1.json").readIncoming "1.json" = .ok record ∧
      (poll g).1 = .ok [.received 2] ∧ g.deliveries = ["1.json"] ∧
      (modem.sender 2 (poll g).2).1 = .error .overflow := by
  decide +kernel

end Gateway

end BuoyGateway
