import BuoyGateway.Proofs.Spool.Attending
import BuoyGateway.Proofs.Spool.History

/-!
# One pass from end to end

A gateway that was just opened and watches its inbox for one pass looks at it once, attends to what
the look has brought up, and gives its subscriptions back. `Passed` says what becomes of the inbox,
the outbox and the rejected entries, and what was launched on the way; the main statement is that
this is what becomes of them, whatever was in the spool, as long as no access to the disk fails.
-/

namespace BuoyGateway

/-! ### Opening -/

/-- A spool that was opened has an inbox and an outbox. Opening it only makes directories. -/
theorem Spool.start_ok {disk disk' : Disk} {settings : Settings} {spool : Spool}
    (h : Spool.start disk settings = (.ok spool, disk')) :
    spool = Spool.fresh settings ∧ Disk.Grows disk disk' ∧ (disk.rooted → disk'.rooted) ∧
      (∃ loc, disk'.locateDirectory (Path.join settings.spoolDir "inbox") = .ok loc) ∧
      ∃ loc, disk'.locateDirectory (Path.join settings.spoolDir "outbox") = .ok loc := by
  have hsteps : ∀ part, Disk.IsPart part → Path.steps (Path.join settings.spoolDir part) ≠ [] := by
    intro part hp
    rw [hp.steps]
    simp
  unfold Spool.start at h
  split at h
  · cases h
  · dsimp only [Spool.fresh] at h ⊢
    split at h
    · cases h
    · next made hmade =>
      split at h
      · cases h
      · next made' hmade' =>
        cases h
        have hinbox := disk.makeDirectories_grows (Path.join settings.spoolDir "inbox")
        have houtbox := made.makeDirectories_grows (Path.join settings.spoolDir "outbox")
        rw [hmade] at hinbox
        rw [hmade'] at houtbox
        refine ⟨rfl, hinbox.trans houtbox, fun hr => ?_, ?_, ?_⟩
        · have h := (hr.makeDirectories (Path.join settings.spoolDir "inbox"))
          rw [hmade] at h
          have h' := h.makeDirectories (Path.join settings.spoolDir "outbox")
          rwa [hmade'] at h'
        · obtain ⟨loc, hl⟩ :=
            Disk.locateDirectory_makeDirectories (hsteps _ Disk.isPart_inbox) hmade
          exact ⟨loc, houtbox.locateDirectory hl⟩
        · exact Disk.locateDirectory_makeDirectories (hsteps _ Disk.isPart_outbox) hmade'

/-- What opening a spool leads to can be told from whether it succeeds. -/
theorem Spool.start_of_isOk {disk : Disk} {settings : Settings}
    (h : (Spool.start disk settings).1.isOk = true) : Spool.start disk settings =
      (.ok (Spool.fresh settings), (Spool.start disk settings).2) := by
  match hs : Spool.start disk settings with
  | (.error e, disk') =>
    rw [hs] at h
    cases h
  | (.ok spool, disk') => rw [(Spool.start_ok hs).1]

theorem Disk.serves_of_start {disk disk' : Disk} {settings : Settings} {spool : Spool}
    (h : Spool.start disk settings = (.ok spool, disk')) (hr : disk.rooted) (hs : disk.sound) :
    disk'.Serves settings.spoolDir := by
  obtain ⟨-, hgrows, hrooted, ⟨inbox, hi⟩, ⟨outbox, ho⟩⟩ := Spool.start_ok h
  refine ⟨hgrows.toAlike.sound hs, Disk.stands_of_rooted (hrooted hr) hi ho, ?_, ?_⟩
  · rw [hi, (Disk.locateDirectory_part Disk.isPart_inbox hi).1]
  · rw [ho, (Disk.locateDirectory_part Disk.isPart_outbox ho).1]

namespace Gateway

variable {ε : Type}

/-- The gateway when it begins to look: it subscribes to both topics and says so. -/
def begun (g : Gateway ε) : Gateway ε :=
  ({ g with spool := ((g.spool.subscribe .messages).2.subscribe .storage).2 } : Gateway ε).note .info
    ("Watching " ++ g.spool.inbox)

def ended (g : Gateway ε) (first : Handle) : Gateway ε :=
  { g with spool := (g.spool.unsubscribe .messages first).unsubscribe .storage (first + 1) }

theorem passes_once (world : Surroundings ε) (settings : Settings) (limit : Nat)
    {g polled : Gateway ε} {events : List Event} (h : poll g = (.ok events, polled)) :
    passes world settings true (limit + 1) g =
      (true, (attendAll (station world.launch) settings events polled).2) := by
  simp only [passes]
  rw [bind_of_eq (pass_looked (station world.launch) settings h)]
  rfl

/-- A gateway that holds no subscription takes two, and gives them back when its passes end. -/
theorem watch_eq (world : Surroundings ε) (settings : Settings) (once : Bool) (limit : Nat)
    (g : Gateway ε) : watch world settings once limit {} g =
      match passes world settings once limit g.begun with
      | (true, g') => ((.ended (.ok ()), {}), g'.ended (g.spool.lastId + 1))
      | (false, g') =>
        ((.watching, ⟨some (g.spool.lastId + 1), some (g.spool.lastId + 2)⟩), g') := by
  let st := station world.launch
  let first : Gateway ε := { g with spool := (g.spool.subscribe .messages).2 }
  let twice : Gateway ε := { g with spool := ((g.spool.subscribe .messages).2.subscribe .storage).2 }
  have hfirst : st.register .messages {} g =
      ((.ok (), ⟨some (g.spool.lastId + 1), none⟩), first) := rfl
  have hsecond : st.register .storage ⟨some (g.spool.lastId + 1), none⟩ first =
      ((.ok (), ⟨some (g.spool.lastId + 1), some (g.spool.lastId + 2)⟩), twice) := rfl
  have hwatching : (do st.info ("Watching " ++ (← get).spool.inbox)) twice = ((), g.begun) := rfl
  simp only [watch]
  rw [bind_of_eq hfirst]
  dsimp only
  rw [bind_of_eq hsecond]
  dsimp only
  rw [← bind_assoc, bind_of_eq hwatching]
  cases hpasses : passes world settings once limit g.begun with
  | mk ends g' =>
    rw [bind_of_eq hpasses]
    cases ends <;> rfl

theorem watch_once (world : Surroundings ε) (settings : Settings) (limit : Nat)
    {g polled : Gateway ε} {events : List Event} (h : poll g.begun = (.ok events, polled)) :
    watch world settings true (limit + 1) {} g = ((.ended (.ok ()), {}),
      ((attendAll (station world.launch) settings events polled).2).ended (g.spool.lastId + 1)) := by
  rw [watch_eq, passes_once world settings limit h]

/-! ### The mail -/

def text? (g : Gateway ε) (name : String) : Option Incoming :=
  match g.readIncoming name with
  | .error _ => none
  | .ok record => if record.format = .text then some record else none

/-- The texts in the inbox, each with the name of its file, in the order of the names. -/
def mail (g : Gateway ε) : List (String × Incoming) :=
  match g.disk.recordNames g.spool.inbox with
  | .error _ => []
  | .ok names => names.filterMap (fun name => (g.text? name).map (fun record => (name, record)))

variable {g : Gateway ε} {names : List String} {name : String}

theorem mail_eq (h : g.disk.recordNames g.spool.inbox = .ok names) :
    g.mail = names.filterMap (fun name => (g.text? name).map (fun record => (name, record))) := by
  simp only [mail, h]

/-! ### After the look -/

/-- All that a look at the inbox has to do can be done: the inbox is found all through it, and every
entry that it moves aside can be moved. -/
def goesWell (g : Gateway ε) : Prop :=
  ∀ names, g.disk.recordNames g.spool.inbox = .ok names →
    (g.listed names).holdsThrough names ∧ (g.listed names).movesAll names

/-- A look that finds nothing but records goes well. -/
theorem goesWell_of_reads {base : String} (hl : g.spool.LiesIn base)
    (hc : ".." ∉ Path.steps base) (hi : g.holdsInbox)
    (hn : g.disk.recordNames g.spool.inbox = .ok names) (h : ∀ name ∈ names, g.reads name) :
    g.goesWell := by
  intro names' hn'
  rw [hn] at hn'
  cases hn'
  have hlisted := listed_liesIn hl names
  have hholds := holdsThrough_of_plain hlisted hc
    (hi.imp (fun dir hd => by rw [listed_spool]; exact hd)) names
  refine ⟨hholds, fun name hm hr => absurd ?_ hr.2.1⟩
  exact ((sameFile_listed g names name).trans (sameFile_reached hlisted hholds name)).reads.2
    (h name hm)

theorem recordNames_of_serves {base : String} (hl : g.spool.LiesIn base) (hs : g.disk.Serves base) :
    ∃ names, g.disk.recordNames g.spool.inbox = .ok names := by
  rw [hl.inbox]
  simp only [Disk.recordNames, Disk.list, hs.inbox, hs.sound.permit, bind, Except.bind, pure,
    Except.pure]
  exact ⟨_, rfl⟩

/-- A gateway that remembers no messages yet and waits for them, with its spool at hand. -/
structure Waiting (base : String) (g : Gateway ε) : Prop where
  lies : g.spool.LiesIn base
  serves : g.disk.Serves base
  subscribed : g.spool.hasSubscriber .messages = true
  received : g.spool.received = []
  drafts : g.spool.drafts = []
  delivered : g.spool.delivered = []

def firstMessages (g : Gateway ε) (names : List String) : List (Ref × Received) :=
  Spool.numbered g.spool.lastId (names.filterMap (g.listed names).arrival?)

variable {base : String}

theorem arrivals_listed (hl : g.spool.LiesIn base) (hw : g.goesWell)
    (hn : g.disk.recordNames g.spool.inbox = .ok names) :
    arrivals names (g.listed names) = names.filterMap (g.listed names).arrival? :=
  arrivals_eq (listed_liesIn hl names) (Disk.nodup_recordNames hn) (hw names hn).1

/-- A look that goes well raises its notices and then an event for each message. -/
theorem poll_first (hg : g.Waiting base) (hw : g.goesWell)
    (hn : g.disk.recordNames g.spool.inbox = .ok names) :
    poll g = (.ok (g.notices names ++ eventsOf (g.firstMessages names)),
      afterFiles names (g.listed names)) := by
  have hlast : (g.listed names).spool.lastId = g.spool.lastId := by rw [listed_spool]
  rw [poll_heard hn hg.subscribed, pollFiles_eq, arrivals_listed hg.lies hw hn, hlast]
  rfl

def castsOff (g : Gateway ε) (name : String) : Prop :=
  g.lists name ∧ ¬ g.reads name ∧ g.isStale name = true

instance (g : Gateway ε) (name : String) : Decidable (g.castsOff name) :=
  inferInstanceAs (Decidable (_ ∧ _ ∧ _))

theorem readIncoming_of_waiting (hg : g.Waiting base) {record : Incoming} :
    g.readIncoming name = .ok record ↔ ∃ octets executable modified,
      g.disk.find? (name :: "inbox" :: g.disk.homeOf base) =
        some ⟨.file octets executable, modified⟩ ∧ Incoming.shape.ofOctets octets = .ok record := by
  have hi := hg.serves.inbox
  rw [← hg.lies.inbox] at hi
  rw [readIncoming_eq_ok_iff]
  constructor
  · rintro ⟨dir, octets, executable, modified, hd, -, hf, hr⟩
    rw [hi] at hd
    cases hd
    exact ⟨octets, executable, modified, hf, hr⟩
  · rintro ⟨octets, executable, modified, hf, hr⟩
    exact ⟨_, octets, executable, modified, hi, hg.serves.sound.permit _ _, hf, hr⟩

theorem mem_names_of_waiting (hg : g.Waiting base)
    (hn : g.disk.recordNames g.spool.inbox = .ok names) : name ∈ names ↔
      isRecordName name = true ∧
        (g.disk.find? (name :: "inbox" :: g.disk.homeOf base)).isSome = true := by
  have hi := hg.serves.inbox
  rw [← hg.lies.inbox] at hi
  exact Disk.mem_recordNames_of_shows hn hi (hg.serves.sound.shows _)

def records (g : Gateway ε) (names : List String) : List (String × Incoming) :=
  (g.firstMessages names).map (fun entry => (entry.2.name, entry.2.record))

theorem records_eq (hg : g.Waiting base) : g.records names = names.filterMap (fun name =>
    (g.readIncoming name).toOption.map (fun record => (name, record))) := by
  have hcomp : g.records names = ((g.firstMessages names).map Prod.snd).map
      (fun message => (message.name, message.record)) := by
    rw [records, List.map_map]
    rfl
  rw [hcomp, firstMessages, Spool.map_snd_numbered, List.map_filterMap]
  refine List.filterMap_congr (fun name _ => ?_)
  have hdelivered : name ∉ (g.listed names).spool.delivered := by
    rw [mem_delivered_listed, hg.delivered]
    simp
  simp only [arrival?, (sameFile_listed g names name).record, List.contains_eq_mem, hdelivered,
    decide_false, Bool.false_eq_true, ↓reduceIte]
  cases g.readIncoming name <;> rfl

/-- The records are what the disk holds in files of the inbox that are named as records and spell
some. -/
theorem mem_records (hg : g.Waiting base) (hn : g.disk.recordNames g.spool.inbox = .ok names)
    {entry : String × Incoming} :
    entry ∈ g.records names ↔ isRecordName entry.1 = true ∧ ∃ octets executable modified,
      g.disk.find? (entry.1 :: "inbox" :: g.disk.homeOf base) =
        some ⟨.file octets executable, modified⟩ ∧ Incoming.shape.ofOctets octets = .ok entry.2 := by
  obtain ⟨name, record⟩ := entry
  have hread : ∀ name record, (g.readIncoming name).toOption = some record ↔
      g.readIncoming name = .ok record := by
    intro name record
    cases g.readIncoming name <;> simp [Except.toOption]
  simp only [records_eq hg, List.mem_filterMap, Option.map_eq_some_iff, hread, Prod.mk.injEq,
    readIncoming_of_waiting hg, mem_names_of_waiting hg hn]
  constructor
  · rintro ⟨name', ⟨hr, -⟩, record', hf, rfl, rfl⟩
    exact ⟨hr, hf⟩
  · rintro ⟨hr, octets, executable, modified, hf, ho⟩
    exact ⟨name, ⟨hr, by rw [hf]; rfl⟩, record, ⟨octets, executable, modified, hf, ho⟩, rfl, rfl⟩

theorem records_ascending (hg : g.Waiting base)
    (hn : g.disk.recordNames g.spool.inbox = .ok names) :
    ((g.records names).map Prod.fst).Pairwise (· < ·) := by
  rw [records_eq hg, List.map_filterMap]
  refine (Disk.recordNames_ascending hn).filterMap _ (fun name name' hlt a ha b hb => ?_)
  simp only [Option.map_map, Option.map_eq_some_iff, Function.comp_apply] at ha hb
  obtain ⟨_, -, rfl⟩ := ha
  obtain ⟨_, -, rfl⟩ := hb
  exact hlt

theorem mail_eq_filter (hg : g.Waiting base) (hn : g.disk.recordNames g.spool.inbox = .ok names) :
    g.mail = (g.records names).filter (fun entry => entry.2.format = .text) := by
  rw [mail_eq hn, records_eq hg, List.filter_filterMap]
  refine List.filterMap_congr (fun name _ => ?_)
  unfold text?
  cases g.readIncoming name with
  | error why => rfl
  | ok record => by_cases hf : record.format = .text <;> simp [Except.toOption, Option.filter, hf]

/-- The mail is what the disk holds in files of the inbox that are named as records and spell
texts. -/
theorem mem_mail_iff (hg : g.Waiting base) (hn : g.disk.recordNames g.spool.inbox = .ok names)
    {entry : String × Incoming} :
    entry ∈ g.mail ↔ isRecordName entry.1 = true ∧ ∃ octets executable modified,
      g.disk.find? (entry.1 :: "inbox" :: g.disk.homeOf base) =
        some ⟨.file octets executable, modified⟩ ∧
      Incoming.shape.ofOctets octets = .ok entry.2 ∧ entry.2.format = .text := by
  rw [mail_eq_filter hg hn, List.mem_filter, mem_records hg hn, decide_eq_true_eq]
  constructor
  · rintro ⟨⟨hr, octets, executable, modified, hf, ho⟩, htext⟩
    exact ⟨hr, octets, executable, modified, hf, ho, htext⟩
  · rintro ⟨hr, octets, executable, modified, hf, ho, htext⟩
    exact ⟨⟨hr, octets, executable, modified, hf, ho⟩, htext⟩

theorem mail_ascending (hg : g.Waiting base) (hn : g.disk.recordNames g.spool.inbox = .ok names) :
    (g.mail.map Prod.fst).Pairwise (· < ·) := by
  rw [mail_eq_filter hg hn]
  exact (records_ascending hg hn).sublist (List.filter_sublist.map Prod.fst)

theorem texts_of_firstMessages (hg : g.Waiting base)
    (hn : g.disk.recordNames g.spool.inbox = .ok names) :
    (((g.firstMessages names).map Prod.snd).filter
        (fun message => message.record.format = .text)).map
      (fun message => (message.name, message.record)) = g.mail := by
  rw [mail_eq_filter hg hn, records, List.filter_map, List.filter_map, List.map_map]
  rfl

theorem textFiles_firstMessages (hg : g.Waiting base)
    (hn : g.disk.recordNames g.spool.inbox = .ok names) :
    textFiles ((g.firstMessages names).map Prod.snd) = g.mail.map Prod.fst := by
  rw [← texts_of_firstMessages hg hn, List.map_map]
  rfl

/-- What is cast off are the entries of the inbox that are named as records, spell none, and were
last changed a minute ago or before. -/
theorem castsOff_iff (hg : g.Waiting base) (hn : g.disk.recordNames g.spool.inbox = .ok names) :
    g.castsOff name ↔ isRecordName name = true ∧ ∃ node,
      g.disk.find? (name :: "inbox" :: g.disk.homeOf base) = some node ∧
      (∀ octets executable record, node.content = .file octets executable →
        Incoming.shape.ofOctets octets ≠ .ok record) ∧
      graceNanos ≤ g.disk.now.toNanos - node.modified.toNanos := by
  have hi := hg.serves.inbox
  rw [← hg.lies.inbox] at hi
  simp only [castsOff, lists_iff hn, mem_names_of_waiting hg hn, reads,
    readIncoming_of_waiting hg, not_exists, not_and]
  cases hf : g.disk.find? (name :: "inbox" :: g.disk.homeOf base) with
  | none => simp
  | some node =>
    have hm : g.modified name = .ok node.modified := by
      simp only [modified, hi, Disk.modifiedAt, hg.serves.sound.permit, hf, bind, Except.bind, pure,
        Except.pure]
    obtain ⟨content, modified⟩ := node
    simp only [isStale, hm, Option.isSome_some, and_true, decide_eq_true_eq, Option.some.injEq,
      exists_eq_left', Node.mk.injEq]
    constructor
    · rintro ⟨hr, hreads, hstale⟩
      exact ⟨hr, fun octets executable record hc => hreads record octets executable modified
        ⟨hc, rfl⟩, hstale⟩
    · rintro ⟨hr, hreads, hstale⟩
      exact ⟨hr, fun record octets executable _ hc => hreads octets executable record hc.1, hstale⟩

theorem rejects_listed (hg : g.Waiting base) (hn : g.disk.recordNames g.spool.inbox = .ok names)
    (name : String) : name ∈ names ∧ (g.listed names).rejects name ↔ g.castsOff name := by
  have hsame := sameFile_listed g names name
  have hdelivered : name ∉ (g.listed names).spool.delivered := by
    rw [mem_delivered_listed, hg.delivered]
    simp
  simp only [rejects, castsOff, lists_iff hn, hsame.reads, hsame.stale, hdelivered,
    not_false_eq_true, true_and]

/-- A look that goes well clears the inbox of what is cast off, and leaves the gateway ready to
attend to the messages. -/
theorem look_first (hg : g.Waiting base) (hw : g.goesWell)
    (hn : g.disk.recordNames g.spool.inbox = .ok names) :
    let polled := afterFiles names (g.listed names)
    g.disk.Clears polled.disk (g.disk.homeOf base) g.castsOff ∧ polled.Ready base ∧
      polled.spool.subscriptions = g.spool.subscriptions ∧
      ∀ entry ∈ g.firstMessages names, polled.spool.received? entry.1 = some entry.2 := by
  intro polled
  have hlisted := listed_liesIn hg.lies names
  have hspool : polled.spool = (g.listed names).spool.receiveAll (arrivals names (g.listed names)) :=
    afterFiles_spool names (g.listed names)
  have hnd := Disk.nodup_recordNames hn
  have hclears := afterFiles_clears_rejects hlisted hnd (hw names hn).1 (hw names hn).2
  have hstands := stands_afterFiles hlisted hnd (hw names hn).1 (hw names hn).2 hg.serves.stands
  have hserves : polled.disk.Serves base := hg.serves.of_stands
    (hclears.toAlike.sound hg.serves.sound) hstands hclears.current
  have hall := hspool
  rw [Spool.receiveAll_eq, listed_spool] at hall
  refine ⟨hclears.congr (rejects_listed hg hn), ⟨?_, ⟨fun entry he => ?_, fun entry he => ?_⟩,
    hserves⟩, ?_, fun entry he => ?_⟩
  · rw [hall]
    exact ⟨hg.lies.inbox, hg.lies.outbox, hg.lies.rejected⟩
  · rw [hall] at he ⊢
    rw [hg.received, List.append_nil, List.mem_reverse] at he
    exact (Spool.lt_of_mem_numbered he).2
  · rw [hall, hg.drafts] at he
    exact absurd he List.not_mem_nil
  · rw [hall]
  · rw [hspool, arrivals_listed hg.lies hw hn]
    refine Spool.received?_receiveAll _ _ ?_
    rw [listed_spool]
    exact he

/-- The files of the texts among these messages are still there after the look. -/
theorem find?_of_firstMessages (hg : g.Waiting base) {disk : Disk}
    (hclears : g.disk.Clears disk (g.disk.homeOf base) g.castsOff) {entry : Ref × Received}
    (he : entry ∈ g.firstMessages names) :
    ∃ octets executable modified, disk.find? (entry.2.name :: "inbox" :: g.disk.homeOf base) =
      some ⟨.file octets executable, modified⟩ := by
  have hm : entry.2 ∈ names.filterMap (g.listed names).arrival? := by
    rw [← Spool.map_snd_numbered g.spool.lastId (names.filterMap _)]
    exact List.mem_map_of_mem he
  obtain ⟨name, -, ha⟩ := List.mem_filterMap.1 hm
  obtain rfl := name_of_arrival? ha
  obtain ⟨-, record, hr, -⟩ := arrival?_eq_some_iff.1 ha
  have hstays : ¬ g.castsOff entry.2.name :=
    fun h => h.2.1 ((sameFile_listed g names _).reads.1 ⟨record, hr⟩)
  obtain ⟨dir, octets, executable, modified, hd, -, hf, -⟩ := readIncoming_eq_ok_iff.1 hr
  rw [(listed_liesIn hg.lies names).inbox] at hd
  have hdir : dir = "inbox" :: g.disk.homeOf base := by
    have hi : (g.listed names).disk.locateDirectory (Path.join base "inbox") =
        .ok ("inbox" :: g.disk.homeOf base) := hg.serves.inbox
    rw [hi] at hd
    exact (Except.ok.inj hd).symm
  rw [hdir] at hf
  exact ⟨octets, executable, modified, ((hclears.stayed _ hstays []).1).trans hf⟩

/-- A look leaves all but the spool and the disk, and the log. -/
theorem afterFiles_outside (names : List String) (g : Gateway ε) :
    (afterFiles names g).machine.outside = g.machine.outside := by
  induction names generalizing g with
  | nil => rfl
  | cons name names ih =>
    rw [afterFiles, ih]
    unfold afterFile
    by_cases hd : name ∈ g.spool.delivered
    · rw [pollFile_delivered (by simpa using hd)]
    · have hd' : g.spool.delivered.contains name = false := by simpa using hd
      cases hr : g.readIncoming name with
      | ok record => rw [pollFile_readable hd' hr]
      | error why =>
        rw [pollFile_unreadable hd' hr]
        unfold rejectIfStale
        split
        · dsimp only
          split <;> rfl
        · rfl

/-! ### The pass -/

/-- Notices are logged, and nothing else comes of them. -/
theorem attendAll_notices (launch : Action → StateM (Machine ε) Report) (settings : Settings)
    (g : Gateway ε) (names : List String) (start : Gateway ε) :
    ∃ log, (attendAll (station launch) settings (g.notices names) start).2 = start.logged log ∧
      (attendAll (station launch) settings (g.notices names) start).1.filterMap
        Attended.handled? = [] ∧
      queuedFor (station launch) settings (g.notices names) start = [] := by
  unfold notices Spool.noticeFull
  split
  · exact ⟨start.machine.log, rfl, rfl, rfl⟩
  · split
    · exact ⟨_, rfl, rfl, rfl⟩
    · exact ⟨start.machine.log, rfl, rfl, rfl⟩

/-- The messages that are queued in the course of one pass, each with the name of its file. -/
def queuedIn (world : Surroundings ε) (settings : Settings) (g : Gateway ε) :
    List (String × Outgoing) :=
  match poll g with
  | (.error _, _) => []
  | (.ok events, polled) => queuedFor (station world.launch) settings events polled

/-- What one pass makes of a gateway `g` whose spool lies in `home`, where `queued` are the messages
that it queues. -/
structure Passed (settings : Settings) (g after : Gateway (ε × List Action)) (home : Location)
    (queued : List (String × Outgoing)) : Prop where
  /-- The mail is what files of the inbox spell that are named as records and spell texts. -/
  texts : ∀ entry, entry ∈ g.mail ↔ isRecordName entry.1 = true ∧ ∃ octets executable modified,
    g.disk.find? (entry.1 :: "inbox" :: home) = some ⟨.file octets executable, modified⟩ ∧
    Incoming.shape.ofOctets octets = .ok entry.2 ∧ entry.2.format = .text
  /-- The mail is in the order of the names of its files. -/
  ordered : (g.mail.map Prod.fst).Pairwise (· < ·)
  /-- The launches are those that the mail asks for, in the order of the mail. -/
  launches : after.machine.outside.2 = g.machine.outside.2 ++
    g.mail.filterMap (fun entry => Action.ofCommand? settings (Command.parse entry.2.text))
  /-- Each text whose sender can be dialled gets one reply. -/
  replies : queued.map (fun entry => (⟨entry.2.destination, entry.2.text⟩ : Reply)) =
    (g.mail.filter (fun entry => isDialable entry.2.sender)).map
      (fun entry => ⟨entry.2.sender, (Command.parse entry.2.text).reply⟩)
  distinct : (queued.map Prod.fst).Nodup
  /-- The replies are new files of the outbox. -/
  files : ∀ entry ∈ queued, g.disk.find? (entry.1 :: "outbox" :: home) = none ∧ ∃ modified,
    after.disk.find? (entry.1 :: "outbox" :: home) = some ⟨.file entry.2.octets false, modified⟩
  /-- All else in the outbox stays. -/
  outbox : ∀ name ∉ queued.map Prod.fst,
    after.disk.find? (name :: "outbox" :: home) = g.disk.find? (name :: "outbox" :: home)
  /-- The mail is gone. -/
  mail : ∀ name ∈ g.mail.map Prod.fst, after.disk.find? (name :: "inbox" :: home) = none
  /-- Cast off is an entry that is named as a record, spells none, and was last changed a minute ago
  or before. -/
  stale : ∀ name, g.castsOff name ↔ isRecordName name = true ∧ ∃ node,
    g.disk.find? (name :: "inbox" :: home) = some node ∧
    (∀ octets executable record, node.content = .file octets executable →
      Incoming.shape.ofOctets octets ≠ .ok record) ∧
    graceNanos ≤ g.disk.now.toNanos - node.modified.toNanos
  /-- What is cast off is found among the rejected entries, with all below it. -/
  rejected : ∀ name, g.castsOff name → ∀ above,
    after.disk.find? (above ++ name :: "rejected" :: home) =
        g.disk.find? (above ++ name :: "inbox" :: home) ∧
      after.disk.find? (above ++ name :: "inbox" :: home) = none
  /-- All else in the inbox stays, with all below it. -/
  inbox : ∀ name ∉ g.mail.map Prod.fst, ¬ g.castsOff name → ∀ above,
    after.disk.find? (above ++ name :: "inbox" :: home) =
      g.disk.find? (above ++ name :: "inbox" :: home)
  subscriptions : after.spool.subscriptions = []

theorem actions_of_texts (settings : Settings) (messages : List Received) :
    messages.filterMap (fun message => message.record.action? settings) =
      ((messages.filter (fun message => message.record.format = .text)).map
        (fun message => (message.name, message.record))).filterMap
          (fun entry => Action.ofCommand? settings (Command.parse entry.2.text)) := by
  rw [List.filterMap_map, List.filterMap_filter]
  refine List.filterMap_congr (fun message _ => ?_)
  simp [Incoming.action?]

theorem replies_of_texts (messages : List Received) :
    messages.filterMap (fun message => message.record.reply?) =
      (((messages.filter (fun message => message.record.format = .text)).map
        (fun message => (message.name, message.record))).filter
          (fun entry => isDialable entry.2.sender)).map
            (fun entry => ⟨entry.2.sender, (Command.parse entry.2.text).reply⟩) := by
  induction messages with
  | nil => rfl
  | cons message messages ih =>
    rw [List.filterMap_cons, Incoming.reply?]
    by_cases hf : message.record.format = .text
    · by_cases hd : isDialable message.record.sender = true <;> simp [hf, hd, ih]
    · simp [hf, ih]

variable {ε : Type} {world : Surroundings ε} {settings : Settings} {g : Gateway (ε × List Action)}
  {base : String} {names : List String}

/-- A first pass settles the messages that it brings up, as long as no directory has the name of an
answer. -/
theorem pass_settles (hw : world.leavesSpool base) (hg : g.Waiting base) (hlook : g.goesWell)
    (hn : g.disk.recordNames g.spool.inbox = .ok names)
    (hfree : ∀ entry ∈ g.queuedIn world.recorded settings,
      g.disk.isDirectory (entry.1 :: "outbox" :: g.disk.homeOf base) = false) :
    ∃ events polled log, poll g = (.ok events, polled) ∧
      g.disk.Clears polled.disk (g.disk.homeOf base) g.castsOff ∧
      polled.spool.subscriptions = g.spool.subscriptions ∧
      polled.machine.outside = g.machine.outside ∧
      Settled base settings (polled.logged log)
        (attendAll (station world.recorded.launch) settings events polled).2
        (g.firstMessages names) (g.queuedIn world.recorded settings) ∧
      List.Forall₂ (fun entry handled => handled.Tells settings entry.2.record)
        (g.firstMessages names)
        ((attendAll (station world.recorded.launch) settings events polled).1.filterMap
          Attended.handled?) := by
  let st := station world.recorded.launch
  let polled := afterFiles names (g.listed names)
  let messages := g.firstMessages names
  have hpoll : poll g = (.ok (g.notices names ++ eventsOf messages), polled) :=
    poll_first hg hlook hn
  obtain ⟨hclears, hready, hsubscriptions, hreceived⟩ := look_first hg hlook hn
  have hhome : polled.disk.homeOf base = g.disk.homeOf base := hclears.toAlike.homeOf base
  -- The notices come first, and the messages after them.
  obtain ⟨log, hnotices, hunhandled, hnone⟩ :=
    attendAll_notices world.recorded.launch settings g names polled
  obtain ⟨hafter, hqueued⟩ := attendAll_append st settings (g.notices names) (eventsOf messages) polled
  rw [hnotices] at hafter hqueued
  rw [hnone, List.nil_append] at hqueued
  have hin : g.queuedIn world.recorded settings =
      queuedFor st settings (eventsOf messages) (polled.logged log) := by
    simp only [queuedIn, hpoll]
    exact hqueued
  have harrivals : messages.map Prod.snd = names.filterMap (g.listed names).arrival? :=
    Spool.map_snd_numbered _ _
  have hnamed : (messages.map (fun entry => entry.2.name)).Nodup := by
    have h := nodup_arrivals (Disk.nodup_recordNames hn) (g.listed names)
    rw [arrivals_listed hg.lies hlook hn, ← harrivals, List.map_map] at h
    exact h
  have hready' : (polled.logged log).Ready base := ⟨hready.lies, hready.bounded, hready.serves⟩
  refine ⟨_, polled, log, hpoll, hclears, hsubscriptions, afterFiles_outside _ _, ?_⟩
  rw [hafter, hin, List.filterMap_append, hunhandled, List.nil_append]
  refine attendAll_settled hw settings hready' messages (Spool.nodup_numbered _ _) hnamed hreceived
    (fun entry he _ => ?_) (fun entry he => ?_)
  · have h := find?_of_firstMessages hg hclears he
    rw [← hhome] at h
    exact h
  · rw [← hin] at he
    have h := (Disk.isDirectory_of_find? (hclears.outbox [] entry.1)).trans (hfree entry he)
    rw [← hhome] at h
    exact h

theorem pass_settled (hw : world.leavesSpool base) (hg : g.Waiting base) (hlook : g.goesWell)
    (hn : g.disk.recordNames g.spool.inbox = .ok names)
    (hvacant : ∀ entry ∈ g.queuedIn world.recorded settings,
      g.disk.find? (entry.1 :: "outbox" :: g.disk.homeOf base) = none) :
    ∃ events polled log, poll g = (.ok events, polled) ∧
      g.disk.Clears polled.disk (g.disk.homeOf base) g.castsOff ∧
      polled.spool.subscriptions = g.spool.subscriptions ∧
      polled.machine.outside = g.machine.outside ∧
      Settled base settings (polled.logged log)
        (attendAll (station world.recorded.launch) settings events polled).2
        (g.firstMessages names) (g.queuedIn world.recorded settings) := by
  obtain ⟨events, polled, log, hpoll, hclears, hsubscriptions, houtside, hsettled, -⟩ :=
    pass_settles hw hg hlook hn (fun entry he => Disk.isDirectory_of_none (hvacant entry he))
  exact ⟨events, polled, log, hpoll, hclears, hsubscriptions, houtside, hsettled⟩

theorem passed_of_settled (hg : g.Waiting base)
    (hn : g.disk.recordNames g.spool.inbox = .ok names) {looked after : Gateway (ε × List Action)}
    {queued : List (String × Outgoing)}
    (hclears : g.disk.Clears looked.disk (g.disk.homeOf base) g.castsOff)
    (houtside : looked.machine.outside = g.machine.outside)
    (hsettled : Settled base settings looked after (g.firstMessages names) queued)
    (hfree : ∀ entry ∈ queued,
      g.disk.find? (entry.1 :: "outbox" :: g.disk.homeOf base) = none) {first : Handle}
    (hsubscriptions : (after.ended first).spool.subscriptions = []) :
    Passed settings g (after.ended first) (g.disk.homeOf base) queued := by
  have hsettles := hsettled.settles
  rw [textFiles_firstMessages hg hn, hclears.toAlike.homeOf base] at hsettles
  have hcast : ∀ name, g.castsOff name → name ∉ g.mail.map Prod.fst := by
    intro name hc hm
    obtain ⟨entry, he, rfl⟩ := List.mem_map.1 hm
    obtain ⟨-, octets, executable, modified, hf, ho, -⟩ := (mem_mail_iff hg hn).1 he
    exact hc.2.1 ⟨entry.2, (readIncoming_of_waiting hg).2 ⟨octets, executable, modified, hf, ho⟩⟩
  refine ⟨fun _ => mem_mail_iff hg hn, mail_ascending hg hn, ?_, ?_, hsettled.distinct,
    fun entry he => ⟨hfree entry he, hsettles.files entry he⟩, fun name h => ?_, hsettles.gone,
    fun _ => castsOff_iff hg hn, fun name hc above => ?_, fun name h hc above => ?_,
    hsubscriptions⟩
  · change after.machine.outside.2 = _
    rw [hsettled.launches, houtside, ← texts_of_firstMessages hg hn, ← actions_of_texts,
      List.filterMap_map]
    rfl
  · rw [hsettled.replies, ← texts_of_firstMessages hg hn, ← replies_of_texts, List.filterMap_map]
    rfl
  · exact (hsettles.outbox name h).trans (hclears.outbox [] name)
  · obtain ⟨hfound, hgone⟩ := hclears.rejected name hc above
    exact ⟨(hsettles.rejected name above).trans hfound,
      (hsettles.inbox name (hcast name hc) above).trans hgone⟩
  · exact (hsettles.inbox name h above).trans (hclears.stayed name hc above).1

/-- One pass of a gateway that was just opened, on a medium that refuses nothing, with launches that
leave the spool alone and names for the replies that are free, ends well. The mail is answered,
acted upon and deleted, and what is cast off is found among the rejected entries. -/
theorem watch_once_passed (world : Surroundings ε) (settings : Settings) (limit : Nat)
    (before : Disk) (hrooted : before.rooted) (hsound : before.sound)
    (start : Gateway (ε × List Action))
    (hopen : Spool.start before settings = (.ok start.spool, start.disk))
    (hworld : world.leavesSpool settings.spoolDir) (hlook : start.begun.goesWell)
    (hfree : ∀ entry ∈ start.begun.queuedIn world.recorded settings,
      start.disk.find? (entry.1 :: "outbox" :: start.disk.homeOf settings.spoolDir) = none) :
    let watched := watch world.recorded settings true (limit + 1) {} start
    watched.1 = (.ended (.ok ()), {}) ∧
      Passed settings start.begun watched.2 (start.disk.homeOf settings.spoolDir)
        (start.begun.queuedIn world.recorded settings) := by
  have hspool := (Spool.start_ok hopen).1
  have hsubscribed : start.begun.spool =
      (((Spool.fresh settings).subscribe .messages).2.subscribe .storage).2 := by
    rw [← hspool]
    rfl
  have hg : start.begun.Waiting settings.spoolDir := by
    refine ⟨?_, Disk.serves_of_start hopen hrooted hsound, ?_, ?_, ?_, ?_⟩
    · rw [hsubscribed]
      exact ⟨rfl, rfl, rfl⟩
    · rw [hsubscribed]
      rfl
    · rw [hsubscribed]
      rfl
    · rw [hsubscribed]
      rfl
    · rw [hsubscribed]
      rfl
  obtain ⟨names, hn⟩ := recordNames_of_serves hg.lies hg.serves
  obtain ⟨events, polled, log, hpoll, hclears, hsubscriptions, houtside, hsettled⟩ :=
    pass_settled hworld hg hlook hn hfree
  dsimp only
  rw [watch_once world.recorded settings limit hpoll]
  have hcleared : start.begun.disk.Clears (polled.logged log).disk
      (start.begun.disk.homeOf settings.spoolDir) start.begun.castsOff := hclears
  refine ⟨rfl, passed_of_settled hg hn hcleared houtside hsettled hfree ?_⟩
  have hheld := hsettled.subscriptions.trans hsubscriptions
  rw [hsubscribed] at hheld
  simp only [ended, Spool.unsubscribe, hheld, hspool]
  rfl

/-- A gateway with a request to reboot in its inbox, and a file that is no record, replies and reboots,
and leaves the other file. -/
theorem watch_once_passed_reboot :
    let t := Time.Instant.ofSeconds 0
    let request := Incoming.octets ⟨"+64211234567", none, "REBOOT", .text⟩
    let before : Disk := (Disk.emptySpool.insert ["1.json", "inbox", "s"]
      ⟨.file request false, t⟩).insert ["notes", "inbox", "s"] ⟨.file [] false, t⟩
    let world : Surroundings Unit :=
      ⟨fun _ => pure ⟨[], .ok (.exited 0)⟩, fun _ => false, id⟩
    let start : Gateway (Unit × List Action) :=
      ⟨⟨(Spool.start before Settings.below).2, [], ((), [])⟩, Spool.fresh Settings.below⟩
    let after := (watch world.recorded Settings.below true 1 {} start).2
    let reply : Outgoing := ⟨"+64211234567", "Rebooting FX30", t⟩
    after.machine.outside.2 = [⟨Settings.below.rebootDir, ⟨Settings.below.rebootCommand, []⟩⟩] ∧
      (∃ modified, after.disk.find? [reply.fileName 4, "outbox", "s"] =
        some ⟨.file reply.octets false, modified⟩) ∧
      after.disk.find? ["1.json", "inbox", "s"] = none ∧
      after.disk.find? ["notes", "inbox", "s"] = some ⟨.file [] false, t⟩ ∧
      after.spool.subscriptions = [] := by
  intro t request before world start after reply
  have hnames : start.begun.disk.recordNames start.begun.spool.inbox = .ok ["1.json"] := by
    decide +kernel
  have hlook : start.begun.goesWell := by
    intro names hn
    rw [hnames] at hn
    cases hn
    have hl : (start.begun.listed ["1.json"]).spool.LiesIn "s" := by
      refine ⟨?_, ?_, ?_⟩ <;> decide +kernel
    refine ⟨holdsThrough_of_plain hl (by decide +kernel) ⟨["inbox", "s"], by decide +kernel⟩ _, ?_⟩
    intro name hm hr
    obtain rfl := List.mem_singleton.1 hm
    exact absurd hr.2.1 (by decide +kernel)
  obtain ⟨-, h⟩ := watch_once_passed world Settings.below 0 before (by decide +kernel)
    (fun _ _ => rfl) start (Spool.start_of_isOk (by decide +kernel))
    (fun _ _ => Disk.LeavesSpool.refl _ _) hlook (by decide +kernel)
  have hnotes := h.inbox "notes" (by decide +kernel) (by decide +kernel) []
  have hreply := (h.files (reply.fileName 4, reply) (by decide +kernel)).2
  exact ⟨h.launches.trans (by decide +kernel), hreply, h.mail "1.json" (by decide +kernel),
    hnotes.trans (by decide +kernel), h.subscriptions⟩

end Gateway

end BuoyGateway
