import BuoyGateway.Proofs.Spool.Session

/-!
# Sessions one after another

In a session the spool is opened, watched for one pass, and given up again; only the machine is left
for the next session. What waits in the inbox when a session ends are records of other formats than
texts, so every text is answered and acted upon in the first session after it came and in no other.
-/

namespace BuoyGateway

namespace Disk

/-- A record waits in the inbox of the spool in `home`, in a file of that name. -/
def Waits (disk : Disk) (home : Location) (entry : String × Incoming) : Prop :=
  isRecordName entry.1 = true ∧ ∃ octets, disk.holdsFile (entry.1 :: "inbox" :: home) octets ∧
    Incoming.shape.ofOctets octets = .ok entry.2

def Idle (disk : Disk) (home : Location) : Prop :=
  ∀ entry, disk.Waits home entry → entry.2.format ≠ .text

def Spells (files : List (String × List UInt8)) (entry : String × Incoming) : Prop :=
  isRecordName entry.1 = true ∧ ∃ octets, (entry.1, octets) ∈ files ∧
    Incoming.shape.ofOctets octets = .ok entry.2

/-- The files are put into the inbox of the spool in `home`, and all other files there stay. -/
structure Receives (disk disk' : Disk) (home : Location) (files : List (String × List UInt8)) :
    Prop where
  current : disk'.current = disk.current
  others : ∀ name ∉ files.map Prod.fst, ∀ octets,
    disk'.holdsFile (name :: "inbox" :: home) octets ↔ disk.holdsFile (name :: "inbox" :: home) octets
  files : ∀ file ∈ files, disk'.holdsFile (file.1 :: "inbox" :: home) file.2

variable {disk disk' : Disk} {home : Location} {name : String} {record record' : Incoming}
  {files : List (String × List UInt8)}

theorem holdsFile.unique {loc : Location} {octets octets' : List UInt8}
    (h : disk.holdsFile loc octets) (h' : disk.holdsFile loc octets') : octets = octets' := by
  obtain ⟨executable, modified, hf⟩ := h
  obtain ⟨executable', modified', hf'⟩ := h'
  rw [hf] at hf'
  cases hf'
  rfl

theorem Waits.unique (h : disk.Waits home (name, record)) (h' : disk.Waits home (name, record')) :
    record = record' := by
  obtain ⟨-, octets, hf, ho⟩ := h
  obtain ⟨-, octets', hf', ho'⟩ := h'
  rw [hf.unique hf'] at ho
  exact Except.ok.inj (ho.symm.trans ho')

theorem waits_congr (h : ∀ octets, disk'.holdsFile (name :: "inbox" :: home) octets ↔
    disk.holdsFile (name :: "inbox" :: home) octets) :
    disk'.Waits home (name, record) ↔ disk.Waits home (name, record) := by
  simp only [Waits, h]

theorem not_waits_of_none (h : disk.find? (name :: "inbox" :: home) = none) :
    ¬ disk.Waits home (name, record) := by
  rintro ⟨-, octets, ⟨executable, modified, hf⟩, -⟩
  rw [h] at hf
  cases hf

theorem Receives.homeOf (h : disk.Receives disk' home files) (base : String) :
    disk'.homeOf base = disk.homeOf base := by
  simp only [Disk.homeOf, origin, h.current]

theorem receives_insert (disk : Disk) (home : Location) (name : String) (octets : List UInt8)
    (modified : Time.Instant) :
    disk.Receives (disk.insert (name :: "inbox" :: home) ⟨.file octets false, modified⟩) home
      [(name, octets)] := by
  have hne : name :: "inbox" :: home ≠ [] := List.cons_ne_nil _ _
  refine ⟨rfl, fun other ho _ => holdsFile_congr ?_, fun file hf => ?_⟩
  · rw [find?_insert _ _ hne, if_neg (by simpa using ho)]
  · obtain rfl := List.mem_singleton.1 hf
    exact ⟨false, modified, by rw [find?_insert _ _ hne, if_pos rfl]⟩

/-- The texts that wait once files have come where no text waited are those that the files spell. -/
theorem Receives.texts (h : disk.Receives disk' home files) (hidle : disk.Idle home)
    (entry : String × Incoming) :
    disk'.Waits home entry ∧ entry.2.format = .text ↔
      Spells files entry ∧ entry.2.format = .text := by
  obtain ⟨name, record⟩ := entry
  refine and_congr_left (fun hf => and_congr_right (fun hr => exists_congr (fun octets => ?_)))
  refine and_congr_left (fun ho => ⟨fun hfile => ?_, fun hm => h.files _ hm⟩)
  by_cases hm : name ∈ files.map Prod.fst
  · obtain ⟨file, hmem, rfl⟩ := List.mem_map.1 hm
    rw [hfile.unique (h.files file hmem)]
    exact hmem
  · exact absurd hf (hidle (name, record) ⟨hr, octets, (h.others name hm octets).1 hfile, ho⟩)

end Disk

def Machine.gateway {ε : Type} (machine : Machine ε) (disk : Disk) (spool : Spool) :
    Gateway (ε × List Action) :=
  ⟨⟨disk, machine.log, (machine.outside, [])⟩, spool⟩

namespace Gateway

structure Session (ε : Type) where
  watched : Watched
  handled : List Handled
  launched : List Action
  machine : Machine ε

variable {ε : Type}

def Session.sent (s : Session ε) : List Reply := s.handled.filterMap Handled.sent?

def handledIn (st : Station (Gateway ε)) (settings : Settings) (g : Gateway ε) :
    List Handled :=
  match (pass st settings g).1 with
  | .ok attended => attended.filterMap Attended.handled?
  | .error _ => []

def session (world : Surroundings ε) (settings : Settings) (machine : Machine ε) : Session ε :=
  match Spool.start machine.disk settings with
  | (.error e, disk) => ⟨.ended (.error e), [], [], { machine with disk }⟩
  | (.ok spool, disk) =>
    let g := machine.gateway disk spool
    let ((watched, _), after) := watch world.recorded settings true 1 {} g
    ⟨watched, g.begun.handledIn (station world.recorded.launch) settings,
      after.machine.outside.2, after.machine.unrecorded⟩

/-- Nothing that a session does with its disk fails: every entry lies in a directory, the medium refuses
nothing, the spool can be opened, the look goes well, and no directory has the name of an answer. -/
structure FaresWell (world : Surroundings ε) (settings : Settings) (machine : Machine ε) : Prop where
  rooted : machine.disk.rooted
  sound : machine.disk.sound
  opens : (Spool.start machine.disk settings).1.isOk = true
  looks : (machine.gateway (Spool.start machine.disk settings).2
    (Spool.fresh settings)).begun.goesWell
  free : ∀ entry ∈ (machine.gateway (Spool.start machine.disk settings).2
      (Spool.fresh settings)).begun.queuedIn world.recorded settings,
    (Spool.start machine.disk settings).2.isDirectory
      (entry.1 :: "outbox" :: machine.disk.homeOf settings.spoolDir) = false

/-- What a session makes of the records that wait in the inbox on the disk `before`, where `answers`
are the messages that it queues. -/
structure Session.Meets (settings : Settings) (before : Disk) (home : Location)
    (records : List (String × Incoming)) (answers : List (String × Outgoing)) (s : Session ε) :
    Prop where
  ended : s.watched = .ended (.ok ())
  /-- The records are all that wait, in the order of the names of their files. -/
  waiting : ∀ entry, entry ∈ records ↔ before.Waits home entry
  ordered : (records.map Prod.fst).Pairwise (· < ·)
  handled : List.Forall₂ (fun entry handled => handled.Tells settings entry.2) records s.handled
  sent : s.sent = records.filterMap (fun entry => entry.2.reply?)
  launched : s.launched = records.filterMap (fun entry => entry.2.action? settings)
  /-- Each reply that was sent is a file of the outbox, and all other files there stay. -/
  queued : answers.map (fun entry => (⟨entry.2.destination, entry.2.text⟩ : Reply)) = s.sent
  distinct : (answers.map Prod.fst).Nodup
  files : ∀ entry ∈ answers, s.machine.disk.holdsFile (entry.1 :: "outbox" :: home) entry.2.octets
  outbox : ∀ name ∉ answers.map Prod.fst, ∀ octets,
    s.machine.disk.holdsFile (name :: "outbox" :: home) octets ↔
      before.holdsFile (name :: "outbox" :: home) octets
  /-- The records of other formats still wait. -/
  left : ∀ entry, s.machine.disk.Waits home entry ↔
    before.Waits home entry ∧ entry.2.format ≠ .text
  current : s.machine.disk.current = before.current
  /-- The spool is still at hand. -/
  serves : s.machine.disk.Serves settings.spoolDir

theorem Session.Meets.homeOf {settings : Settings} {before : Disk} {home : Location}
    {records : List (String × Incoming)} {answers : List (String × Outgoing)} {s : Session ε}
    (h : s.Meets settings before home records answers) (base : String) :
    s.machine.disk.homeOf base = before.homeOf base := by
  simp only [Disk.homeOf, Disk.origin, h.current]

theorem Session.Meets.idle {settings : Settings} {before : Disk} {home : Location}
    {records : List (String × Incoming)} {answers : List (String × Outgoing)} {s : Session ε}
    (h : s.Meets settings before home records answers) : s.machine.disk.Idle home :=
  fun entry hw => ((h.left entry).1 hw).2

/-! ### One session -/

variable {g : Gateway ε} {base : String} {names : List String}

theorem mem_records_iff_waits (hg : g.Waiting base)
    (hn : g.disk.recordNames g.spool.inbox = .ok names) (entry : String × Incoming) :
    entry ∈ g.records names ↔ g.disk.Waits (g.disk.homeOf base) entry := by
  rw [mem_records hg hn]
  constructor
  · rintro ⟨hr, octets, executable, modified, hf, ho⟩
    exact ⟨hr, octets, ⟨executable, modified, hf⟩, ho⟩
  · rintro ⟨hr, octets, ⟨executable, modified, hf⟩, ho⟩
    exact ⟨hr, octets, executable, modified, hf, ho⟩

theorem sent_of_tells {settings : Settings} {records : List (String × Incoming)}
    {handled : List Handled}
    (h : List.Forall₂ (fun entry handled => handled.Tells settings entry.2) records handled) :
    handled.filterMap Handled.sent? = records.filterMap (fun entry => entry.2.reply?) := by
  induction h with
  | nil => rfl
  | cons htells _ ih => rw [List.filterMap_cons, List.filterMap_cons, htells.sent, ih]

/-- A session that fares well makes one pass, and what the pass leaves is what the session leaves. -/
theorem session_eq {world : Surroundings ε} {settings : Settings} {machine : Machine ε}
    (hopens : (Spool.start machine.disk settings).1.isOk = true) {events : List Event}
    {polled : Gateway (ε × List Action)}
    (h : poll (machine.gateway (Spool.start machine.disk settings).2
      (Spool.fresh settings)).begun = (.ok events, polled)) :
    let attended := attendAll (station world.recorded.launch) settings events polled
    session world settings machine = ⟨.ended (.ok ()), attended.1.filterMap Attended.handled?,
      attended.2.machine.outside.2, attended.2.machine.unrecorded⟩ := by
  intro attended
  have hhandled : (machine.gateway (Spool.start machine.disk settings).2
      (Spool.fresh settings)).begun.handledIn (station world.recorded.launch) settings =
        attended.1.filterMap Attended.handled? := by
    simp only [handledIn, pass]
    rw [bind_of_eq h]
    rfl
  have hwatch := watch_once world.recorded settings 0 h
  rw [session, Spool.start_of_isOk hopens]
  dsimp only
  rw [hwatch, hhandled]
  rfl

variable {world : Surroundings ε} {settings : Settings} {machine : Machine ε}

/-- A session finds only records under the names that it looks at, in a spool whose path never
climbs. -/
def FindsRecords (world : Surroundings ε) (settings : Settings) (machine : Machine ε)
    (names : List String) : Prop :=
  let opened := Spool.start machine.disk settings
  let g := (machine.gateway opened.2 (Spool.fresh settings)).begun
  machine.disk.rooted ∧ opened.1.isOk = true ∧ ".." ∉ Path.steps settings.spoolDir ∧
    g.disk.recordNames g.spool.inbox = .ok names ∧ (∀ name ∈ names, g.reads name) ∧
    ∀ entry ∈ g.queuedIn world.recorded settings,
      opened.2.isDirectory (entry.1 :: "outbox" :: machine.disk.homeOf settings.spoolDir) = false

instance (world : Surroundings ε) (settings : Settings) (machine : Machine ε) (names : List String) :
    Decidable (FindsRecords world settings machine names) :=
  inferInstanceAs (Decidable (_ ∧ _ ∧ _ ∧ _ ∧ _ ∧ _))

theorem FindsRecords.faresWell (h : FindsRecords world settings machine names)
    (hsound : machine.disk.sound) : FaresWell world settings machine := by
  obtain ⟨hrooted, hopens, hplain, hn, hreads, hfree⟩ := h
  have hinbox := (Spool.start_ok (Spool.start_of_isOk hopens)).2.2.2.1
  exact ⟨hrooted, hsound, hopens, goesWell_of_reads ⟨rfl, rfl, rfl⟩ hplain hinbox hn hreads, hfree⟩

theorem begun_waiting (hf : FaresWell world settings machine) :
    (machine.gateway (Spool.start machine.disk settings).2
      (Spool.fresh settings)).begun.Waiting settings.spoolDir :=
  ⟨⟨rfl, rfl, rfl⟩, Disk.serves_of_start (Spool.start_of_isOk hf.opens) hf.rooted hf.sound, rfl, rfl,
    rfl, rfl⟩

theorem mem_textFiles {name : String} : name ∈ textFiles ((g.firstMessages names).map Prod.snd) ↔
    ∃ record, (name, record) ∈ g.records names ∧ record.format = .text := by
  simp only [textFiles, records, List.mem_map, List.mem_filter, decide_eq_true_eq, Prod.mk.injEq]
  constructor
  · rintro ⟨message, ⟨⟨entry, he, rfl⟩, hf⟩, rfl⟩
    exact ⟨_, ⟨entry, he, rfl, rfl⟩, hf⟩
  · rintro ⟨_, ⟨entry, he, rfl, rfl⟩, hf⟩
    exact ⟨entry.2, ⟨⟨entry, he, rfl⟩, hf⟩, rfl⟩

theorem left_of_settled {g looked after : Gateway (ε × List Action)} (hg : g.Waiting base)
    (hn : g.disk.recordNames g.spool.inbox = .ok names)
    (hclears : g.disk.Clears looked.disk (g.disk.homeOf base) g.castsOff)
    {answers : List (String × Outgoing)}
    (hsettles : looked.disk.Settles after.disk (g.disk.homeOf base)
      (textFiles ((g.firstMessages names).map Prod.snd)) answers) (entry : String × Incoming) :
    after.disk.Waits (g.disk.homeOf base) entry ↔
      g.disk.Waits (g.disk.homeOf base) entry ∧ entry.2.format ≠ .text := by
  obtain ⟨name, record⟩ := entry
  by_cases ht : name ∈ textFiles ((g.firstMessages names).map Prod.snd)
  · obtain ⟨record', hr', hf'⟩ := mem_textFiles.1 ht
    have hw' := (mem_records_iff_waits hg hn _).1 hr'
    refine iff_of_false (Disk.not_waits_of_none (hsettles.gone name ht)) ?_
    rintro ⟨hw, hf⟩
    rw [hw.unique hw'] at hf
    exact hf hf'
  · have hafter := hsettles.inbox name ht []
    by_cases hc : g.castsOff name
    · refine iff_of_false
        (Disk.not_waits_of_none (hafter.trans (hclears.rejected name hc []).2)) ?_
      rintro ⟨⟨-, octets, ⟨executable, modified, hf⟩, ho⟩, -⟩
      exact hc.2.1 ⟨record, (readIncoming_of_waiting hg).2 ⟨octets, executable, modified, hf, ho⟩⟩
    · have hsame := hafter.trans (hclears.stayed name hc []).1
      rw [Disk.waits_congr (fun _ => Disk.holdsFile_congr hsame)]
      refine ⟨fun hw => ⟨hw, fun hf => ht ?_⟩, And.left⟩
      exact mem_textFiles.2 ⟨record, (mem_records_iff_waits hg hn _).2 hw, hf⟩

/-- A session that fares well deals with all records that wait. -/
theorem session_meets (hw : world.leavesSpool settings.spoolDir)
    (hf : FaresWell world settings machine) : ∃ records answers,
      (session world settings machine).Meets settings machine.disk
        (machine.disk.homeOf settings.spoolDir) records answers := by
  have hg := begun_waiting hf
  obtain ⟨names, hn⟩ := recordNames_of_serves hg.lies hg.serves
  have hgrows := (Spool.start_ok (Spool.start_of_isOk hf.opens)).2.1
  have hhome := hgrows.toAlike.homeOf settings.spoolDir
  let g := (machine.gateway (Spool.start machine.disk settings).2 (Spool.fresh settings)).begun
  have hghome : g.disk.homeOf settings.spoolDir = machine.disk.homeOf settings.spoolDir := hhome
  obtain ⟨events, polled, log, hpoll, hclears, -, houtside, hsettled, htells⟩ :=
    pass_settles hw hg hf.looks hn (by rw [hghome]; exact hf.free)
  have hsettles := hsettled.settles
  have hlooked : (polled.logged log).disk.homeOf settings.spoolDir =
      g.disk.homeOf settings.spoolDir := hclears.toAlike.homeOf _
  rw [hlooked] at hsettles
  have hsame : ∀ entry, g.disk.Waits (g.disk.homeOf settings.spoolDir) entry ↔
      machine.disk.Waits (g.disk.homeOf settings.spoolDir) entry :=
    fun entry => Disk.waits_congr (hgrows.files _)
  have htold : List.Forall₂ (fun entry handled => handled.Tells settings entry.2) (g.records names)
      ((attendAll (station world.recorded.launch) settings events polled).1.filterMap
        Attended.handled?) := List.forall₂_map_left_iff.2 htells
  rw [session_eq hf.opens hpoll]
  refine ⟨g.records names, g.queuedIn world.recorded settings, ?_⟩
  rw [← hghome]
  refine ⟨rfl, fun entry => (mem_records_iff_waits hg hn entry).trans (hsame entry),
    records_ascending hg hn, htold, sent_of_tells htold, ?_, ?_, hsettled.distinct,
    fun entry he => ?_, fun name hname octets => ?_, fun entry => ?_, ?_, hsettled.ready.serves⟩
  · rw [records, List.filterMap_map]
    refine hsettled.launches.trans ?_
    have hnone : (polled.logged log).machine.outside.2 = [] := congrArg Prod.snd houtside
    rw [hnone]
    rfl
  · rw [Session.sent, sent_of_tells htold, records, List.filterMap_map]
    exact hsettled.replies
  · obtain ⟨modified, hfile⟩ := hsettles.files entry he
    exact ⟨false, modified, hfile⟩
  · have h := (hsettles.outbox name hname).trans (hclears.outbox [] name)
    exact (Disk.holdsFile_congr h).trans (hgrows.files _ octets)
  · exact (left_of_settled hg hn hclears hsettles entry).trans (and_congr_left' (hsame entry))
  · exact (hsettles.current.trans hclears.current).trans hgrows.current

theorem session_sound (hw : world.leavesSpool settings.spoolDir)
    (hf : FaresWell world settings machine) :
    (session world settings machine).machine.disk.sound := by
  obtain ⟨_, _, hmeets⟩ := session_meets hw hf
  exact hmeets.serves.sound

/-! ### All sessions -/

/-- What happens between two sessions: files are put into the inbox, among other things. -/
structure Interval (ε : Type) where
  files : List (String × List UInt8)
  change : Machine ε → Machine ε

def afterAll (world : Surroundings ε) (settings : Settings) :
    List (Interval ε) → Machine ε → Machine ε
  | [], machine => machine
  | i :: intervals, machine =>
    afterAll world settings intervals (session world settings (i.change machine)).machine

/-- In each interval nothing but its files comes into the inbox, and the session that follows it
fares well. -/
def AllFareWell (world : Surroundings ε) (settings : Settings) :
    List (Interval ε) → Machine ε → Prop
  | [], _ => True
  | i :: intervals, machine =>
    machine.disk.Receives (i.change machine).disk (machine.disk.homeOf settings.spoolDir) i.files ∧
      FaresWell world settings (i.change machine) ∧
      AllFareWell world settings intervals (session world settings (i.change machine)).machine

variable {home : Location} {records : List (String × Incoming)}
  {answers : List (String × Outgoing)} {disk : Disk} {s : Session ε}

/-- A session that meets no texts launches nothing and sends nothing. -/
theorem Session.Meets.quiet (h : s.Meets settings disk home records answers)
    (hnone : ∀ entry ∈ records, entry.2.format ≠ .text) : s.launched = [] ∧ s.sent = [] ∧
      ∀ name octets, s.machine.disk.holdsFile (name :: "outbox" :: home) octets ↔
        disk.holdsFile (name :: "outbox" :: home) octets := by
  have hsent : s.sent = [] := by
    rw [h.sent, List.filterMap_eq_nil_iff]
    intro entry he
    simp [Incoming.reply?, hnone entry he]
  have hqueued := h.queued
  rw [hsent, List.map_eq_nil_iff] at hqueued
  refine ⟨?_, hsent, fun name => h.outbox name (by simp [hqueued])⟩
  rw [h.launched, List.filterMap_eq_nil_iff]
  intro entry he
  simp [Incoming.action?, hnone entry he]

/-- No text waits after sessions that fare well. -/
theorem afterAll_idle (hw : world.leavesSpool settings.spoolDir) {intervals : List (Interval ε)}
    (hall : AllFareWell world settings intervals machine)
    (hidle : machine.disk.Idle (machine.disk.homeOf settings.spoolDir)) :
    (afterAll world settings intervals machine).disk.homeOf settings.spoolDir =
        machine.disk.homeOf settings.spoolDir ∧
      (afterAll world settings intervals machine).disk.Idle
        (machine.disk.homeOf settings.spoolDir) := by
  induction intervals generalizing machine with
  | nil => exact ⟨rfl, hidle⟩
  | cons i intervals ih =>
    obtain ⟨hreceives, hwell, hrest⟩ := hall
    obtain ⟨records, answers, hmeets⟩ := session_meets hw hwell
    have hhome := (hmeets.homeOf settings.spoolDir).trans (hreceives.homeOf settings.spoolDir)
    have hafter := ih hrest (by rw [hmeets.homeOf]; exact hmeets.idle)
    rw [hhome] at hafter
    exact hafter

theorem allFareWell_append {before after : List (Interval ε)} :
    AllFareWell world settings (before ++ after) machine ↔
      AllFareWell world settings before machine ∧
        AllFareWell world settings after (afterAll world settings before machine) := by
  induction before generalizing machine with
  | nil => simp [AllFareWell, afterAll]
  | cons i before ih => simp only [List.cons_append, AllFareWell, afterAll, ih, and_assoc]

/-- However often the gateway is started anew, and whatever was in its spool at first: a session deals
with the texts that came since the session before, and with no others. Each of them gets one reply, if
its sender can be dialled, and one launch, if its command has an action. A session before which no text
came launches nothing and sends nothing, though records of other formats may still wait. -/
theorem sessions_exactly_once (world : Surroundings ε) (settings : Settings) (machine : Machine ε)
    (intervals : List (Interval ε)) (hw : world.leavesSpool settings.spoolDir)
    (hfirst : FaresWell world settings machine)
    (hall : AllFareWell world settings intervals (session world settings machine).machine) :
    let home := machine.disk.homeOf settings.spoolDir
    (∃ records answers,
        (session world settings machine).Meets settings machine.disk home records answers) ∧
      ∀ before i after, intervals = before ++ i :: after →
        let start := i.change (afterAll world settings before (session world settings machine).machine)
        let s := session world settings start
        (∃ records answers, s.Meets settings start.disk home records answers ∧
          ∀ entry, entry ∈ records ∧ entry.2.format = .text ↔
            Disk.Spells i.files entry ∧ entry.2.format = .text) ∧
        ((∀ entry, Disk.Spells i.files entry → entry.2.format ≠ .text) →
          s.launched = [] ∧ s.sent = [] ∧
            ∀ name octets, s.machine.disk.holdsFile (name :: "outbox" :: home) octets ↔
              start.disk.holdsFile (name :: "outbox" :: home) octets) := by
  intro home
  obtain ⟨records, answers, hmeets⟩ := session_meets hw hfirst
  refine ⟨⟨records, answers, hmeets⟩, ?_⟩
  rintro before i after rfl
  intro start s
  obtain ⟨hbefore, hreceives, hwell, -⟩ := allFareWell_append.1 hall
  obtain ⟨hhome, hidle⟩ := afterAll_idle hw hbefore (by rw [hmeets.homeOf]; exact hmeets.idle)
  rw [hmeets.homeOf] at hhome hidle
  rw [hhome] at hreceives
  obtain ⟨records, answers, hs⟩ := session_meets hw hwell
  have hstart : start.disk.homeOf settings.spoolDir = home := (hreceives.homeOf _).trans hhome
  rw [hstart] at hs
  have htexts : ∀ entry, entry ∈ records ∧ entry.2.format = .text ↔
      Disk.Spells i.files entry ∧ entry.2.format = .text := by
    intro entry
    rw [hs.waiting]
    exact hreceives.texts hidle entry
  refine ⟨⟨records, answers, hs, htexts⟩, fun hnone => hs.quiet (fun entry he hf => ?_)⟩
  exact hnone entry ((htexts entry).1 ⟨he, hf⟩).1 hf

/-- A request to reboot is met by the session after it came. The next session launches nothing, and
another request in a file of the same name is met again. -/
theorem sessions_exactly_once_reboot :
    let record : Incoming := ⟨"+64211234567", none, "REBOOT", .text⟩
    let put : Machine Unit → Machine Unit := fun machine => machine.withMail "1.json" record
    let world : Surroundings Unit := ⟨fun _ => pure ⟨[], .ok (.exited 0)⟩, fun _ => false, id⟩
    let first := session world Settings.below (put ⟨Disk.emptySpool, [], ()⟩)
    let second := session world Settings.below first.machine
    let third := session world Settings.below (put second.machine)
    let reboot : Action := ⟨Settings.below.rebootDir, ⟨Settings.below.rebootCommand, []⟩⟩
    let reply : Reply := ⟨"+64211234567", "Rebooting FX30"⟩
    (second.launched = [] ∧ second.sent = []) ∧ reboot ∈ third.launched ∧ reply ∈ third.sent := by
  intro record put world first second third reboot reply
  let quiet : Interval Unit := ⟨[], id⟩
  let again : Interval Unit := ⟨[("1.json", record.octets)], put⟩
  have hworld : world.leavesSpool Settings.below.spoolDir := fun _ _ => Disk.LeavesSpool.refl _ _
  have hfirst : FaresWell world Settings.below (put ⟨Disk.emptySpool, [], ()⟩) :=
    (show FindsRecords world Settings.below _ ["1.json"] by decide +kernel).faresWell
      (fun _ _ => rfl)
  have hsound : first.machine.disk.sound := by
    simp only [first]
    exact session_sound hworld hfirst
  have hsecond : FaresWell world Settings.below first.machine :=
    (show FindsRecords world Settings.below _ [] by decide +kernel).faresWell hsound
  have hsound' : second.machine.disk.sound := by
    simp only [second]
    exact session_sound hworld hsecond
  have hput : (put second.machine).disk.sound := (Disk.alike_insert _ _ _).sound hsound'
  have hthird : FaresWell world Settings.below (put second.machine) :=
    (show FindsRecords world Settings.below _ ["1.json"] by decide +kernel).faresWell hput
  have hreceives : second.machine.disk.Receives (put second.machine).disk
      (second.machine.disk.homeOf Settings.below.spoolDir) again.files := by
    have hhome : second.machine.disk.homeOf Settings.below.spoolDir = ["s"] := by decide +kernel
    rw [hhome]
    exact Disk.receives_insert second.machine.disk ["s"] "1.json" record.octets
      second.machine.disk.now
  have hall : AllFareWell world Settings.below [quiet, again] first.machine := by
    simp only [AllFareWell, quiet, again, id_eq]
    exact ⟨⟨rfl, fun _ _ _ => Iff.rfl, by simp⟩, hsecond, hreceives, hthird, trivial⟩
  obtain ⟨-, hsessions⟩ :=
    sessions_exactly_once world Settings.below _ [quiet, again] hworld hfirst hall
  obtain ⟨-, hquiet⟩ := hsessions [] quiet [again] rfl
  obtain ⟨⟨records, answers, hmeets, htexts⟩, -⟩ := hsessions [quiet] again [] rfl
  have hmem : ("1.json", record) ∈ records :=
    ((htexts ("1.json", record)).2 ⟨⟨by decide +kernel, record.octets, List.mem_singleton.2 rfl,
      by decide +kernel⟩, rfl⟩).1
  obtain ⟨hlaunched, hsent, -⟩ := hquiet (fun entry h => by simp [quiet, Disk.Spells] at h)
  have haction : reboot ∈ records.filterMap (fun entry => entry.2.action? Settings.below) :=
    List.mem_filterMap.2 ⟨_, hmem, by decide +kernel⟩
  have hreply : reply ∈ records.filterMap (fun entry => entry.2.reply?) :=
    List.mem_filterMap.2 ⟨_, hmem, by decide +kernel⟩
  rw [← hmeets.launched] at haction
  rw [← hmeets.sent] at hreply
  simp only [afterAll, quiet, again, id_eq] at hlaunched hsent haction hreply
  simp only [third, second, first]
  exact ⟨⟨hlaunched, hsent⟩, haction, hreply⟩

end Gateway

end BuoyGateway
