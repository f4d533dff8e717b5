import Mathlib.Data.List.Forall2
import Mathlib.Data.List.Induction
import BuoyGateway.Proofs.Spool.Answering

/-!
# Attending to the messages of a look

`Settled` relates a gateway to what becomes of it while it attends to messages. Handling one message
settles it, and what settles some messages and then more settles them all, since every answer gets a
higher number than those before it.
-/

namespace BuoyGateway

def Attended.handled? : Attended → Option Handled
  | .handled said => some said
  | .full _ => none

theorem Spool.received?_release (spool : Spool) {ref other : Ref} (hne : other ≠ ref) :
    (spool.release ref).received? other = spool.received? other := by
  simp only [received?, release]
  induction spool.received with
  | nil => rfl
  | cons entry entries ih =>
    obtain ⟨number, message⟩ := entry
    by_cases h : number = ref
    · subst h
      have hother : (other == number) = false := beq_false_of_ne hne
      simp [ih, List.lookup_cons, hother]
    · simp [h, ih, List.lookup_cons]

namespace Gateway

variable {ε : Type} {world : Surroundings ε} {g : Gateway (ε × List Action)} {ref : Ref}
  {message : Received} {base : String} {settings : Settings}

structure Ready (base : String) (g : Gateway ε) : Prop where
  lies : g.spool.LiesIn base
  bounded : g.spool.Bounded
  serves : g.disk.Serves base

/-- What attending to messages makes of a gateway: the files of the texts are gone, the messages
that answer them are queued, each under a new number, and the actions that they ask for have been
launched in their order. -/
structure Settled (base : String) (settings : Settings) (g g' : Gateway (ε × List Action))
    (messages : List (Ref × Received)) (queued : List (String × Outgoing)) : Prop where
  ready : g'.Ready base
  settles : g.disk.Settles g'.disk (g.disk.homeOf base) (textFiles (messages.map Prod.snd)) queued
  launches : g'.machine.outside.2 = g.machine.outside.2 ++
    messages.filterMap (fun entry => entry.2.record.action? settings)
  replies : queued.map (fun entry => (⟨entry.2.destination, entry.2.text⟩ : Reply)) =
    messages.filterMap (fun entry => entry.2.record.reply?)
  subscriptions : g'.spool.subscriptions = g.spool.subscriptions
  last : g.spool.lastId ≤ g'.spool.lastId
  distinct : (queued.map Prod.fst).Nodup
  numbers : ∀ entry ∈ queued, ∃ ref, g.spool.lastId < ref ∧ ref ≤ g'.spool.lastId ∧
    entry.1 = entry.2.fileName ref
  others : ∀ ref ∉ messages.map Prod.fst, g'.spool.received? ref = g.spool.received? ref

theorem Settled.refl (hg : g.Ready base) : Settled base settings g g [] [] :=
  ⟨hg, Disk.Settles.refl g.disk _, (List.append_nil _).symm, rfl, rfl, Nat.le_refl _,
    List.nodup_nil, fun _ he => absurd he List.not_mem_nil, fun _ _ => rfl⟩

theorem Settled.trans {a b c : Gateway (ε × List Action)}
    {messages messages' : List (Ref × Received)} {queued queued' : List (String × Outgoing)}
    (h₁ : Settled base settings a b messages queued)
    (h₂ : Settled base settings b c messages' queued') :
    Settled base settings a c (messages ++ messages') (queued ++ queued') := by
  have hsettles := h₂.settles
  rw [h₁.settles.homeOf base] at hsettles
  -- Later messages have higher numbers, and so other names.
  have hdistinct : ∀ entry ∈ queued, entry.1 ∉ queued'.map Prod.fst := by
    intro entry he hm
    obtain ⟨entry', he', hname⟩ := List.mem_map.1 hm
    obtain ⟨ref, -, hle, hn⟩ := h₁.numbers entry he
    obtain ⟨ref', hlt, -, hn'⟩ := h₂.numbers entry' he'
    rw [hn', hn] at hname
    have heq := Outgoing.fileName_inj hname
    rw [heq] at hlt
    exact Nat.lt_irrefl _ (Nat.lt_of_lt_of_le hlt hle)
  refine ⟨h₂.ready, ?_, ?_, ?_, h₂.subscriptions.trans h₁.subscriptions,
    Nat.le_trans h₁.last h₂.last, ?_, ?_, ?_⟩
  · have h := h₁.settles.trans hsettles hdistinct
    rwa [← textFiles_append, ← List.map_append] at h
  · rw [h₂.launches, h₁.launches, List.append_assoc, ← List.filterMap_append]
  · rw [List.map_append, h₁.replies, h₂.replies, ← List.filterMap_append]
  · rw [List.map_append, List.nodup_append]
    refine ⟨h₁.distinct, h₂.distinct, ?_⟩
    rintro _ hm _ hm' rfl
    obtain ⟨entry, he, rfl⟩ := List.mem_map.1 hm
    exact hdistinct entry he hm'
  · intro entry he
    rcases List.mem_append.1 he with h | h
    · obtain ⟨ref, hlt, hle, hn⟩ := h₁.numbers entry h
      exact ⟨ref, hlt, Nat.le_trans hle h₂.last, hn⟩
    · obtain ⟨ref, hlt, hle, hn⟩ := h₂.numbers entry h
      exact ⟨ref, Nat.lt_of_le_of_lt h₁.last hlt, hle, hn⟩
  · intro ref hr
    rw [List.map_append, List.mem_append, not_or] at hr
    exact (h₂.others ref hr.2).trans (h₁.others ref hr.1)

variable {g' : Gateway (ε × List Action)} {messages : List (Ref × Received)}
  {queued : List (String × Outgoing)}

/-- The file of a message that is not among those that were attended to stays. -/
theorem Settled.find?_inbox (h : Settled base settings g g' messages queued) {name : String}
    (hn : name ∉ messages.map (fun entry => entry.2.name)) :
    g'.disk.find? (name :: "inbox" :: g'.disk.homeOf base) =
      g.disk.find? (name :: "inbox" :: g.disk.homeOf base) := by
  rw [h.settles.homeOf base]
  refine h.settles.inbox name (fun hm => hn ?_) []
  obtain ⟨message, hmessage, rfl⟩ := List.mem_map.1 hm
  obtain ⟨entry, he, rfl⟩ := List.mem_map.1 (List.mem_filter.1 hmessage).1
  exact List.mem_map.2 ⟨entry, he, rfl⟩

/-- The name of the next answer is none of those that were given to answers before. -/
theorem Settled.isDirectory_answer (h : Settled base settings g g' messages queued)
    {entry : String × Outgoing} (he : entry ∈ g'.answer? ref) :
    g'.disk.isDirectory (entry.1 :: "outbox" :: g'.disk.homeOf base) =
      g.disk.isDirectory (entry.1 :: "outbox" :: g.disk.homeOf base) := by
  rw [h.settles.homeOf base]
  refine Disk.isDirectory_of_find? (h.settles.outbox entry.1 (fun hm => ?_))
  obtain ⟨other, ho, hname⟩ := List.mem_map.1 hm
  obtain ⟨number, -, hle, hn⟩ := h.numbers other ho
  rw [entry_of_answer? he, hn] at hname
  have heq := Outgoing.fileName_inj hname
  rw [heq] at hle
  exact Nat.not_succ_le_self _ hle

theorem Ready.of_spool (h : g.Ready base) {last : Nat}
    (hle : g.spool.lastId ≤ last) (hs : g'.spool = { g.spool.release ref with lastId := last })
    (hd : g'.disk.Serves base) : g'.Ready base := by
  refine ⟨?_, ?_, hd⟩
  · rw [hs]
    exact ⟨h.lies.inbox, h.lies.outbox, h.lies.rejected⟩
  · rw [hs]
    refine ⟨fun entry he => ?_, fun entry he => ?_⟩
    · exact Nat.le_trans (h.bounded.received entry (List.mem_filter.1 he).1) hle
    · exact Nat.le_trans (h.bounded.drafts entry (List.mem_filter.1 he).1) hle

theorem leads_format (launch : Action → StateM (Machine (ε × List Action)) Report)
    (hr : g.spool.received? ref = some message) :
    Leads ((station launch).modem.format ref) g message.record.format g := by
  have h : g.spool.format ref = message.record.format := by simp only [Spool.format, hr]
  rw [← h]
  exact fun log => ⟨log, rfl⟩

/-- A message of another format is given up, and nothing else comes of it. -/
theorem handle_other (launch : Action → StateM (Machine (ε × List Action)) Report)
    (settings : Settings) (hr : g.spool.received? ref = some message)
    (hf : message.record.format ≠ .text) :
    ∃ log, (station launch).handle settings ref g =
      ({}, ({ g with spool := g.spool.release ref } : Gateway (ε × List Action)).logged log) := by
  have h : Leads ((station launch).handle settings ref) g {}
      { g with spool := g.spool.release ref } := by
    refine (leads_info launch _ g).bind ((leads_format launch hr).bind ?_)
    dsimp only
    rw [if_neg hf]
    exact (leads_warn launch _ g).bind ((leads_pure ({} : Handled) g).bind
      ((leads_release launch ref g).bind (leads_pure _ _)))
  exact h.run

/-- What is left to do with a text message once it is answered and given up is to perform its
command. -/
theorem handle_text (launch : Action → StateM (Machine (ε × List Action)) Report)
    (settings : Settings) (hr : g.spool.received? ref = some message)
    (hf : message.record.format = .text) {g' : Gateway (ε × List Action)} {handled : Handled}
    (ha : Leads ((station launch).answerText ref) g handled g')
    (hc : handled.command = some (Command.parse message.record.text)) :
    ∃ log, ∀ action after, (station launch).perform settings (Command.parse message.record.text)
        (({ g' with spool := g'.spool.release ref } : Gateway (ε × List Action)).logged log) =
          (action, after) →
      (station launch).handle settings ref g = ({ handled with action }, after) := by
  obtain ⟨log₁, hinfo⟩ :=
    (leads_info launch ("A New SMS message is received with ref." ++ toString ref) g).run
  obtain ⟨log₂, hformat⟩ := leads_format launch hr log₁
  obtain ⟨log₃, hanswer⟩ := ha log₂
  obtain ⟨log₄, hrelease⟩ := leads_release launch ref g' log₃
  refine ⟨log₄, fun action after hperform => ?_⟩
  simp only [Station.handle]
  rw [bind_of_eq hinfo, bind_of_eq hformat, if_pos hf, bind_of_eq hanswer, bind_of_eq hrelease, hc]
  exact bind_of_eq hperform

theorem handle_settled_other (launch : Action → StateM (Machine (ε × List Action)) Report)
    (settings : Settings) (hg : g.Ready base) (hr : g.spool.received? ref = some message)
    (hf : message.record.format ≠ .text) :
    Settled base settings g ((station launch).handle settings ref g).2 [(ref, message)]
        (g.answer? ref).toList ∧
      ((station launch).handle settings ref g).1.Tells settings message.record := by
  obtain ⟨log, hhandle⟩ := handle_other launch settings hr hf
  rw [hhandle, answer?_eq_none hr (.inl hf)]
  have htells : ({} : Handled).Tells settings message.record :=
    ⟨by simp [Handled.sent?, Incoming.reply?, hf], by simp [Incoming.action?, hf]⟩
  refine ⟨⟨hg.of_spool (Nat.le_refl _) rfl hg.serves, ?_, ?_, ?_, rfl, Nat.le_refl _, by simp,
    by simp, ?_⟩, htells⟩
  · have ht : textFiles ([(ref, message)].map Prod.snd) = [] := by simp [textFiles, hf]
    rw [ht]
    exact Disk.Settles.refl g.disk (g.disk.homeOf base)
  · simp [Incoming.action?, hf]
    rfl
  · simp [Incoming.reply?, hf]
  · intro other ho
    exact g.spool.received?_release (by simpa using ho)

theorem handle_settled_text (hw : world.leavesSpool base) (settings : Settings) (hg : g.Ready base)
    (hr : g.spool.received? ref = some message) (hf : message.record.format = .text)
    (hfile : ∃ octets executable modified,
      g.disk.find? (message.name :: "inbox" :: g.disk.homeOf base) =
        some ⟨.file octets executable, modified⟩)
    (hfree : ∀ entry ∈ g.answer? ref,
      g.disk.isDirectory (entry.1 :: "outbox" :: g.disk.homeOf base) = false) :
    Settled base settings g ((station world.recorded.launch).handle settings ref g).2
        [(ref, message)] (g.answer? ref).toList ∧
      ((station world.recorded.launch).handle settings ref g).1.Tells settings message.record := by
  obtain ⟨octets, executable, modified, hfile⟩ := hfile
  obtain ⟨handled, disk, last, hc, hsent, hserves, hsettles, hle, hlt, hanswer⟩ :=
    leads_answerText world.recorded.launch hg.lies hg.bounded hg.serves hr hf hfile hfree
  obtain ⟨log, hhandle⟩ := handle_text world.recorded.launch settings hr hf hanswer hc
  let released : Gateway (ε × List Action) :=
    { g.withDisk disk with spool := { g.spool.release ref with lastId := last } }
  obtain ⟨haction, hspool, hleft, hlaunches⟩ := perform_recorded hw settings
    (Command.parse message.record.text) (released.logged log)
  cases hp : (station world.recorded.launch).perform settings (Command.parse message.record.text)
      (released.logged log) with
  | mk action after =>
    rw [hp] at haction hspool hleft hlaunches
    rw [hhandle action after hp]
    have hleft' : Disk.LeavesSpool base disk after.disk := hleft
    have hlater := hleft'.settles
    rw [hsettles.homeOf base] at hlater
    refine ⟨⟨hg.of_spool hle hspool (hserves.left hleft'), ?_, ?_, replies_of_answer? hr, ?_, ?_,
      ?_, ?_, ?_⟩, ⟨hsent, ?_⟩⟩
    · have h := hsettles.trans hlater (by simp)
      simpa [textFiles, hf] using h
    · rw [hlaunches]
      simp only [Incoming.action?, List.filterMap_cons, List.filterMap_nil, hf, ↓reduceIte]
      cases Action.ofCommand? settings (Command.parse message.record.text) <;> rfl
    · rw [hspool]
      rfl
    · rw [hspool]
      exact hle
    · cases g.answer? ref <;> simp
    · intro entry he
      rw [Option.mem_toList] at he
      have hnumber := entry_of_answer? he
      refine ⟨g.spool.lastId + 1, Nat.lt_succ_self _, ?_, hnumber⟩
      rw [hspool]
      exact hlt (by rw [he]; exact Option.some_ne_none _)
    · intro other ho
      rw [hspool]
      exact g.spool.received?_release (by simpa using ho)
    · rw [Incoming.action?, if_pos hf]
      exact haction

theorem handle_settled (hw : world.leavesSpool base) (settings : Settings) (hg : g.Ready base)
    (hr : g.spool.received? ref = some message)
    (hfile : message.record.format = .text → ∃ octets executable modified,
      g.disk.find? (message.name :: "inbox" :: g.disk.homeOf base) =
        some ⟨.file octets executable, modified⟩)
    (hfree : ∀ entry ∈ g.answer? ref,
      g.disk.isDirectory (entry.1 :: "outbox" :: g.disk.homeOf base) = false) :
    Settled base settings g ((station world.recorded.launch).handle settings ref g).2
        [(ref, message)] (g.answer? ref).toList ∧
      ((station world.recorded.launch).handle settings ref g).1.Tells settings message.record := by
  by_cases hf : message.record.format = .text
  · exact handle_settled_text hw settings hg hr hf (hfile hf) hfree
  · exact handle_settled_other world.recorded.launch settings hg hr hf

/-! ### All events of a look -/

/-- The messages that are queued while events are attended to, each with the name of its file. -/
def queuedFor (st : Station (Gateway ε)) (settings : Settings) :
    List Event → Gateway ε → List (String × Outgoing)
  | [], _ => []
  | .received ref :: events, g =>
    (g.answer? ref).toList ++ queuedFor st settings events (attend st settings (.received ref) g).2
  | .full storage :: events, g =>
    queuedFor st settings events (attend st settings (.full storage) g).2

theorem attendAll_append (st : Station (Gateway ε)) (settings : Settings)
    (events more : List Event) (g : Gateway ε) :
    attendAll st settings (events ++ more) g =
        ((attendAll st settings events g).1 ++
          (attendAll st settings more (attendAll st settings events g).2).1,
          (attendAll st settings more (attendAll st settings events g).2).2) ∧
      queuedFor st settings (events ++ more) g =
        queuedFor st settings events g ++
          queuedFor st settings more (attendAll st settings events g).2 := by
  induction events generalizing g with
  | nil => exact ⟨rfl, rfl⟩
  | cons event events ih =>
    obtain ⟨hattended, hqueued⟩ := ih (attend st settings event g).2
    have hcons : ∀ events, attendAll st settings (event :: events) g =
        ((attend st settings event g).1 ::
          (attendAll st settings events (attend st settings event g).2).1,
          (attendAll st settings events (attend st settings event g).2).2) := fun _ => rfl
    refine ⟨?_, ?_⟩
    · rw [List.cons_append, hcons, hcons, hattended]
      rfl
    cases event with
    | received ref =>
      simp only [List.cons_append, queuedFor, hqueued, List.append_assoc]
      rfl
    | full storage => exact hqueued

def eventsOf (messages : List (Ref × Received)) : List Event :=
  messages.map (fun entry => .received entry.1)

/-- Attending to messages that are there settles them, as long as no directory has the name of an
answer. The induction goes to the last message: the names of its answer and of all before it
differ. -/
theorem attendAll_settled (hw : world.leavesSpool base) (settings : Settings) (hg : g.Ready base)
    (messages : List (Ref × Received)) (hrefs : (messages.map Prod.fst).Nodup)
    (hnames : (messages.map (fun entry => entry.2.name)).Nodup)
    (hreceived : ∀ entry ∈ messages, g.spool.received? entry.1 = some entry.2)
    (hfiles : ∀ entry ∈ messages, entry.2.record.format = .text →
      ∃ octets executable modified,
        g.disk.find? (entry.2.name :: "inbox" :: g.disk.homeOf base) =
          some ⟨.file octets executable, modified⟩)
    (hfree : ∀ entry ∈ queuedFor (station world.recorded.launch) settings (eventsOf messages) g,
      g.disk.isDirectory (entry.1 :: "outbox" :: g.disk.homeOf base) = false) :
    Settled base settings g
        (attendAll (station world.recorded.launch) settings (eventsOf messages) g).2 messages
        (queuedFor (station world.recorded.launch) settings (eventsOf messages) g) ∧
      List.Forall₂ (fun entry handled => handled.Tells settings entry.2.record) messages
        ((attendAll (station world.recorded.launch) settings (eventsOf messages) g).1.filterMap
          Attended.handled?) := by
  induction messages using List.reverseRecOn with
  | nil => exact ⟨Settled.refl hg, .nil⟩
  | append_singleton messages last ih =>
    obtain ⟨ref, message⟩ := last
    let st := station world.recorded.launch
    have hevents : eventsOf (messages ++ [(ref, message)]) =
        eventsOf messages ++ [.received ref] := by
      simp [eventsOf]
    obtain ⟨hattended, hqueued⟩ :=
      attendAll_append st settings (eventsOf messages) [.received ref] g
    rw [hevents, hqueued] at hfree
    rw [hevents, hattended, hqueued]
    rw [List.map_append, List.nodup_append] at hrefs hnames
    obtain ⟨hbefore, htold⟩ := ih hrefs.1 hnames.1
      (fun entry he => hreceived entry (List.mem_append_left _ he))
      (fun entry he => hfiles entry (List.mem_append_left _ he))
      (fun entry he => hfree entry (List.mem_append_left _ he))
    -- The last message is still there when it is attended to.
    have hr : (attendAll st settings (eventsOf messages) g).2.spool.received? ref =
        some message := by
      rw [hbefore.others ref (fun hm => hrefs.2.2 ref hm ref (by simp) rfl)]
      exact hreceived (ref, message) (by simp)
    have hfile : message.record.format = .text → ∃ octets executable modified,
        (attendAll st settings (eventsOf messages) g).2.disk.find? (message.name :: "inbox" ::
          (attendAll st settings (eventsOf messages) g).2.disk.homeOf base) =
            some ⟨.file octets executable, modified⟩ := by
      intro hf
      obtain ⟨octets, executable, modified, h⟩ := hfiles (ref, message) (by simp) hf
      refine ⟨octets, executable, modified, (hbefore.find?_inbox (fun hm => ?_)).trans h⟩
      exact hnames.2.2 message.name hm message.name (by simp) rfl
    have hfree' : ∀ entry ∈ (attendAll st settings (eventsOf messages) g).2.answer? ref,
        (attendAll st settings (eventsOf messages) g).2.disk.isDirectory (entry.1 :: "outbox" ::
          (attendAll st settings (eventsOf messages) g).2.disk.homeOf base) = false := by
      intro entry he
      have hlast : entry ∈ queuedFor st settings [.received ref]
          (attendAll st settings (eventsOf messages) g).2 := by
        simp only [queuedFor, List.append_nil, Option.mem_toList]
        exact he
      exact (hbefore.isDirectory_answer he).trans (hfree entry (List.mem_append_right _ hlast))
    obtain ⟨hstep, htells⟩ := handle_settled hw settings hbefore.ready hr hfile hfree'
    simp only [queuedFor, List.append_nil]
    rw [List.filterMap_append]
    exact ⟨hbefore.trans hstep, List.rel_append htold (.cons htells .nil)⟩

/-! ### A pass -/

/-- After a look that succeeds, all that it has told of is attended to. -/
theorem pass_looked (st : Station (Gateway ε)) (settings : Settings) {g polled : Gateway ε}
    {events : List Event} (h : poll g = (.ok events, polled)) : pass st settings g =
      (.ok (attendAll st settings events polled).1, (attendAll st settings events polled).2) := by
  rw [pass, bind_of_eq h]
  rfl

end Gateway

end BuoyGateway
