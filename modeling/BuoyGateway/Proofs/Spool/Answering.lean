import BuoyGateway.Proofs.Sms.Handling
import BuoyGateway.Proofs.Spool.Sending
import BuoyGateway.Proofs.Spool.Settling
import BuoyGateway.Spool.Watch

/-!
# Answering a message of the spool

A text message whose sender can be dialled is answered by a file in the outbox, and its own file is
deleted, as long as the spool is at hand. The script that its command asks for is launched last.
Messages of other formats are only given up.
-/

namespace BuoyGateway

/-- The reply to a received message: only a text whose sender can be dialled gets one. -/
def Incoming.reply? (r : Incoming) : Option Reply :=
  if r.format = .text ∧ isDialable r.sender = true then
    some ⟨r.sender, (Command.parse r.text).reply⟩
  else none

def Incoming.action? (r : Incoming) (settings : Settings) : Option Action :=
  if r.format = .text then Action.ofCommand? settings (Command.parse r.text) else none

def Handled.sent? (handled : Handled) : Option Reply :=
  if handled.replySent then handled.reply else none

/-- What is said about a received message is that its reply was sent and its action launched, if it
has them. -/
structure Handled.Tells (settings : Settings) (r : Incoming) (handled : Handled) : Prop where
  sent : handled.sent? = r.reply?
  action : handled.action = r.action? settings

def textFiles (messages : List Received) : List String :=
  (messages.filter (fun message => message.record.format = .text)).map Received.name

theorem textFiles_append (messages more : List Received) :
    textFiles (messages ++ more) = textFiles messages ++ textFiles more := by
  simp only [textFiles, List.filter_append, List.map_append]

namespace Gateway

variable {ε : Type} {g : Gateway ε} {ref : Ref} {message : Received} {base : String}
  (launch : Action → StateM (Machine ε) Report)

/-- The message by which a received one is answered, and the name of its file. -/
def answer? (g : Gateway ε) (ref : Ref) : Option (String × Outgoing) :=
  ((g.spool.received? ref).bind (fun message => message.record.reply?)).map (fun reply =>
    let r : Outgoing := ⟨reply.destination, reply.text, g.disk.now⟩
    (r.fileName (g.spool.lastId + 1), r))

theorem answer?_of_dialable {message : Received} (hr : g.spool.received? ref = some message)
    (hf : message.record.format = .text) (hd : isDialable message.record.sender = true) :
    let r : Outgoing := ⟨message.record.sender, (Command.parse message.record.text).reply, g.disk.now⟩
    g.answer? ref = some (r.fileName (g.spool.lastId + 1), r) := by
  simp [answer?, hr, Incoming.reply?, hf, hd]

theorem answer?_eq_none {message : Received} (hr : g.spool.received? ref = some message)
    (h : message.record.format ≠ .text ∨ isDialable message.record.sender = false) :
    g.answer? ref = none := by
  rcases h with h | h <;> simp [answer?, hr, Incoming.reply?, h]

theorem entry_of_answer? {entry : String × Outgoing} (h : g.answer? ref = some entry) :
    entry.1 = entry.2.fileName (g.spool.lastId + 1) := by
  obtain ⟨r, -, rfl⟩ := Option.map_eq_some_iff.1 h
  rfl

theorem replies_of_answer? (hr : g.spool.received? ref = some message) :
    (g.answer? ref).toList.map (fun entry => (⟨entry.2.destination, entry.2.text⟩ : Reply)) =
      [(ref, message)].filterMap (fun entry => entry.2.record.reply?) := by
  simp only [answer?, hr, Option.bind_some]
  cases h : message.record.reply? <;> simp [h]

theorem size_of_dialable {number : String} (h : isDialable number = true) :
    Text.size number ≤ numberLimit := by
  simp only [isDialable, Bool.and_eq_true, decide_eq_true_eq] at h
  exact h.1.2

variable {dir inbox : Location}

/-- A text message is answered by a file in the outbox if its sender can be dialled, and by none
otherwise. Numbers may be used up in any case. -/
theorem leads_answer (hb : g.spool.Bounded) (hs : g.disk.sound)
    (ho : g.disk.locateDirectory g.spool.outbox = .ok dir)
    (hr : g.spool.received? ref = some message) (hf : message.record.format = .text)
    (hfree : ∀ entry ∈ g.answer? ref, g.disk.isDirectory (entry.1 :: dir) = false) :
    ∃ result disk last, (if result.2 then result.1 else none) = message.record.reply? ∧
      g.disk.Gets disk dir (g.answer? ref) ∧ g.spool.lastId ≤ last ∧
      (g.answer? ref ≠ none → g.spool.lastId < last) ∧
      Leads ((station launch).answer (g.spool.sender ref).toOption
          (some (Command.parse message.record.text))) g result
        { g.withDisk disk with spool := { g.spool with lastId := last } } := by
  have hsender : g.spool.sender ref = if numberLimit < Text.size message.record.sender
      then .error .overflow else .ok message.record.sender := by
    simp only [Spool.sender, hr]
  rw [hsender]
  by_cases hd : isDialable message.record.sender = true
  · rw [if_neg (Nat.not_lt.2 (size_of_dialable hd))]
    have hanswer := answer?_of_dialable hr hf hd
    dsimp only at hanswer
    rw [hanswer] at hfree ⊢
    have hfree := hfree _ rfl
    dsimp only at hfree
    obtain ⟨disk, hq, hg⟩ := Disk.queue_of_free hs ho hfree
    let reply := Reply.compose message.record.sender (Command.parse message.record.text).reply
    have hsend : Leads ((station launch).sendMessage reply.destination reply.text) g (.ok ())
        { g.withDisk disk with spool := { g.spool with lastId := g.spool.lastId + 1 } } := by
      simp only [reply, Reply.compose_reply]
      exact leads_sendMessage launch hb hd (Command.size_reply _) hq
    refine ⟨(some reply, true), disk, g.spool.lastId + 1, ?_, hg, Nat.le_succ _,
      fun _ => Nat.lt_succ_self _, hsend.bind ((leads_info launch _ _).bind (leads_pure _ _))⟩
    rw [Incoming.reply?, if_pos (⟨hf, hd⟩ : _ ∧ _), ← Reply.compose_reply]
    rfl
  · rw [Bool.not_eq_true] at hd
    have hnone : message.record.reply? = none := by simp [Incoming.reply?, hd]
    rw [answer?_eq_none hr (.inr hd), hnone]
    by_cases hsize : numberLimit < Text.size message.record.sender
    · rw [if_pos hsize]
      exact ⟨(none, false), g.disk, g.spool.lastId, rfl, rfl, Nat.le_refl _, fun h => absurd rfl h,
        (leads_warn launch _ g).bind (leads_pure _ g)⟩
    · rw [if_neg hsize]
      let reply := Reply.compose message.record.sender (Command.parse message.record.text).reply
      have hsend := leads_sendMessage_of_not_dialable launch hb hd reply.text
      exact ⟨(some reply, false), g.disk, g.spool.lastId + 1, rfl, rfl, Nat.le_succ _,
        fun h => absurd rfl h,
        hsend.bind ((leads_error launch _ _).bind (leads_pure _ _))⟩

theorem leads_discard (hs : g.disk.sound) (hi : g.disk.locateDirectory g.spool.inbox = .ok inbox)
    (hr : g.spool.received? ref = some message) {octets : List UInt8} {executable : Bool}
    {modified : Time.Instant} (hfile : g.disk.find? (message.name :: inbox) =
      some ⟨.file octets executable, modified⟩) :
    ∃ disk, Disk.Loses g.disk disk inbox message.name ∧
      Leads ((station launch).discard ref) g true (g.withDisk disk) := by
  obtain ⟨disk, hremove, hl⟩ := Disk.removeAt_loses hs hfile
  refine ⟨disk, hl, ?_⟩
  have hdelete : Leads ((station launch).modem.delete ref) g (.ok ()) (g.withDisk disk) := by
    intro log
    refine ⟨log, ?_⟩
    have hr' : (g.logged log).spool.received? ref = some message := hr
    have hremove' : ((g.logged log).disk.locateDirectory (g.logged log).spool.inbox).bind
        (fun dir => (g.logged log).disk.removeAt (message.name :: dir)) = .ok disk :=
      bind_eq_ok.2 ⟨inbox, hi, hremove⟩
    change delete ref (g.logged log) = _
    rw [delete_eq]
    simp only [hr', hremove']
    rfl
  exact hdelete.bind ((leads_info launch _ _).bind (leads_pure _ _))

theorem leads_lines (lines : List String) (g : Gateway ε) :
    Leads (lines.forM (fun line => (station launch).info ("script output: '" ++ line ++ "'"))) g ()
      g := by
  induction lines with
  | nil => exact leads_pure () g
  | cons line lines ih => exact (leads_info launch _ g).bind ih

theorem leads_report (report : Report) (g : Gateway ε) :
    Leads (do
      report.lines.forM (fun line => (station launch).info ("script output: '" ++ line ++ "'"))
      pure report.result) g report.result g :=
  (leads_lines launch report.lines g).bind (leads_pure _ g)

theorem leads_announce (action : Action) (command : Command) (g : Gateway ε) :
    Leads ((station launch).announce action command) g () g := by
  cases command with
  | upgrade version => exact (leads_info launch _ g).bind (leads_info launch _ g)
  | reboot => exact leads_info launch _ g
  | sleep seconds => exact leads_info launch _ g
  | unknown text => exact leads_info launch _ g

theorem leads_conclude (action : Action) (result : Except SystemError Ending) (g : Gateway ε) :
    Leads ((station launch).conclude action result) g () g := by
  cases result with
  | error e => exact leads_error launch _ g
  | ok ending =>
    dsimp only [Platform.conclude]
    by_cases h : ending.isSuccess = true
    · rw [if_pos h]
      exact leads_pure () g
    · rw [if_neg h]
      exact leads_error launch _ g

/-- A text message that is there is answered and its file deleted, which leaves the spool at hand. -/
theorem leads_answerText (hl : g.spool.LiesIn base) (hb : g.spool.Bounded)
    (hs : g.disk.Serves base) (hr : g.spool.received? ref = some message)
    (hf : message.record.format = .text) {octets : List UInt8} {executable : Bool}
    {modified : Time.Instant} (hfile : g.disk.find? (message.name :: "inbox" :: g.disk.homeOf base) =
      some ⟨.file octets executable, modified⟩)
    (hfree : ∀ entry ∈ g.answer? ref,
      g.disk.isDirectory (entry.1 :: "outbox" :: g.disk.homeOf base) = false) :
    ∃ handled disk last, handled.command = some (Command.parse message.record.text) ∧
      handled.sent? = message.record.reply? ∧ disk.Serves base ∧
      g.disk.Settles disk (g.disk.homeOf base) [message.name] (g.answer? ref).toList ∧
      g.spool.lastId ≤ last ∧ (g.answer? ref ≠ none → g.spool.lastId < last) ∧
      Leads ((station launch).answerText ref) g handled
        { g.withDisk disk with spool := { g.spool with lastId := last } } := by
  have ho := hs.outbox
  rw [← hl.outbox] at ho
  obtain ⟨result, disk, last, hsent, hgets, hle, hlt, hanswer⟩ :=
    leads_answer launch hb hs.sound ho hr hf hfree
  -- The answer leaves the spool at hand and the file where it is.
  have hserves := hs.gets hgets
  have hgot := hgets.settles
  have hhome := hgot.homeOf base
  have hkept : disk.find? (message.name :: "inbox" :: disk.homeOf base) =
      some ⟨.file octets executable, modified⟩ := by
    rw [hhome, ← hfile]
    exact hgot.inbox message.name (by simp) []
  let answered : Gateway ε := { g.withDisk disk with spool := { g.spool with lastId := last } }
  have hi : answered.disk.locateDirectory answered.spool.inbox =
      .ok ("inbox" :: disk.homeOf base) := by
    have hinbox : answered.spool.inbox = Path.join base "inbox" := hl.inbox
    rw [hinbox]
    exact hserves.inbox
  obtain ⟨disk', hloses, hdiscard⟩ := leads_discard launch (g := answered) hserves.sound hi hr hkept
  have hlost := hloses.settles
  rw [hhome] at hlost
  have hsettles := hgot.trans hlost (by simp)
  rw [List.append_nil, List.nil_append] at hsettles
  -- All three parts of the message are read.
  have hsender : Leads ((station launch).modem.sender ref) g (g.spool.sender ref) g :=
    fun log => ⟨log, rfl⟩
  have htimestamp : Leads ((station launch).modem.timestamp ref) g (g.spool.timestamp ref) g :=
    fun log => ⟨log, rfl⟩
  have htext : Leads ((station launch).modem.text ref) g (.ok message.record.text) g := by
    have h : g.spool.text ref = .ok message.record.text := by simp only [Spool.text, hr]
    rw [← h]
    exact fun log => ⟨log, rfl⟩
  refine ⟨_, disk', last, ?_, ?_, hserves.loses hloses hkept, hsettles, hle, hlt,
    hsender.bind ((leads_readPart launch _ _ _ g).bind
      (htimestamp.bind ((leads_readPart launch _ _ _ g).bind
        (htext.bind ((leads_readPart launch _ _ _ g).bind
          (hanswer.bind (hdiscard.bind (leads_pure _ _))))))))⟩
  · rfl
  · exact hsent

end Gateway

/-! ### Launching -/

variable {ε : Type}

def Machine.unrecorded (machine : Machine (ε × List Action)) : Machine ε :=
  ⟨machine.disk, machine.log, machine.outside.1⟩

/-- The surroundings with a list of the actions that were launched. -/
def Surroundings.recorded (world : Surroundings ε) : Surroundings (ε × List Action) where
  launch action := fun machine =>
    let (report, after) := world.launch action machine.unrecorded
    (report, ⟨after.disk, after.log, (after.outside, machine.outside.2 ++ [action])⟩)
  isStopped machine := world.isStopped machine.unrecorded
  pause machine :=
    let after := world.pause machine.unrecorded
    ⟨after.disk, after.log, (after.outside, machine.outside.2)⟩

def Surroundings.leavesSpool (world : Surroundings ε) (base : String) : Prop :=
  ∀ action machine, Disk.LeavesSpool base machine.disk (world.launch action machine).2.disk

namespace Gateway

variable {world : Surroundings ε} {g : Gateway (ε × List Action)} {ref : Ref} {message : Received}
  {base : String}

theorem perform_recorded (hw : world.leavesSpool base) (settings : Settings) (command : Command)
    (g : Gateway (ε × List Action)) :
    let g' := ((station world.recorded.launch).perform settings command g).2
    ((station world.recorded.launch).perform settings command g).1 =
        Action.ofCommand? settings command ∧
      g'.spool = g.spool ∧ Disk.LeavesSpool base g.disk g'.disk ∧
      g'.machine.outside.2 = g.machine.outside.2 ++
        (Action.ofCommand? settings command).toList := by
  let st := station world.recorded.launch
  cases ha : Action.ofCommand? settings command with
  | none =>
    have h : st.perform settings command g = (none, g) := by
      simp only [Platform.perform, ha]
      rfl
    dsimp only [st] at h ⊢
    rw [h]
    exact ⟨rfl, rfl, Disk.LeavesSpool.refl base g.disk, (List.append_nil _).symm⟩
  | some action =>
    obtain ⟨log₁, hannounce⟩ := (leads_announce world.recorded.launch action command g).run
    let report := (st.launch action (g.logged log₁)).1
    let launched := (st.launch action (g.logged log₁)).2
    obtain ⟨log₂, hreport⟩ := (leads_report world.recorded.launch report launched).run
    have hrun : st.run action (g.logged log₁) = (report.result, launched.logged log₂) := hreport
    obtain ⟨log₃, hconclude⟩ :=
      leads_conclude world.recorded.launch action report.result launched log₂
    have h : st.perform settings command g = (some action, launched.logged log₃) := by
      simp only [Platform.perform, ha]
      rw [bind_of_eq hannounce, bind_of_eq hrun, bind_of_eq hconclude]
      rfl
    dsimp only [st] at h ⊢
    rw [h]
    exact ⟨rfl, rfl, hw action (g.logged log₁).machine.unrecorded, rfl⟩

end Gateway

end BuoyGateway
