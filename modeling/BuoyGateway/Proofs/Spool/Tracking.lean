import BuoyGateway.Proofs.Sms.Handling
import BuoyGateway.Proofs.Spool.Sending

/-!
# What a spool decides by itself

What the gateway remembers of its spool decides which calls it makes to send a message or to handle one,
up to whether files could be deleted and queued, and what it remembers afterwards. The disk, the log
and the programs that are launched have no part in it. `Tracks` says so of an operation.
-/

namespace BuoyGateway

/-- The call without what the disk answers to it: whether a file could be deleted or queued. -/
def Exchange.asked : Exchange → Exchange
  | .delete ref _ => .delete ref (.ok ())
  | .send ref _ => .send ref (.ok ())
  | call => call

/-- What is said about a message, but for whether its reply was sent and its file deleted. -/
def Handled.asRead (handled : Handled) : Handled := { handled with replySent := false, deleted := false }

/-- The calls by which a message that was begun is filled in and sent, as far as it can be. -/
def fillingCalls (ref : Ref) (destination text : String) : List Exchange :=
  if isDialable destination = false then [.setDestination ref destination (.error .badParameter)]
  else if textLimit < Text.size text then
    [.setDestination ref destination (.ok ()), .setText ref text (.error .overflow)]
  else
    [.setDestination ref destination (.ok ()), .setText ref text (.ok ()), .send ref (.ok ())]

def attemptCalls (ref : Ref) (destination text : String) : List Exchange :=
  .create (some ref) :: fillingCalls ref destination text ++ [.release ref]

namespace Spool

variable (spool : Spool) (settings : Settings) (ref : Ref)

def replyTo? : Option Reply :=
  if spool.format ref = .text then replyTo (spool.sender ref) (spool.text ref) else none

def actionFor? : Option Action :=
  if spool.format ref = .text then actionOf settings (spool.text ref) else none

/-- The calls by which a text is read, answered and deleted. -/
def answeringCalls : List Exchange :=
  [.sender ref (spool.sender ref), .timestamp ref (spool.timestamp ref),
      .text ref (spool.text ref)] ++
    ((replyTo (spool.sender ref) (spool.text ref)).toList.flatMap
        (fun reply => attemptCalls (spool.lastId + 1) reply.destination reply.text) ++
      [.delete ref (.ok ())])

def handlingCalls : List Exchange :=
  if spool.format ref = .text then
    .format ref .text :: (spool.answeringCalls ref ++
      .release ref :: (actionOf settings (spool.text ref)).toList.map .launch)
  else [.format ref (spool.format ref), .release ref]

def handledAs : Handled :=
  if spool.format ref = .text then
    { message := (spool.text ref).toOption.map (Message.received
        ((spool.sender ref).toOption.getD "") ((spool.timestamp ref).toOption.getD ""))
      command := (spool.text ref).toOption.map Command.parse
      reply := spool.replyTo? ref
      action := spool.actionFor? settings ref }
  else {}

def advance (count : Nat) : Spool := { spool with lastId := spool.lastId + count }

def afterHandling : Spool := (spool.advance (spool.replyTo? ref).toList.length).release ref

end Spool

namespace Gateway

variable {ε α β : Type} {m : StateM (Gateway ε × List Exchange) α} {n : StateM (Gateway ε) α}
  {s s' s'' : Spool} {calls calls' : List Exchange} {p : α → Prop}

/-- From every gateway with the one spool, the recorded operation does what the operation does and
leaves the other spool. Its calls are the given ones, up to what the disk answers, and what it
returns satisfies `p`. -/
def Tracks (m : StateM (Gateway ε × List Exchange) α) (n : StateM (Gateway ε) α) (s : Spool)
    (calls : List Exchange) (p : α → Prop) (s' : Spool) : Prop :=
  ∀ (g : Gateway ε) (past : List Exchange), g.spool = s → ∃ made,
    m (g, past) = ((n g).1, (n g).2, past ++ made) ∧ made.map Exchange.asked = calls ∧
      p (n g).1 ∧ (n g).2.spool = s'

theorem tracks_pure {a : α} (h : p a) : Tracks (ε := ε) (pure a) (pure a) s [] p s := by
  intro g past hg
  refine ⟨[], ?_, rfl, h, hg⟩
  rw [List.append_nil]
  rfl

theorem tracks_noted (call : α → Exchange) {asked : Exchange}
    (h : ∀ g : Gateway ε, g.spool = s →
      (call (n g).1).asked = asked ∧ p (n g).1 ∧ (n g).2.spool = s') :
    Tracks (Station.noted call n) n s [asked] p s' := by
  intro g past hg
  obtain ⟨hcall, hp, hs⟩ := h g hg
  exact ⟨[call (n g).1], rfl, by rw [List.map_singleton, hcall], hp, hs⟩

theorem tracks_unnoted (h : ∀ g : Gateway ε, (n g).2.spool = g.spool) :
    Tracks (Station.unnoted n) n s [] (fun _ => True) s := by
  intro g past hg
  refine ⟨[], ?_, rfl, trivial, (h g).trans hg⟩
  rw [List.append_nil]
  rfl

theorem Tracks.bind {f : α → StateM (Gateway ε × List Exchange) β} {f' : α → StateM (Gateway ε) β}
    {q : β → Prop} (hm : Tracks m n s calls p s')
    (hf : ∀ a, p a → Tracks (f a) (f' a) s' calls' q s'') :
    Tracks (m >>= f) (n >>= f') s (calls ++ calls') q s'' := by
  intro g past hg
  obtain ⟨made, hmade, hcalls, ha, hs'⟩ := hm g past hg
  obtain ⟨more, hmore, hcalls', hb, hs''⟩ := hf (n g).1 ha (n g).2 (past ++ made) hs'
  refine ⟨made ++ more, ?_, by rw [List.map_append, hcalls, hcalls'], hb, hs''⟩
  change f (m (g, past)).1 (m (g, past)).2 = _
  rw [hmade, hmore, List.append_assoc]
  rfl

variable (launch : Action → StateM (Machine ε) Report)

/-! ### The log -/

theorem tracks_info (text : String) (s : Spool) : Tracks ((station launch).recorded.info text)
    ((station launch).info text) s [] (fun _ => True) s := tracks_unnoted (fun _ => rfl)

theorem tracks_warn (text : String) (s : Spool) : Tracks ((station launch).recorded.warn text)
    ((station launch).warn text) s [] (fun _ => True) s := tracks_unnoted (fun _ => rfl)

theorem tracks_error (text : String) (s : Spool) : Tracks ((station launch).recorded.error text)
    ((station launch).error text) s [] (fun _ => True) s := tracks_unnoted (fun _ => rfl)

/-! ### The modem -/

variable (ref : Ref)

theorem tracks_format (s : Spool) : Tracks ((station launch).recorded.modem.format ref)
    ((station launch).modem.format ref) s [.format ref (s.format ref)] (· = s.format ref) s := by
  refine tracks_noted _ ?_
  rintro g rfl
  exact ⟨rfl, rfl, rfl⟩

theorem tracks_sender (s : Spool) : Tracks ((station launch).recorded.modem.sender ref)
    ((station launch).modem.sender ref) s [.sender ref (s.sender ref)] (· = s.sender ref) s := by
  refine tracks_noted _ ?_
  rintro g rfl
  exact ⟨rfl, rfl, rfl⟩

theorem tracks_timestamp (s : Spool) : Tracks ((station launch).recorded.modem.timestamp ref)
    ((station launch).modem.timestamp ref) s [.timestamp ref (s.timestamp ref)]
    (· = s.timestamp ref) s := by
  refine tracks_noted _ ?_
  rintro g rfl
  exact ⟨rfl, rfl, rfl⟩

theorem tracks_text (s : Spool) : Tracks ((station launch).recorded.modem.text ref)
    ((station launch).modem.text ref) s [.text ref (s.text ref)] (· = s.text ref) s := by
  refine tracks_noted _ ?_
  rintro g rfl
  exact ⟨rfl, rfl, rfl⟩

theorem tracks_delete (s : Spool) : Tracks ((station launch).recorded.modem.delete ref)
    ((station launch).modem.delete ref) s [.delete ref (.ok ())] (fun _ => True) s := by
  refine tracks_noted _ ?_
  rintro g rfl
  exact ⟨rfl, trivial, delete_spool g ref⟩

theorem tracks_release (s : Spool) : Tracks ((station launch).recorded.modem.release ref)
    ((station launch).modem.release ref) s [.release ref] (fun _ => True) (s.release ref) := by
  refine tracks_noted (fun _ => .release ref) ?_
  rintro g rfl
  exact ⟨rfl, trivial, rfl⟩

theorem tracks_create (s : Spool) : Tracks (station launch).recorded.modem.create
    (station launch).modem.create s [.create (some (s.lastId + 1))] (· = some (s.lastId + 1))
    (s.withDraft {}) := by
  refine tracks_noted _ ?_
  rintro g rfl
  exact ⟨rfl, rfl, rfl⟩

theorem tracks_setDestination {destination : String} {answer : Except Fault Unit}
    (h : s.setDestination ref destination = (answer, s')) :
    Tracks ((station launch).recorded.modem.setDestination ref destination)
      ((station launch).modem.setDestination ref destination) s
      [.setDestination ref destination answer] (· = answer) s' := by
  refine tracks_noted _ ?_
  rintro g rfl
  have hanswer : ((station launch).modem.setDestination ref destination g).1 = answer :=
    congrArg Prod.fst h
  rw [hanswer]
  exact ⟨rfl, rfl, congrArg Prod.snd h⟩

theorem tracks_setText {text : String} {answer : Except Fault Unit}
    (h : s.setText ref text = (answer, s')) :
    Tracks ((station launch).recorded.modem.setText ref text)
      ((station launch).modem.setText ref text) s [.setText ref text answer] (· = answer) s' := by
  refine tracks_noted _ ?_
  rintro g rfl
  have hanswer : ((station launch).modem.setText ref text g).1 = answer := congrArg Prod.fst h
  rw [hanswer]
  exact ⟨rfl, rfl, congrArg Prod.snd h⟩

theorem tracks_send (s : Spool) : Tracks ((station launch).recorded.modem.send ref)
    ((station launch).modem.send ref) s [.send ref (.ok ())] (fun _ => True) s := by
  refine tracks_noted _ ?_
  rintro g rfl
  exact ⟨rfl, trivial, send_spool g ref⟩

/-! ### Sending -/

theorem tracks_check (step : String) (failure : Fault → SendFailure) (answer : Except Fault Unit)
    (s : Spool) : Tracks ((station launch).recorded.check step failure answer)
      ((station launch).check step failure answer) s [] (· = answer.mapError failure) s := by
  cases answer with
  | ok _ => exact tracks_pure rfl
  | error fault => exact (tracks_error launch _ s).bind (fun _ _ => tracks_pure rfl)

/-- A message that was begun is filled in as far as it can be, and sent if it could be. -/
theorem tracks_fillAndSend (hb : s.Bounded) (destination text : String) : ∃ draft,
    Tracks ((station launch).recorded.fillAndSend (s.lastId + 1) destination text)
      ((station launch).fillAndSend (s.lastId + 1) destination text) (s.withDraft {})
      (fillingCalls (s.lastId + 1) destination text) (fun _ => True) (s.withDraft draft) := by
  unfold fillingCalls
  by_cases hd : isDialable destination = false
  · rw [if_pos hd]
    refine ⟨{}, (tracks_setDestination launch (s.lastId + 1)
      (Spool.setDestination_withDraft_of_not_dialable hb hd)).bind ?_⟩
    rintro _ rfl
    refine (tracks_check launch _ _ _ _).bind ?_
    rintro _ rfl
    exact tracks_pure trivial
  · rw [if_neg hd]
    rw [Bool.not_eq_false] at hd
    have hdestination := tracks_setDestination launch (s := s.withDraft {}) (s.lastId + 1)
      (Spool.setDestination_withDraft hb hd)
    by_cases ht : textLimit < Text.size text
    · rw [if_pos ht]
      refine ⟨⟨some destination, none⟩, hdestination.bind ?_⟩
      rintro _ rfl
      refine (tracks_check launch _ _ _ _).bind ?_
      rintro _ rfl
      refine (tracks_setText launch (s.lastId + 1)
        (Spool.setText_withDraft_of_overflow hb ht)).bind ?_
      rintro _ rfl
      refine (tracks_check launch _ _ _ _).bind ?_
      rintro _ rfl
      exact tracks_pure trivial
    · rw [if_neg ht]
      refine ⟨⟨some destination, some text⟩, hdestination.bind ?_⟩
      rintro _ rfl
      refine (tracks_check launch _ _ _ _).bind ?_
      rintro _ rfl
      refine (tracks_setText launch (s.lastId + 1)
        (Spool.setText_withDraft hb (Nat.le_of_not_lt ht))).bind ?_
      rintro _ rfl
      refine (tracks_check launch _ _ _ _).bind ?_
      rintro _ rfl
      refine (tracks_send launch (s.lastId + 1) _).bind ?_
      intro answer _
      refine (tracks_check launch _ _ answer _).bind ?_
      rintro _ rfl
      cases answer with
      | error fault => exact tracks_pure trivial
      | ok _ => exact (tracks_info launch _ _).bind (fun _ _ => tracks_pure trivial)

/-- Sending a message takes one number of the spool, whatever comes of it. -/
theorem tracks_sendMessage (hb : s.Bounded) (destination text : String) :
    Tracks ((station launch).recorded.sendMessage destination text)
      ((station launch).sendMessage destination text) s
      (attemptCalls (s.lastId + 1) destination text) (fun _ => True) (s.advance 1) := by
  obtain ⟨draft, hfill⟩ := tracks_fillAndSend launch hb destination text
  have hrelease := tracks_release launch (s.lastId + 1) (s.withDraft draft)
  rw [Spool.release_withDraft hb] at hrelease
  rw [attemptCalls, List.cons_append]
  refine (tracks_create launch s).bind ?_
  rintro _ rfl
  refine hfill.bind (fun result _ => ?_)
  exact hrelease.bind (fun _ _ => tracks_pure trivial)

/-! ### Handling -/

theorem tracks_readPart (operation : String) (shown : String → String)
    (answer : Except Fault String) (s : Spool) :
    Tracks ((station launch).recorded.readPart operation shown answer)
      ((station launch).readPart operation shown answer) s [] (· = answer.toOption) s := by
  cases answer with
  | ok value => exact (tracks_info launch _ s).bind (fun _ _ => tracks_pure rfl)
  | error fault => exact (tracks_error launch _ s).bind (fun _ _ => tracks_pure rfl)

theorem tracks_answer (hb : s.Bounded) (sender text : Except Fault String) :
    Tracks ((station launch).recorded.answer sender.toOption (text.toOption.map Command.parse))
      ((station launch).answer sender.toOption (text.toOption.map Command.parse)) s
      ((replyTo sender text).toList.flatMap
        (fun reply => attemptCalls (s.lastId + 1) reply.destination reply.text))
      (fun result => result.1 = replyTo sender text)
      (s.advance (replyTo sender text).toList.length) := by
  cases sender with
  | error fault => exact (tracks_warn launch _ s).bind (fun _ _ => tracks_pure rfl)
  | ok sender =>
    cases text with
    | error fault => exact (tracks_warn launch _ s).bind (fun _ _ => tracks_pure rfl)
    | ok text =>
      have hreply := Reply.compose_reply sender (Command.parse text)
      have hsend : Tracks
          ((station launch).recorded.sendReply (Reply.compose sender (Command.parse text).reply))
          ((station launch).sendReply (Reply.compose sender (Command.parse text).reply)) s
          (attemptCalls (s.lastId + 1) sender (Command.parse text).reply) (fun _ => True)
          (s.advance 1) := by
        rw [hreply]
        exact tracks_sendMessage launch hb sender (Command.parse text).reply
      rw [replyTo, Option.toList_some, List.flatMap_singleton, List.length_singleton,
        ← List.append_nil (attemptCalls _ _ _)]
      refine hsend.bind (fun result _ => ?_)
      rw [hreply]
      cases result with
      | ok _ => exact (tracks_info launch _ _).bind (fun _ _ => tracks_pure rfl)
      | error e => exact (tracks_error launch _ _).bind (fun _ _ => tracks_pure rfl)

theorem tracks_discard (ref : Ref) (s : Spool) :
    Tracks ((station launch).recorded.discard ref) ((station launch).discard ref) s
      [.delete ref (.ok ())] (fun _ => True) s := by
  refine (tracks_delete launch ref s).bind (fun answer _ => ?_)
  cases answer with
  | ok _ => exact (tracks_info launch _ s).bind (fun _ _ => tracks_pure trivial)
  | error fault => exact (tracks_error launch _ s).bind (fun _ _ => tracks_pure trivial)

theorem tracks_answerText (hb : s.Bounded) (ref : Ref) :
    Tracks ((station launch).recorded.answerText ref) ((station launch).answerText ref) s
      (s.answeringCalls ref) (fun handled => handled.asRead =
        { message := (s.text ref).toOption.map (Message.received
            ((s.sender ref).toOption.getD "") ((s.timestamp ref).toOption.getD ""))
          command := (s.text ref).toOption.map Command.parse
          reply := replyTo (s.sender ref) (s.text ref) })
      (s.advance (replyTo (s.sender ref) (s.text ref)).toList.length) := by
  rw [Spool.answeringCalls]
  refine (tracks_sender launch ref s).bind ?_
  rintro _ rfl
  refine (tracks_readPart launch _ _ _ s).bind ?_
  rintro _ rfl
  refine (tracks_timestamp launch ref s).bind ?_
  rintro _ rfl
  refine (tracks_readPart launch _ _ _ s).bind ?_
  rintro _ rfl
  refine (tracks_text launch ref s).bind ?_
  rintro _ rfl
  refine (tracks_readPart launch _ _ _ s).bind ?_
  rintro _ rfl
  refine (tracks_answer launch hb (s.sender ref) (s.text ref)).bind ?_
  rintro ⟨reply, sent⟩ rfl
  refine (tracks_discard launch ref _).bind (fun deleted _ => ?_)
  exact tracks_pure rfl

theorem tracks_lines (lines : List String) (s : Spool) : Tracks
    (lines.forM (fun line => (station launch).recorded.info ("script output: '" ++ line ++ "'")))
    (lines.forM (fun line => (station launch).info ("script output: '" ++ line ++ "'"))) s []
    (fun _ => True) s := by
  induction lines with
  | nil => exact tracks_pure trivial
  | cons line lines ih => exact (tracks_info launch _ s).bind (fun _ _ => ih)

theorem tracks_launch (action : Action) (s : Spool) :
    Tracks ((station launch).recorded.launch action) ((station launch).launch action) s
      [.launch action] (fun _ => True) s := by
  refine tracks_noted (fun _ => .launch action) ?_
  rintro g rfl
  exact ⟨rfl, trivial, rfl⟩

theorem tracks_announce (action : Action) (command : Command) (s : Spool) :
    Tracks ((station launch).recorded.announce action command)
      ((station launch).announce action command) s [] (fun _ => True) s := by
  cases command with
  | upgrade version => exact (tracks_info launch _ s).bind (fun _ _ => tracks_info launch _ s)
  | reboot => exact tracks_info launch _ s
  | sleep seconds => exact tracks_info launch _ s
  | unknown text => exact tracks_info launch _ s

theorem tracks_conclude (action : Action) (result : Except SystemError Ending) (s : Spool) :
    Tracks ((station launch).recorded.conclude action result)
      ((station launch).conclude action result) s [] (fun _ => True) s := by
  cases result with
  | error e => exact tracks_error launch _ s
  | ok ending =>
    dsimp only [Platform.conclude]
    by_cases h : ending.isSuccess = true
    · rw [if_pos h, if_pos h]
      exact tracks_pure trivial
    · rw [if_neg h, if_neg h]
      exact tracks_error launch _ s

/-- A launch may do anything to the machine, but nothing to what is remembered of the spool. -/
theorem tracks_perform (settings : Settings) (command : Command) (s : Spool) :
    Tracks ((station launch).recorded.perform settings command)
      ((station launch).perform settings command) s
      ((Action.ofCommand? settings command).toList.map .launch)
      (· = Action.ofCommand? settings command) s := by
  unfold Platform.perform
  cases Action.ofCommand? settings command with
  | none => exact tracks_pure rfl
  | some action =>
    refine (tracks_announce launch action command s).bind (fun _ _ => ?_)
    have hrun : Tracks ((station launch).recorded.run action) ((station launch).run action) s
        [.launch action] (fun _ => True) s :=
      (tracks_launch launch action s).bind (fun report _ =>
        (tracks_lines launch report.lines s).bind (fun _ _ => tracks_pure trivial))
    refine hrun.bind (fun result _ => ?_)
    refine (tracks_conclude launch action result s).bind (fun _ _ => ?_)
    exact tracks_pure rfl

theorem tracks_handle (hb : s.Bounded) (settings : Settings) (ref : Ref) :
    Tracks ((station launch).recorded.handle settings ref) ((station launch).handle settings ref) s
      (s.handlingCalls settings ref) (fun handled => handled.asRead = s.handledAs settings ref)
      (s.afterHandling ref) := by
  by_cases hf : s.format ref = .text
  · have hreply : s.replyTo? ref = replyTo (s.sender ref) (s.text ref) := if_pos hf
    have haction : s.actionFor? settings ref = actionOf settings (s.text ref) := if_pos hf
    have hformat := tracks_format launch ref s
    rw [hf] at hformat
    rw [Spool.handlingCalls, if_pos hf, Spool.handledAs, if_pos hf, Spool.afterHandling, hreply,
      haction]
    refine (tracks_info launch _ s).bind (fun _ _ => hformat.bind ?_)
    rintro _ rfl
    rw [if_pos rfl, if_pos rfl]
    refine (tracks_answerText launch hb ref).bind ?_
    rintro ⟨message, command, reply, sent, deleted, action⟩ hread
    simp only [Handled.asRead, Handled.mk.injEq] at hread
    obtain ⟨rfl, rfl, rfl, -, -, rfl⟩ := hread
    refine (tracks_release launch ref _).bind (fun _ _ => ?_)
    cases s.text ref with
    | error fault => exact tracks_pure rfl
    | ok text =>
      rw [← List.append_nil (List.map _ _)]
      refine (tracks_perform launch settings (Command.parse text) _).bind ?_
      rintro _ rfl
      exact tracks_pure rfl
  · have hspool : s.afterHandling ref = s.release ref := by
      simp only [Spool.afterHandling, Spool.replyTo?, if_neg hf]
      rfl
    rw [Spool.handlingCalls, if_neg hf, Spool.handledAs, if_neg hf, hspool]
    refine (tracks_info launch _ s).bind (fun _ _ => (tracks_format launch ref s).bind ?_)
    rintro _ rfl
    rw [if_neg hf, if_neg hf]
    refine (tracks_warn launch _ s).bind (fun _ _ => ?_)
    exact (tracks_release launch ref s).bind (fun _ _ => tracks_pure rfl)

end Gateway

end BuoyGateway
