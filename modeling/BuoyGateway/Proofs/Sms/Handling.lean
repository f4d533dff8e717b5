import BuoyGateway.Proofs.Sms.Exchange
import BuoyGateway.Proofs.Text.Clip

/-!
# What handling a message calls

`Attempt` lists the calls by which one message is sent, up to the first step that fails, and
`Handling` those by which a received message is handled, each with what comes of it. The main
statement is that every station, whatever its modem answers, handles every message by such calls.
-/

namespace BuoyGateway

/-- The calls that try to send a message, and what comes of them. -/
inductive Attempt (destination text : String) : List Exchange → Except SendFailure Unit → Prop
  | refused : Attempt destination text [.create none] (.error .creation)
  | destination (ref : Ref) (fault : Fault) :
      Attempt destination text
        [.create (some ref), .setDestination ref destination (.error fault), .release ref]
        (.error (.destination fault))
  | text (ref : Ref) (fault : Fault) :
      Attempt destination text
        [.create (some ref), .setDestination ref destination (.ok ()),
          .setText ref text (.error fault), .release ref]
        (.error (.text fault))
  | sending (ref : Ref) (fault : Fault) :
      Attempt destination text
        [.create (some ref), .setDestination ref destination (.ok ()), .setText ref text (.ok ()),
          .send ref (.error fault), .release ref]
        (.error (.sending fault))
  | sent (ref : Ref) :
      Attempt destination text
        [.create (some ref), .setDestination ref destination (.ok ()), .setText ref text (.ok ()),
          .send ref (.ok ()), .release ref]
        (.ok ())

/-- The calls that answer with a reply, if there is one, and whether it was sent. -/
inductive Answering : Option Reply → List Exchange → Bool → Prop
  | silent : Answering none [] false
  | replied {reply : Reply} {calls : List Exchange} {result : Except SendFailure Unit}
      (h : Attempt reply.destination reply.text calls result) :
      Answering (some reply) calls result.isOk

def replyTo : Except Fault String → Except Fault String → Option Reply
  | .ok sender, .ok text => some ⟨sender, (Command.parse text).reply⟩
  | _, _ => none

def actionOf (settings : Settings) (text : Except Fault String) : Option Action :=
  text.toOption.bind (fun text => Action.ofCommand? settings (Command.parse text))

/-- The calls that handle a received message, and what is said about it afterwards. -/
inductive Handling (settings : Settings) (ref : Ref) : List Exchange → Handled → Prop
  | other {format : MessageFormat} (h : format ≠ .text) :
      Handling settings ref [.format ref format, .release ref] {}
  | text (sender timestamp text : Except Fault String) (deletion : Except Fault Unit)
      {sending : List Exchange} {sent : Bool} (h : Answering (replyTo sender text) sending sent) :
      Handling settings ref
        ([.format ref .text, .sender ref sender, .timestamp ref timestamp, .text ref text] ++
          sending ++ [.delete ref deletion, .release ref] ++
          (actionOf settings text).toList.map .launch)
        { message := text.toOption.map
            (Message.received (sender.toOption.getD "") (timestamp.toOption.getD ""))
          command := text.toOption.map Command.parse
          reply := replyTo sender text
          replySent := sent
          deleted := deletion.isOk
          action := actionOf settings text }

theorem Command.size_reply (command : Command) : Text.size command.reply ≤ textLimit :=
  Text.size_clip_le _ textLimit

theorem Reply.compose_reply (destination : String) (command : Command) :
    Reply.compose destination command.reply = ⟨destination, command.reply⟩ := by
  rw [Reply.compose, (Text.clip_eq_self_iff _ _).2 command.size_reply]

namespace Station

variable {σ : Type}

/-! ### Sending -/

theorem performs_check (st : Station σ) (step : String) (failure : Fault → SendFailure)
    (answer : Except Fault Unit) :
    Performs (st.recorded.check step failure answer) (st.check step failure answer)
      (fun made result => made = [] ∧ result = answer.mapError failure) := by
  cases answer with
  | ok _ => exact performs_pure ⟨rfl, rfl⟩
  | error fault =>
    refine (performs_error st _).bind ?_
    rintro _ _ rfl
    exact performs_pure ⟨rfl, rfl⟩

/-- A message that was begun is filled in and sent by what an attempt calls before it is given
up. -/
theorem performs_fillAndSend (st : Station σ) (ref : Ref) (destination text : String) :
    Performs (st.recorded.fillAndSend ref destination text) (st.fillAndSend ref destination text)
      (fun made result =>
        Attempt destination text (.create (some ref) :: made ++ [.release ref]) result) := by
  refine (performs_noted _ _).bind ?_
  rintro _ answer rfl
  refine (performs_check st _ _ answer).bind ?_
  rintro _ _ ⟨rfl, rfl⟩
  cases answer with
  | error fault => exact performs_pure (.destination ref fault)
  | ok _ =>
    refine (performs_noted _ _).bind ?_
    rintro _ answer rfl
    refine (performs_check st _ _ answer).bind ?_
    rintro _ _ ⟨rfl, rfl⟩
    cases answer with
    | error fault => exact performs_pure (.text ref fault)
    | ok _ =>
      refine (performs_noted _ _).bind ?_
      rintro _ answer rfl
      refine (performs_check st _ _ answer).bind ?_
      rintro _ _ ⟨rfl, rfl⟩
      cases answer with
      | error fault => exact performs_pure (.sending ref fault)
      | ok _ =>
        refine (performs_info st _).bind ?_
        rintro _ _ rfl
        exact performs_pure (.sent ref)

theorem performs_sendMessage (st : Station σ) (destination text : String) :
    Performs (st.recorded.sendMessage destination text) (st.sendMessage destination text)
      (Attempt destination text) := by
  refine (performs_noted _ _).bind ?_
  rintro _ answer rfl
  cases answer with
  | none =>
    refine (performs_error st _).bind ?_
    rintro _ _ rfl
    exact performs_pure .refused
  | some ref =>
    refine (performs_fillAndSend st ref destination text).bind ?_
    intro made result h
    refine (performs_release st ref).bind ?_
    rintro _ _ rfl
    refine performs_pure ?_
    simpa only [List.append_nil, List.cons_append, List.nil_append] using h

/-! ### Handling -/

theorem performs_readPart (st : Station σ) (operation : String) (shown : String → String)
    (answer : Except Fault String) :
    Performs (st.recorded.readPart operation shown answer) (st.readPart operation shown answer)
      (fun made value => made = [] ∧ value = answer.toOption) := by
  cases answer with
  | ok value =>
    refine (performs_info st _).bind ?_
    rintro _ _ rfl
    exact performs_pure ⟨rfl, rfl⟩
  | error fault =>
    refine (performs_error st _).bind ?_
    rintro _ _ rfl
    exact performs_pure ⟨rfl, rfl⟩

theorem performs_sendReply (st : Station σ) (sender text : String) :
    Performs (st.recorded.answer (some sender) (some (Command.parse text)))
      (st.answer (some sender) (some (Command.parse text)))
      (fun made result => result.1 = some ⟨sender, (Command.parse text).reply⟩ ∧
        Answering result.1 made result.2) := by
  have hr := Reply.compose_reply sender (Command.parse text)
  refine (performs_sendMessage st _ _).bind ?_
  rw [hr]
  intro made result h
  cases result with
  | ok _ =>
    refine (performs_info st _).bind ?_
    rintro _ _ rfl
    refine performs_pure ⟨rfl, ?_⟩
    simp only [List.append_nil]
    exact .replied h
  | error e =>
    refine (performs_error st _).bind ?_
    rintro _ _ rfl
    refine performs_pure ⟨rfl, ?_⟩
    simp only [List.append_nil]
    exact .replied h

theorem performs_answer (st : Station σ) (sender text : Except Fault String) :
    Performs (st.recorded.answer sender.toOption (text.toOption.map Command.parse))
      (st.answer sender.toOption (text.toOption.map Command.parse))
      (fun made result => result.1 = replyTo sender text ∧
        Answering (replyTo sender text) made result.2) := by
  cases sender with
  | error fault =>
    refine (performs_warn st _).bind ?_
    rintro _ _ rfl
    exact performs_pure ⟨rfl, .silent⟩
  | ok sender =>
    cases text with
    | error fault =>
      refine (performs_warn st _).bind ?_
      rintro _ _ rfl
      exact performs_pure ⟨rfl, .silent⟩
    | ok text =>
      refine (performs_sendReply st sender text).mono ?_
      rintro made ⟨reply, sent⟩ ⟨rfl, h⟩
      exact ⟨rfl, h⟩

theorem performs_discard (st : Station σ) (ref : Ref) :
    Performs (st.recorded.discard ref) (st.discard ref)
      (fun made deleted => ∃ answer : Except Fault Unit,
        made = [.delete ref answer] ∧ deleted = answer.isOk) := by
  refine (performs_noted _ _).bind ?_
  rintro _ answer rfl
  cases answer with
  | ok _ =>
    refine (performs_info st _).bind ?_
    rintro _ _ rfl
    exact performs_pure ⟨.ok (), rfl, rfl⟩
  | error fault =>
    refine (performs_error st _).bind ?_
    rintro _ _ rfl
    exact performs_pure ⟨.error fault, rfl, rfl⟩

theorem performs_answerText (st : Station σ) (settings : Settings) (ref : Ref) :
    Performs (st.recorded.answerText ref) (st.answerText ref)
      (fun made handled => ∃ text, handled.command = text.toOption.map Command.parse ∧
        handled.action = none ∧
        Handling settings ref
          (.format ref .text :: made ++ .release ref :: (actionOf settings text).toList.map .launch)
          { handled with action := actionOf settings text }) := by
  refine (performs_noted _ _).bind ?_
  rintro _ sender rfl
  refine (performs_readPart st _ _ sender).bind ?_
  rintro _ _ ⟨rfl, rfl⟩
  refine (performs_noted _ _).bind ?_
  rintro _ timestamp rfl
  refine (performs_readPart st _ _ timestamp).bind ?_
  rintro _ _ ⟨rfl, rfl⟩
  refine (performs_noted _ _).bind ?_
  rintro _ text rfl
  refine (performs_readPart st _ _ text).bind ?_
  rintro _ _ ⟨rfl, rfl⟩
  refine (performs_answer st sender text).bind ?_
  rintro sending ⟨reply, sent⟩ ⟨rfl, h⟩
  refine (performs_discard st ref).bind ?_
  rintro _ _ ⟨deletion, rfl, rfl⟩
  refine performs_pure ⟨text, rfl, rfl, ?_⟩
  simpa only [List.cons_append, List.nil_append, List.append_nil, List.append_assoc] using
    Handling.text sender timestamp text deletion h

theorem performs_run (st : Station σ) (action : Action) :
    Performs (st.recorded.run action) (st.run action) (fun made _ => made = [.launch action]) := by
  refine (performs_noted (fun _ => .launch action) _).bind ?_
  rintro _ report rfl
  refine (performs_lines st report.lines).bind ?_
  rintro _ _ rfl
  exact performs_pure rfl

theorem performs_announce (st : Station σ) (action : Action) (command : Command) :
    Performs (st.recorded.announce action command) (st.announce action command)
      (fun made _ => made = []) := by
  cases command with
  | upgrade version =>
    refine (performs_info st _).bind ?_
    rintro _ _ rfl
    exact performs_info st _
  | reboot => exact performs_info st _
  | sleep seconds => exact performs_info st _
  | unknown text => exact performs_info st _

theorem performs_conclude (st : Station σ) (action : Action)
    (result : Except SystemError Ending) :
    Performs (st.recorded.conclude action result) (st.conclude action result)
      (fun made _ => made = []) := by
  cases result with
  | error e => exact performs_error st _
  | ok ending =>
    dsimp only [Platform.conclude]
    by_cases h : ending.isSuccess = true
    · rw [if_pos h, if_pos h]
      exact performs_pure rfl
    · rw [if_neg h, if_neg h]
      exact performs_error st _

/-- At most one program is launched for a command, and its action is told. -/
theorem performs_perform (st : Station σ) (settings : Settings) (command : Command) :
    Performs (st.recorded.perform settings command) (st.perform settings command)
      (fun made action => action = Action.ofCommand? settings command ∧
        made = action.toList.map .launch) := by
  unfold Platform.perform
  cases Action.ofCommand? settings command with
  | none => exact performs_pure ⟨rfl, rfl⟩
  | some action =>
    refine (performs_announce st action command).bind ?_
    rintro _ _ rfl
    refine (performs_run st action).bind ?_
    rintro _ result rfl
    refine (performs_conclude st action result).bind ?_
    rintro _ _ rfl
    exact performs_pure ⟨rfl, rfl⟩

/-- Every station handles every message by the calls listed in `Handling`, and by no others. -/
theorem handle_calls (st : Station σ) (settings : Settings) (ref : Ref) (s : σ)
    (past : List Exchange) :
    ∃ made, st.recorded.handle settings ref (s, past) =
        ((st.handle settings ref s).1, (st.handle settings ref s).2, past ++ made) ∧
      Handling settings ref made (st.handle settings ref s).1 := by
  revert s past
  refine (performs_info st _).bind ?_
  rintro _ _ rfl
  refine (performs_noted _ _).bind ?_
  rintro _ format rfl
  dsimp only
  by_cases hf : format = .text
  · subst hf
    rw [if_pos rfl, if_pos rfl]
    refine (performs_answerText st settings ref).bind ?_
    rintro made ⟨message, _, reply, sent, deleted, _⟩ ⟨text, rfl, rfl, h⟩
    refine (performs_release st ref).bind ?_
    rintro _ _ rfl
    cases text with
    | error fault => exact performs_pure h
    | ok text =>
      refine (performs_perform st settings (Command.parse text)).bind ?_
      rintro _ action ⟨rfl, rfl⟩
      have haction : actionOf settings (.ok text) =
          Action.ofCommand? settings (Command.parse text) := rfl
      refine performs_pure ?_
      simpa only [haction, List.nil_append, List.append_nil, List.cons_append] using h
  · rw [if_neg hf, if_neg hf]
    refine (performs_warn st _).bind ?_
    rintro _ _ rfl
    change Performs (st.recorded.modem.release ref >>= fun _ => pure ({} : Handled))
      (st.modem.release ref >>= fun _ => pure ({} : Handled)) _
    refine (performs_release st ref).bind ?_
    rintro _ _ rfl
    exact performs_pure (.other hf)

end Station

end BuoyGateway
