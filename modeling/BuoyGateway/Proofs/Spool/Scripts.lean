import Mathlib.Data.List.Forall2
import BuoyGateway.Proofs.Spool.Attending
import BuoyGateway.Proofs.Spool.Reachable

/-!
# Scripts that touch the spool

A program that is launched may create, rewrite, move or remove any file of the spool while the gateway
attends to the events of a look. It makes no difference to the rest of the pass: what is left to do
was decided when the look read the messages.
-/

namespace BuoyGateway

def Exchange.launched? : Exchange → Option Action
  | .launch action => some action
  | _ => none

def Exchange.opens? : Exchange → Option Ref
  | .format ref _ => some ref
  | _ => none

def Event.ref? : Event → Option Ref
  | .received ref => some ref
  | .full _ => none

/-- What came of an event, but for what the disk answered. -/
def Attended.asRead : Attended → Attended
  | .handled message => .handled message.asRead
  | .full storage => .full storage

def Attended.reply? : Attended → Option Reply
  | .handled message => message.reply
  | .full _ => none

def Attended.action? : Attended → Option Action
  | .handled message => message.action
  | .full _ => none

def Incoming.sender? (r : Incoming) : Option String :=
  if numberLimit < Text.size r.sender then none else some r.sender

def Received.handled (message : Received) (settings : Settings) : Handled :=
  if message.record.format = .text then
    { message := some (Message.received (message.record.sender?.getD "") message.timestamp
        message.record.text)
      command := some (Command.parse message.record.text)
      reply := message.record.sender?.map
        (fun sender => ⟨sender, (Command.parse message.record.text).reply⟩)
      action := Action.ofCommand? settings (Command.parse message.record.text) }
  else {}

namespace Spool

variable {spool : Spool} {ref other : Ref} {message : Received} {settings : Settings}

theorem handledAs_of_received (h : spool.received? ref = some message) :
    spool.handledAs settings ref = message.handled settings := by
  have hformat : spool.format ref = message.record.format := by simp only [format, h]
  have htimestamp : spool.timestamp ref = .ok message.timestamp := by simp only [timestamp, h]
  have htext : spool.text ref = .ok message.record.text := by simp only [text, h]
  unfold handledAs Received.handled replyTo? actionFor?
  rw [hformat, htext, htimestamp]
  by_cases hf : message.record.format = .text
  · simp only [if_pos hf]
    by_cases hsize : numberLimit < Text.size message.record.sender
    · have hsender : spool.sender ref = .error .overflow := by simp only [sender, h, if_pos hsize]
      rw [hsender, Incoming.sender?, if_pos hsize]
      rfl
    · have hsender : spool.sender ref = .ok message.record.sender := by
        simp only [sender, h, if_neg hsize]
      rw [hsender, Incoming.sender?, if_neg hsize]
      rfl
  · simp only [if_neg hf]

/-! ### The events of a look -/

def eventCalls (settings : Settings) (spool : Spool) : Event → List Exchange
  | .received ref => spool.handlingCalls settings ref
  | .full _ => []

def outcome (settings : Settings) (spool : Spool) : Event → Attended
  | .received ref => .handled (spool.handledAs settings ref)
  | .full storage => .full storage

def afterEvent (spool : Spool) : Event → Spool
  | .received ref => spool.afterHandling ref
  | .full _ => spool

def eventsCalls (settings : Settings) : Spool → List Event → List Exchange
  | _, [] => []
  | spool, event :: events =>
    spool.eventCalls settings event ++ eventsCalls settings (spool.afterEvent event) events

theorem received?_afterHandling (h : other ≠ ref) :
    (spool.afterHandling ref).received? other = spool.received? other :=
  received?_release _ h

theorem bounded_afterEvent (hb : spool.Bounded) (event : Event) :
    (spool.afterEvent event).Bounded := by
  cases event with
  | received ref => exact hb.afterHandling ref
  | full storage => exact hb

theorem handledAs_congr {spool' : Spool} (h : spool'.received? ref = spool.received? ref) :
    spool'.handledAs settings ref = spool.handledAs settings ref := by
  have hformat : spool'.format ref = spool.format ref := by simp only [format, h]
  have hsender : spool'.sender ref = spool.sender ref := by simp only [sender, h]
  have htimestamp : spool'.timestamp ref = spool.timestamp ref := by simp only [timestamp, h]
  have htext : spool'.text ref = spool.text ref := by simp only [text, h]
  simp only [handledAs, replyTo?, actionFor?, hformat, hsender, htimestamp, htext]

/-- What comes of an event does not depend on those that were attended to before it. -/
theorem outcome_afterEvent {event event' : Event} (h : ∀ ref ∈ event'.ref?, ref ∉ event.ref?) :
    (spool.afterEvent event).outcome settings event' = spool.outcome settings event' := by
  cases event with
  | full storage => rfl
  | received ref =>
    cases event' with
    | full storage => rfl
    | received other =>
      have hne : other ≠ ref := fun he => h other rfl (he ▸ rfl)
      exact congrArg Attended.handled (handledAs_congr (received?_afterHandling hne))

theorem outcomes_afterEvent (spool : Spool) (settings : Settings) {event : Event}
    {events : List Event} (hnd : ((event :: events).filterMap Event.ref?).Nodup) :
    events.map ((spool.afterEvent event).outcome settings) = events.map (spool.outcome settings) ∧
      (events.filterMap Event.ref?).Nodup := by
  refine ⟨List.map_congr_left (fun event' he => outcome_afterEvent ?_),
    hnd.sublist ((List.sublist_cons_self _ _).filterMap _)⟩
  intro ref href hsame
  rw [List.filterMap_cons_some hsame, List.nodup_cons] at hnd
  exact hnd.1 (List.mem_filterMap.2 ⟨event', he, href⟩)

/-! ### Parts of the calls -/

/-- Sending a message opens no other and launches nothing. -/
theorem quiet_attemptCalls (ref : Ref) (destination text : String) :
    ∀ call ∈ attemptCalls ref destination text, call.opens? = none ∧ call.launched? = none := by
  have hfilling : ∀ call ∈ fillingCalls ref destination text,
      call.opens? = none ∧ call.launched? = none := by
    unfold fillingCalls
    split
    · simp [Exchange.opens?, Exchange.launched?]
    · split <;> simp [Exchange.opens?, Exchange.launched?]
  intro call hcall
  rw [attemptCalls, List.mem_append, List.mem_cons, List.mem_singleton] at hcall
  rcases hcall with (rfl | hcall) | rfl
  · exact ⟨rfl, rfl⟩
  · exact hfilling call hcall
  · exact ⟨rfl, rfl⟩

theorem quiet_answeringCalls (spool : Spool) (ref : Ref) :
    ∀ call ∈ spool.answeringCalls ref, call.opens? = none ∧ call.launched? = none := by
  intro call hcall
  simp only [answeringCalls, List.mem_append, List.mem_cons, List.not_mem_nil, or_false,
    List.mem_flatMap] at hcall
  rcases hcall with (rfl | rfl | rfl) | ⟨reply, -, hcall⟩ | rfl
  · exact ⟨rfl, rfl⟩
  · exact ⟨rfl, rfl⟩
  · exact ⟨rfl, rfl⟩
  · exact quiet_attemptCalls _ _ _ call hcall
  · exact ⟨rfl, rfl⟩

theorem opens_handlingCalls (spool : Spool) (settings : Settings) (ref : Ref) :
    (spool.handlingCalls settings ref).filterMap Exchange.opens? = [ref] := by
  have hquiet : (spool.answeringCalls ref).filterMap Exchange.opens? = [] :=
    List.filterMap_eq_nil_iff.2 (fun call hcall => (quiet_answeringCalls spool ref call hcall).1)
  have hlaunch : ∀ actions : List Action,
      (actions.map Exchange.launch).filterMap Exchange.opens? = [] := by
    intro actions
    rw [List.filterMap_map, List.filterMap_eq_nil_iff]
    exact fun _ _ => rfl
  unfold handlingCalls
  split
  · simp only [List.filterMap_cons, Exchange.opens?, List.filterMap_append, hquiet, hlaunch,
      List.nil_append]
  · rfl

theorem launched_handlingCalls (spool : Spool) (settings : Settings) (ref : Ref) :
    (spool.handlingCalls settings ref).filterMap Exchange.launched? =
      (spool.handledAs settings ref).action.toList := by
  have hquiet : (spool.answeringCalls ref).filterMap Exchange.launched? = [] :=
    List.filterMap_eq_nil_iff.2 (fun call hcall => (quiet_answeringCalls spool ref call hcall).2)
  have hlaunch : ∀ actions : List Action,
      (actions.map Exchange.launch).filterMap Exchange.launched? = actions := by
    intro actions
    rw [List.filterMap_map]
    exact List.filterMap_some
  unfold handlingCalls handledAs actionFor?
  split
  · simp only [List.filterMap_cons, Exchange.launched?, List.filterMap_append, hquiet, hlaunch,
      List.nil_append]
  · rfl

theorem opens_eventsCalls (spool : Spool) (settings : Settings) (events : List Event) :
    (spool.eventsCalls settings events).filterMap Exchange.opens? = events.filterMap Event.ref? := by
  induction events generalizing spool with
  | nil => rfl
  | cons event events ih =>
    rw [eventsCalls, List.filterMap_append, ih]
    cases event with
    | received ref => rw [eventCalls, opens_handlingCalls]; rfl
    | full storage => rfl

theorem launched_eventsCalls (spool : Spool) (settings : Settings) {events : List Event}
    (hnd : (events.filterMap Event.ref?).Nodup) :
    (spool.eventsCalls settings events).filterMap Exchange.launched? =
      (events.map (spool.outcome settings)).filterMap Attended.action? := by
  induction events generalizing spool with
  | nil => rfl
  | cons event events ih =>
    obtain ⟨hrest, hnd'⟩ := outcomes_afterEvent spool settings hnd
    rw [eventsCalls, List.filterMap_append, ih _ hnd', hrest, List.map_cons]
    cases event with
    | received ref =>
      rw [eventCalls, launched_handlingCalls, outcome]
      cases h : (spool.handledAs settings ref).action with
      | none => rw [List.filterMap_cons_none (by exact h)]; rfl
      | some action => rw [List.filterMap_cons_some (by exact h)]; rfl
    | full storage => rfl

end Spool

namespace Gateway

variable {ε : Type} {g : Gateway ε} {s : Spool} {events : List Event}

def attendNoted (st : Station (Gateway ε)) (settings : Settings) :
    Event → StateM (Gateway ε × List Exchange) Attended
  | .received ref => .handled <$> st.recorded.handle settings ref
  | .full storage => do
    st.recorded.handleFull storage
    pure (.full storage)

def attendAllNoted (st : Station (Gateway ε)) (settings : Settings) :
    List Event → StateM (Gateway ε × List Exchange) (List Attended)
  | [] => pure []
  | event :: events => do
    let attended ← attendNoted st settings event
    pure (attended :: (← attendAllNoted st settings events))

/-- One look at the inbox, and all that follows from it, with the calls that are made. -/
def passNoted (st : Station (Gateway ε)) (settings : Settings) :
    StateM (Gateway ε × List Exchange) (Except Failure (List Attended)) := do
  match ← Station.unnoted poll with
  | .error e => pure (.error e)
  | .ok events => .ok <$> attendAllNoted st settings events

variable (launch : Action → StateM (Machine ε) Report)

theorem tracks_attend (hb : s.Bounded) (settings : Settings) (event : Event) :
    Tracks (attendNoted (station launch) settings event) (attend (station launch) settings event) s
      (s.eventCalls settings event) (fun attended => attended.asRead = s.outcome settings event)
      (s.afterEvent event) := by
  cases event with
  | received ref =>
    rw [← List.append_nil (Spool.eventCalls _ _ _)]
    refine (tracks_handle launch hb settings ref).bind (fun handled h => tracks_pure ?_)
    exact congrArg Attended.handled h
  | full storage => exact (tracks_info launch _ s).bind (fun _ _ => tracks_pure rfl)

theorem tracks_attendAll (hb : s.Bounded) (settings : Settings)
    (hnd : (events.filterMap Event.ref?).Nodup) :
    Tracks (attendAllNoted (station launch) settings events)
      (attendAll (station launch) settings events) s (s.eventsCalls settings events)
      (fun attended => attended.map Attended.asRead = events.map (s.outcome settings))
      (events.foldl Spool.afterEvent s) := by
  induction events generalizing s with
  | nil => exact tracks_pure rfl
  | cons event events ih =>
    obtain ⟨hrest, hnd'⟩ := Spool.outcomes_afterEvent s settings hnd
    have h := ih (Spool.bounded_afterEvent hb event) hnd'
    refine (tracks_attend launch hb settings event).bind (fun attended hattended => ?_)
    rw [← List.append_nil (Spool.eventsCalls _ _ _)]
    refine h.bind (fun more hmore => tracks_pure ?_)
    rw [List.map_cons, List.map_cons, hattended, hmore, hrest]

/-! ### A pass -/

theorem refs_notices (g : Gateway ε) (names : List String) :
    (g.notices names).filterMap Event.ref? = [] := by
  rw [List.filterMap_eq_nil_iff]
  intro event he
  cases event with
  | full storage => rfl
  | received ref => exact absurd he (Spool.received_notMem_noticeFull _ _ ref)

theorem refs_poll (hp : (poll g).1 = .ok events) : (events.filterMap Event.ref?).Nodup ∧
    ∀ ref, .received ref ∈ events → ∃ message, (poll g).2.spool.received? ref = some message := by
  obtain ⟨names, hn⟩ := recordNames_of_poll hp
  have hnotice : ∀ ref, .received ref ∉ g.notices names := Spool.received_notMem_noticeFull _ _
  cases hs : g.spool.hasSubscriber .messages with
  | false =>
    rw [poll_unheard hn hs] at hp
    cases hp
    rw [refs_notices]
    exact ⟨List.nodup_nil, fun ref he => absurd he (hnotice ref)⟩
  | true =>
    rw [poll_heard hn hs, pollFiles_eq] at hp
    cases hp
    constructor
    · have hrefs : ∀ entries : List (Ref × Received),
          (entries.map (fun e => Event.received e.1)).filterMap Event.ref? =
            entries.map Prod.fst := by
        intro entries
        rw [List.filterMap_map, ← List.filterMap_eq_map]
        rfl
      rw [List.filterMap_append, refs_notices, hrefs]
      exact Spool.nodup_numbered _ _
    · intro ref he
      rw [List.mem_append, or_iff_right (hnotice ref)] at he
      obtain ⟨entry, hentry, href⟩ := List.mem_map.1 he
      cases href
      rw [poll_heard hn hs, pollFiles_eq, afterFiles_spool]
      exact ⟨entry.2, Spool.received?_receiveAll _ _ hentry⟩

/-- An event is dealt with: a message is handled by what its file read as when the look came to it. -/
def DealtWith (g : Gateway ε) (settings : Settings) : Event → Attended → Prop
  | .received ref, attended => ∃ message, (poll g).2.spool.received? ref = some message ∧
      (g.atFile message.name).readIncoming message.name = .ok message.record ∧
      attended.asRead = .handled (message.handled settings)
  | .full storage, attended => attended = .full storage

def repliesOf : Except Failure (List Attended) → List Reply
  | .error _ => []
  | .ok attended => attended.filterMap Attended.reply?

theorem unnoted_poll {result : Except Failure (List Event)} (h : (poll g).1 = result) :
    Station.unnoted poll (g, []) = (result, (poll g).2, []) ∧ poll g = (result, (poll g).2) := by
  subst h
  exact ⟨rfl, rfl⟩

theorem passNoted_failed (st : Station (Gateway ε)) (settings : Settings) {why : Failure}
    (h : (poll g).1 = .error why) : passNoted st settings (g, []) = (.error why, (poll g).2, []) ∧
      pass st settings g = (.error why, (poll g).2) := by
  obtain ⟨hnoted, hpoll⟩ := unnoted_poll h
  constructor
  · rw [passNoted, bind_of_eq hnoted]
    rfl
  · rw [pass, bind_of_eq hpoll]
    rfl

theorem passNoted_looked (hb : g.spool.Bounded) (settings : Settings)
    (hp : (poll g).1 = .ok events) : ∃ attended made,
    passNoted (station launch) settings (g, []) =
        (.ok attended, (pass (station launch) settings g).2, made) ∧
      (pass (station launch) settings g).1 = .ok attended ∧
      attended.map Attended.asRead = events.map ((poll g).2.spool.outcome settings) ∧
      made.map Exchange.asked = (poll g).2.spool.eventsCalls settings events := by
  obtain ⟨hnoted, hpoll⟩ := unnoted_poll hp
  have htracks := tracks_attendAll launch (bounded_poll hb) settings (refs_poll hp).1
  obtain ⟨made, hmade, hcalls, hattended, -⟩ := htracks (poll g).2 [] rfl
  have hpass := pass_looked (station launch) settings hpoll
  refine ⟨_, made, ?_, congrArg Prod.fst hpass, hattended, hcalls⟩
  rw [passNoted, bind_of_eq hnoted, hpass]
  change ((Except.ok <$> attendAllNoted (station launch) settings events) : StateM _ _) _ = _
  rw [← bind_pure_comp, bind_of_eq hmade]
  rfl

theorem dealtWith_of_outcome {settings : Settings} {event : Event} {attended : Attended}
    (hp : (poll g).1 = .ok events) (he : event ∈ events)
    (h : attended.asRead = (poll g).2.spool.outcome settings event) :
    g.DealtWith settings event attended := by
  cases event with
  | full storage =>
    cases attended with
    | full storage' => exact h
    | handled message => cases h
  | received ref =>
    obtain ⟨message, hm⟩ := (refs_poll hp).2 ref he
    refine ⟨message, hm, readIncoming_of_received hp he hm, h.trans ?_⟩
    exact congrArg Attended.handled (Spool.handledAs_of_received hm)

theorem forall₂_of_map_eq {α β γ : Type} {f : α → γ} {f' : β → γ} {r : β → α → Prop}
    {as : List α} {bs : List β} (h : as.map f = bs.map f')
    (hr : ∀ a, ∀ b ∈ bs, f a = f' b → r b a) : List.Forall₂ r bs as := by
  induction bs generalizing as with
  | nil =>
    rw [List.map_eq_nil_iff.1 h]
    exact .nil
  | cons b bs ih =>
    obtain ⟨a, as, rfl, ha, has⟩ := List.map_eq_cons_iff.1 h
    exact .cons (hr a b List.mem_cons_self ha)
      (ih has (fun a' b' hb => hr a' b' (List.mem_cons_of_mem _ hb)))

theorem filterMap_asked {α : Type} {f : Exchange → Option α} (h : ∀ call, f call.asked = f call)
    (calls : List Exchange) : (calls.map Exchange.asked).filterMap f = calls.filterMap f := by
  rw [List.filterMap_map]
  exact List.filterMap_congr (fun call _ => h call)

theorem filterMap_asRead {α : Type} {f : Attended → Option α} (h : ∀ a, f a.asRead = f a)
    (attended : List Attended) :
    (attended.map Attended.asRead).filterMap f = attended.filterMap f := by
  rw [List.filterMap_map]
  exact List.filterMap_congr (fun a _ => h a)

theorem launched?_asked (call : Exchange) : call.asked.launched? = call.launched? := by
  cases call <;> rfl

theorem opens?_asked (call : Exchange) : call.asked.opens? = call.opens? := by
  cases call <;> rfl

theorem reply?_asRead (attended : Attended) : attended.asRead.reply? = attended.reply? := by
  cases attended <;> rfl

theorem action?_asRead (attended : Attended) : attended.asRead.action? = attended.action? := by
  cases attended <;> rfl

/-- Two ways to launch programs, which may answer differently and do different things to the disk, lead
to the same calls in a pass, but for whether files could be deleted and queued: the same actions are
launched and the same replies tried, in the same order. Every event of the look is dealt with once,
in order, by what the look has read. A look that fails leads to nothing. -/
theorem pass_any_launch (hg : g.Reachable) (settings : Settings)
    (launch launch' : Action → StateM (Machine ε) Report) :
    let run := passNoted (station launch) settings (g, [])
    let run' := passNoted (station launch') settings (g, [])
    (run.1, run.2.1) = pass (station launch) settings g ∧
    run.2.2.map Exchange.asked = run'.2.2.map Exchange.asked ∧
    run.2.2.filterMap Exchange.launched? = run'.2.2.filterMap Exchange.launched? ∧
    repliesOf run.1 = repliesOf run'.1 ∧
    (∀ events, (poll g).1 = .ok events → ∃ attended, run.1 = .ok attended ∧
      List.Forall₂ (g.DealtWith settings) events attended ∧
      run.2.2.filterMap Exchange.opens? = events.filterMap Event.ref? ∧
      run.2.2.filterMap Exchange.launched? = attended.filterMap Attended.action?) ∧
    (∀ why, (poll g).1 = .error why → run = (.error why, (poll g).2, [])) := by
  intro run run'
  cases hp : (poll g).1 with
  | error why =>
    obtain ⟨hrun, hpass⟩ := passNoted_failed (station launch) settings hp
    obtain ⟨hrun', -⟩ := passNoted_failed (station launch') settings hp
    simp only [run, run', hrun, hrun', hpass]
    refine ⟨trivial, trivial, trivial, trivial, nofun, ?_⟩
    rintro _ ⟨⟩
    rfl
  | ok events =>
    obtain ⟨attended, made, hrun, hpass, hattended, hmade⟩ :=
      passNoted_looked launch hg.bounded settings hp
    obtain ⟨attended', made', hrun', -, hattended', hmade'⟩ :=
      passNoted_looked launch' hg.bounded settings hp
    have hlaunched := filterMap_asked launched?_asked made
    have hreplies := filterMap_asRead reply?_asRead attended
    simp only [run, run', hrun, hrun']
    refine ⟨Prod.ext hpass.symm rfl, hmade.trans hmade'.symm, ?_, ?_, ?_, nofun⟩
    · rw [← hlaunched, hmade, ← hmade', filterMap_asked launched?_asked]
    · simp only [repliesOf]
      rw [← hreplies, hattended, ← hattended', filterMap_asRead reply?_asRead]
    · rintro _ ⟨⟩
      refine ⟨attended, rfl, forall₂_of_map_eq hattended
        (fun a event he h => dealtWith_of_outcome hp he h), ?_, ?_⟩
      · rw [← filterMap_asked opens?_asked, hmade, Spool.opens_eventsCalls]
      · rw [← hlaunched, hmade, Spool.launched_eventsCalls _ _ (refs_poll hp).1, ← hattended,
          filterMap_asRead action?_asRead]

theorem passNoted_eq {polled : Gateway ε} (st : Station (Gateway ε)) (settings : Settings)
    (h : poll g = (.ok events, polled)) : passNoted st settings (g, []) =
      ((Except.ok <$> attendAllNoted st settings events) : StateM _ _) (polled, []) := by
  have hnoted : Station.unnoted poll (g, []) = (.ok events, polled, []) := by
    simp only [Station.unnoted, h]
  rw [passNoted, bind_of_eq hnoted]

/-- A script that wipes the disk changes nothing of what is launched after it. -/
theorem pass_any_launch_wiping :
    let machine : Machine Unit := Machine.withMail (Machine.withMail ⟨Disk.emptySpool, [], ()⟩
      "2.json" ⟨"+1", none, "ULPM 30", .text⟩) "1.json" ⟨"+64211234567", none, "REBOOT", .text⟩
    let g := (opened machine Settings.below).move (.subscribe .messages)
    let wiping : Action → StateM (Machine Unit) Report := fun _ machine =>
      (⟨["wiped"], .ok .abnormal⟩, { machine with disk := Disk.blank machine.disk.now })
    (passNoted (station wiping) Settings.below (g, [])).2.2.filterMap Exchange.launched? =
      [⟨Settings.below.rebootDir, ⟨Settings.below.rebootCommand, []⟩⟩,
        ⟨Settings.below.scriptsDir, ⟨Settings.below.ulpmScript, ["30"]⟩⟩] := by
  intro machine g wiping
  let quiet : Action → StateM (Machine Unit) Report := fun _ => pure ⟨[], .ok (.exited 0)⟩
  have h := (pass_any_launch ((Reachable.opened machine Settings.below).move (.subscribe .messages))
    Settings.below quiet wiping).2.2.1
  have hlist : g.disk.list g.spool.inbox = .ok ["1.json", "2.json"] := by decide +kernel
  have hnames : g.disk.recordNames g.spool.inbox = .ok ["1.json", "2.json"] :=
    Disk.recordNames_of_list hlist (by decide +kernel)
  have hpoll := poll_heard hnames (by decide +kernel)
  rw [← h, passNoted_eq (station quiet) Settings.below hpoll]
  decide +kernel

end Gateway

end BuoyGateway
