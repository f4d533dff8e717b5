import BuoyGateway.Proofs.Sms.Handling
import BuoyGateway.Proofs.Steps

/-!
# The steps of sending

A message is sent in three steps after it was begun, each of which the host may refuse. The main
statement says which calls a host gets, whatever it answers: the steps up to the first that it refuses,
all on the message that was begun, and then one call that gives the message up. The host's own fault is
what comes of it.
-/

namespace BuoyGateway

namespace Exchange

def failure? : Exchange → Option SendFailure
  | .create none => some .creation
  | .setDestination _ _ (.error fault) => some (.destination fault)
  | .setText _ _ (.error fault) => some (.text fault)
  | .send _ (.error fault) => some (.sending fault)
  | _ => none

/-- The calls up to the first that was refused, with that one; all of them if none was. -/
def untilFailure : List Exchange → List Exchange
  | [] => []
  | call :: calls => if call.failure?.isSome then [call] else call :: untilFailure calls

def outcome (calls : List Exchange) : Except SendFailure Unit :=
  match calls.findSome? failure? with
  | none => .ok ()
  | some e => .error e

variable {call : Exchange} {calls : List Exchange} {e : SendFailure}

theorem untilFailure_of_refused (h : call.failure? = some e) (calls : List Exchange) :
    untilFailure (call :: calls) = [call] := by
  rw [untilFailure, h, Option.isSome_some, if_pos rfl]

theorem untilFailure_of_accepted (h : call.failure? = none) (calls : List Exchange) :
    untilFailure (call :: calls) = call :: untilFailure calls := by
  rw [untilFailure, h, Option.isSome_none, if_neg Bool.false_ne_true]

theorem outcome_eq_ok_iff : outcome calls = .ok () ↔ ∀ call ∈ calls, call.failure? = none := by
  rw [outcome, ← List.findSome?_eq_none_iff]
  cases calls.findSome? failure? with
  | none => exact iff_of_true rfl rfl
  | some e => exact iff_of_false nofun nofun

/-- Of the calls up to the first that was refused, only the last one was. -/
theorem outcome_untilFailure_eq_error_iff :
    outcome (untilFailure calls) = .error e ↔
      ∃ call ∈ untilFailure calls, call.failure? = some e := by
  induction calls with
  | nil =>
    rw [untilFailure]
    exact iff_of_false nofun (by simp)
  | cons call calls ih =>
    cases h : call.failure? with
    | none =>
      rw [untilFailure_of_accepted h, outcome, List.findSome?_cons_of_isNone (by rw [h]; rfl)]
      refine ih.trans ?_
      simp only [List.mem_cons, exists_eq_or_imp, h, reduceCtorEq, false_or]
    | some e' =>
      rw [untilFailure_of_refused h, outcome, List.findSome?_cons_of_isSome (by rw [h]; rfl), h]
      simp only [List.mem_singleton, exists_eq_left, h, Except.error.injEq, Option.some.injEq]

end Exchange

namespace Station

open Exchange (untilFailure outcome)

variable {σ : Type}

/-- The steps that send a message which was begun, with the answers of the host when it is asked for
one after the other. -/
def steps (st : Station σ) (ref : Ref) (destination text : String) (s : σ) : List Exchange :=
  let first := st.modem.setDestination ref destination s
  let second := st.modem.setText ref text first.2
  let third := st.modem.send ref second.2
  [.setDestination ref destination first.1, .setText ref text second.1, .send ref third.1]

theorem check_ok (st : Station σ) (step : String) (failure : Fault → SendFailure) (s : σ) :
    st.check step failure (.ok ()) s = (.ok (), s) := rfl

/-- A message that was begun gets the steps up to the first that is refused. -/
theorem fillAndSend_recorded (st : Station σ) (ref : Ref) (destination text : String) (s : σ)
    (past : List Exchange) : ∃ s',
      st.recorded.fillAndSend ref destination text (s, past) =
        (outcome (untilFailure (st.steps ref destination text s)), s',
          past ++ untilFailure (st.steps ref destination text s)) := by
  obtain ⟨a, s₁, hfirst⟩ : ∃ a s₁, st.modem.setDestination ref destination s = (a, s₁) := ⟨_, _, rfl⟩
  obtain ⟨b, s₂, hsecond⟩ : ∃ b s₂, st.modem.setText ref text s₁ = (b, s₂) := ⟨_, _, rfl⟩
  obtain ⟨c, s₃, hthird⟩ : ∃ c s₃, st.modem.send ref s₂ = (c, s₃) := ⟨_, _, rfl⟩
  have hsteps : st.steps ref destination text s =
      [.setDestination ref destination a, .setText ref text b, .send ref c] := by
    simp only [steps, hfirst, hsecond, hthird]
  have hset : st.recorded.modem.setDestination ref destination (s, past) =
      (a, s₁, past ++ [.setDestination ref destination a]) := noted_of_eq hfirst past
  rw [hsteps, fillAndSend, bind_of_eq hset]
  cases a with
  | error fault => exact ⟨_, rfl⟩
  | ok _ =>
    have htext : ∀ past, st.recorded.modem.setText ref text (s₁, past) =
        (b, s₂, past ++ [.setText ref text b]) := noted_of_eq hsecond
    rw [bind_of_eq (check_ok _ _ _ _)]
    dsimp only
    rw [bind_of_eq (htext _), List.append_assoc]
    cases b with
    | error fault => exact ⟨_, rfl⟩
    | ok _ =>
      have hsend : ∀ past, st.recorded.modem.send ref (s₂, past) =
          (c, s₃, past ++ [.send ref c]) := noted_of_eq hthird
      rw [bind_of_eq (check_ok _ _ _ _)]
      dsimp only
      rw [bind_of_eq (hsend _), List.append_assoc]
      cases c with
      | error fault => exact ⟨_, rfl⟩
      | ok _ => exact ⟨_, rfl⟩

theorem sendMessage_recorded_refused {st : Station σ} {s s' : σ}
    (h : st.modem.create s = (none, s')) (destination text : String) (past : List Exchange) : ∃ s'',
      st.recorded.sendMessage destination text (s, past) =
        (.error .creation, s'', past ++ [.create none]) := by
  have hbegin : st.recorded.modem.create (s, past) = (none, s', past ++ [.create none]) :=
    noted_of_eq h past
  rw [sendMessage, bind_of_eq hbegin]
  exact ⟨_, rfl⟩

theorem sendMessage_recorded_begun {st : Station σ} {s s' : σ} {ref : Ref}
    (h : st.modem.create s = (some ref, s')) (destination text : String) (past : List Exchange) :
    ∃ s'', st.recorded.sendMessage destination text (s, past) =
      (outcome (untilFailure (st.steps ref destination text s')), s'',
        past ++ .create (some ref) ::
          (untilFailure (st.steps ref destination text s') ++ [.release ref])) := by
  have hbegin : st.recorded.modem.create (s, past) =
      (some ref, s', past ++ [.create (some ref)]) := noted_of_eq h past
  obtain ⟨s'', hfill⟩ :=
    fillAndSend_recorded st ref destination text s' (past ++ [.create (some ref)])
  have hlist : ∀ calls : List Exchange, past ++ .create (some ref) :: (calls ++ [.release ref]) =
      past ++ [.create (some ref)] ++ calls ++ [.release ref] := by
    simp only [List.append_assoc, List.cons_append, List.nil_append, implies_true]
  rw [sendMessage, bind_of_eq hbegin, hlist]
  dsimp only
  rw [bind_of_eq hfill]
  exact ⟨(st.modem.release ref s'').2, rfl⟩

/-- Sending a message calls the host to begin it. If the host cannot, there is no other call. If it
can, the steps follow up to the first that it refuses, all on the message that was begun, and as the
last call the message is given up, once. The message is sent if no step was refused; otherwise the
failure is that of the step that was, with the host's own fault. -/
theorem sendMessage_steps (st : Station σ) (destination text : String) (s : σ)
    (past : List Exchange) :
    ∃ made, st.recorded.sendMessage destination text (s, past) =
        ((st.sendMessage destination text s).1, (st.sendMessage destination text s).2, past ++ made) ∧
      match st.modem.create s with
      | (none, _) =>
        made = [.create none] ∧ (st.sendMessage destination text s).1 = .error .creation
      | (some ref, s') =>
        let steps := untilFailure (st.steps ref destination text s')
        made = .create (some ref) :: (steps ++ [.release ref]) ∧
          ((st.sendMessage destination text s).1 = .ok () ↔
            ∀ call ∈ steps, call.failure? = none) ∧
          ∀ e, (st.sendMessage destination text s).1 = .error e ↔
            ∃ call ∈ steps, call.failure? = some e := by
  obtain ⟨made, hmade, -⟩ := performs_sendMessage st destination text s past
  refine ⟨made, hmade, ?_⟩
  match hcreate : st.modem.create s with
  | (none, s') =>
    obtain ⟨_, hcalls⟩ := sendMessage_recorded_refused hcreate destination text past
    obtain ⟨hresult, hafter⟩ := Prod.mk.inj (hmade.symm.trans hcalls)
    obtain ⟨-, hcalls⟩ := Prod.mk.inj hafter
    exact ⟨List.append_cancel_left hcalls, hresult⟩
  | (some ref, s') =>
    obtain ⟨_, hcalls⟩ := sendMessage_recorded_begun hcreate destination text past
    obtain ⟨hresult, hafter⟩ := Prod.mk.inj (hmade.symm.trans hcalls)
    obtain ⟨-, hcalls⟩ := Prod.mk.inj hafter
    dsimp only
    rw [hresult]
    exact ⟨List.append_cancel_left hcalls, Exchange.outcome_eq_ok_iff,
      fun e => Exchange.outcome_untilFailure_eq_error_iff⟩

end Station

end BuoyGateway
