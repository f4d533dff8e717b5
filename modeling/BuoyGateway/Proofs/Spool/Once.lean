import Mathlib.Data.List.Nodup
import BuoyGateway.Proofs.Spool.Numbers

/-!
# A message is acted on once

The host may have any number handled, any number of times and at any time. What is done for a number
is done when it is handled for the first time after a look brought it up: before that and after that
nothing is known of it, and a message of which nothing is known is given up and nothing else.
-/

namespace BuoyGateway

/-- What is done for a message: a reply is tried, a file is deleted, a program is launched. -/
inductive Act
  | attempt
  | deletion
  | launch
  deriving DecidableEq, Repr

def Exchange.act? : Exchange → Option Act
  | .create _ => some .attempt
  | .delete _ _ => some .deletion
  | .launch _ => some .launch
  | _ => none

theorem Exchange.act?_asked (call : Exchange) : call.asked.act? = call.act? := by
  cases call <;> rfl

namespace Spool

variable {spool : Spool} {ref other : Ref}

def Spent (spool : Spool) (ref : Ref) : Prop := spool.received? ref = none ∧ ref ≤ spool.lastId

theorem Bounded.le_of_received? {message : Received} (hb : spool.Bounded)
    (h : spool.received? ref = some message) : ref ≤ spool.lastId := by
  obtain ⟨before, after, hsplit, -⟩ := List.lookup_eq_some_iff.1 h
  exact hb.received (ref, message) (hsplit ▸ List.mem_append_right _ List.mem_cons_self)

theorem acts_attemptCalls (ref : Ref) (destination text : String) :
    (attemptCalls ref destination text).filterMap Exchange.act? = [.attempt] := by
  have hfilling : (fillingCalls ref destination text).filterMap Exchange.act? = [] := by
    unfold fillingCalls
    split
    · rfl
    · split <;> rfl
  rw [attemptCalls, List.filterMap_append, List.filterMap_cons, hfilling]
  rfl

theorem acts_answeringCalls (spool : Spool) (ref : Ref) :
    (spool.answeringCalls ref).filterMap Exchange.act? =
      (replyTo (spool.sender ref) (spool.text ref)).toList.map (fun _ => .attempt) ++
        [.deletion] := by
  rw [answeringCalls]
  cases replyTo (spool.sender ref) (spool.text ref) with
  | none => rfl
  | some reply =>
    have hattempt := acts_attemptCalls (spool.lastId + 1) reply.destination reply.text
    simp only [Option.toList_some, List.flatMap_cons, List.flatMap_nil, List.append_nil,
      List.filterMap_append, hattempt]
    rfl

theorem acts_handlingCalls (settings : Settings) (h : spool.format ref = .text) :
    (spool.handlingCalls settings ref).filterMap Exchange.act? =
      (replyTo (spool.sender ref) (spool.text ref)).toList.map (fun _ => .attempt) ++
        .deletion :: (actionOf settings (spool.text ref)).toList.map (fun _ => .launch) := by
  have hlaunch : ∀ actions : List Action, (actions.map Exchange.launch).filterMap Exchange.act? =
      actions.map (fun _ => .launch) := by
    intro actions
    rw [List.filterMap_map]
    exact congrFun (List.filterMap_eq_map (f := fun _ => Act.launch)) actions
  rw [handlingCalls, if_pos h, List.filterMap_cons_none rfl, List.filterMap_append,
    acts_answeringCalls, List.filterMap_cons_none rfl, hlaunch, List.append_assoc]
  rfl

theorem nodup_handlingCalls (spool : Spool) (settings : Settings) (ref : Ref) :
    ((spool.handlingCalls settings ref).filterMap Exchange.act?).Nodup := by
  by_cases hf : spool.format ref = .text
  · rw [acts_handlingCalls settings hf]
    cases replyTo (spool.sender ref) (spool.text ref) <;>
      cases actionOf settings (spool.text ref) <;>
        simp
  · rw [handlingCalls, if_neg hf]
    exact List.nodup_nil

theorem handlingCalls_of_none (settings : Settings) (h : spool.received? ref = none) :
    (spool.handlingCalls settings ref).filterMap Exchange.act? = [] := by
  have hformat : spool.format ref = .unknown := by rw [format, h]
  rw [handlingCalls, hformat, if_neg (by decide)]
  rfl

theorem Spent.afterHandling (h : spool.Spent ref) (other : Ref) :
    (spool.afterHandling other).Spent ref := by
  refine ⟨?_, Nat.le_trans h.2 (Nat.le_add_right _ _)⟩
  by_cases hsame : ref = other
  · subst hsame
    exact received?_release_self _ ref
  · exact (received?_afterHandling hsame).trans h.1

theorem spent_afterHandling (h : ref ≤ spool.lastId) : (spool.afterHandling ref).Spent ref :=
  ⟨received?_release_self _ ref, Nat.le_trans h (Nat.le_add_right _ _)⟩

end Spool

namespace Gateway

variable {ε : Type} {launch : Action → StateM (Machine ε) Report} {settings : Settings}
  {g : Gateway ε} {ref : Ref}

/-- A step of the host: a move, or the handling of a number. -/
inductive Step (ε : Type)
  | move (m : Move ε)
  | handle (ref : Ref)

section Steps

variable (launch : Action → StateM (Machine ε) Report) (settings : Settings)

def afterStep (g : Gateway ε) : Step ε → Gateway ε
  | .move m => g.move m
  | .handle ref => ((station launch).handle settings ref g).2

def afterSteps : List (Step ε) → Gateway ε → Gateway ε
  | [], g => g
  | step :: steps, g => afterSteps steps (g.afterStep launch settings step)

def handlingActs (g : Gateway ε) (ref : Ref) : List Act :=
  ((station launch).recorded.handle settings ref (g, [])).2.2.filterMap Exchange.act?

def stepActs (ref : Ref) (g : Gateway ε) : Step ε → List Act
  | .move _ => []
  | .handle other => if other = ref then g.handlingActs launch settings ref else []

def acts (ref : Ref) : List (Step ε) → Gateway ε → List Act
  | [], _ => []
  | step :: steps, g =>
    stepActs launch settings ref g step ++ acts ref steps (g.afterStep launch settings step)

/-- The numbers that a step brings up, if it is a look. -/
def brings (g : Gateway ε) : Step ε → List Ref
  | .move .poll => g.given .poll
  | _ => []

def issued : List (Step ε) → Gateway ε → List Ref
  | [], _ => []
  | step :: steps, g => g.brings step ++ issued steps (g.afterStep launch settings step)

end Steps

theorem Reachable.step (h : g.Reachable) (step : Step ε) :
    (g.afterStep launch settings step).Reachable := by
  cases step with
  | move m => exact h.move m
  | handle ref => exact h.handle launch settings ref

theorem Reachable.steps (h : g.Reachable) (steps : List (Step ε)) :
    (g.afterSteps launch settings steps).Reachable := by
  induction steps generalizing g with
  | nil => exact h
  | cons step steps ih => exact ih (h.step step)

theorem spool_handle (h : g.Reachable) (launch : Action → StateM (Machine ε) Report)
    (settings : Settings) (ref : Ref) :
    ((station launch).handle settings ref g).2.spool = g.spool.afterHandling ref := by
  obtain ⟨made, -, -, -, hs⟩ := tracks_handle launch h.bounded settings ref g [] rfl
  exact hs

theorem handlingActs_eq (h : g.Reachable) (launch : Action → StateM (Machine ε) Report)
    (settings : Settings) (ref : Ref) : g.handlingActs launch settings ref =
      (g.spool.handlingCalls settings ref).filterMap Exchange.act? := by
  obtain ⟨made, hrun, hcalls, -, -⟩ := tracks_handle launch h.bounded settings ref g [] rfl
  rw [handlingActs, hrun, List.nil_append, ← hcalls, filterMap_asked Exchange.act?_asked]

theorem Reachable.spent_afterStep (h : g.Reachable) (hspent : g.spool.Spent ref) (step : Step ε) :
    (g.afterStep launch settings step).spool.Spent ref := by
  cases step with
  | move m =>
    have hrun : (Gateway.run [m] g).spool.received? ref = none :=
      received?_run_of_none hspent.1 hspent.2
    exact ⟨hrun, Nat.le_trans hspent.2 (lastId_move g m)⟩
  | handle other =>
    rw [afterStep, spool_handle h]
    exact hspent.afterHandling other

theorem Reachable.spent_afterSteps (h : g.Reachable) (hspent : g.spool.Spent ref)
    (steps : List (Step ε)) : (g.afterSteps launch settings steps).spool.Spent ref := by
  induction steps generalizing g with
  | nil => exact hspent
  | cons step steps ih => exact ih (h.step step) (h.spent_afterStep hspent step)

theorem stepActs_of_spent (h : g.Reachable) (hnone : g.spool.received? ref = none) (step : Step ε) :
    stepActs launch settings ref g step = [] := by
  cases step with
  | move m => rfl
  | handle other =>
    rw [stepActs]
    split
    · rw [handlingActs_eq h, Spool.handlingCalls_of_none settings hnone]
    · rfl

theorem acts_of_spent (h : g.Reachable) (hspent : g.spool.Spent ref) (steps : List (Step ε)) :
    acts launch settings ref steps g = [] := by
  induction steps generalizing g with
  | nil => rfl
  | cons step steps ih =>
    rw [acts, stepActs_of_spent h hspent.1, ih (h.step step) (h.spent_afterStep hspent step)]
    rfl

theorem nodup_acts (h : g.Reachable) (ref : Ref) (steps : List (Step ε)) :
    (acts launch settings ref steps g).Nodup := by
  induction steps generalizing g with
  | nil => exact List.nodup_nil
  | cons step steps ih =>
    have hrest : (acts launch settings ref steps (g.afterStep launch settings step)).Nodup :=
      ih (h.step step)
    rw [acts]
    by_cases hstep : step = .handle ref
    · subst hstep
      cases hknown : g.spool.received? ref with
      | none =>
        rw [stepActs_of_spent h hknown]
        exact hrest
      | some message =>
        -- Handling a known number spends it, so the steps that follow do nothing for it.
        have hle := h.bounded.le_of_received? hknown
        have hspent : (g.afterStep launch settings (.handle ref)).spool.Spent ref := by
          rw [afterStep, spool_handle h]
          exact Spool.spent_afterHandling hle
        rw [acts_of_spent (h.step _) hspent, List.append_nil, stepActs, if_pos rfl,
          handlingActs_eq h]
        exact g.spool.nodup_handlingCalls settings ref
    · have hnone : stepActs launch settings ref g step = [] := by
        cases step with
        | move m => rfl
        | handle other =>
          have hne : other ≠ ref := fun he => hstep (by rw [he])
          exact if_neg hne
      rw [hnone]
      exact hrest

/-! ### Numbers that were not brought up -/

theorem known_before_step (h : g.Reachable) {step : Step ε}
    (hknown : (g.afterStep launch settings step).spool.received? ref ≠ none) :
    g.spool.received? ref ≠ none ∨ ref ∈ g.brings step := by
  by_cases hbefore : g.spool.received? ref = none
  · right
    cases step with
    | handle other =>
      rw [afterStep, spool_handle h] at hknown
      by_cases hsame : ref = other
      · subst hsame
        exact absurd (Spool.received?_release_self _ ref) hknown
      · exact absurd ((Spool.received?_afterHandling hsame).trans hbefore) hknown
    | move m =>
      by_cases hp : m = .poll
      · subst hp
        -- A look leaves what is remembered up to the counter, and gives every number above it.
        obtain ⟨message, hmessage⟩ := Option.ne_none_iff_exists'.1 hknown
        have hle : ref ≤ (poll g).2.spool.lastId :=
          (h.move .poll).bounded.le_of_received? hmessage
        have hlt : g.spool.lastId < ref := by
          rw [← Nat.not_le]
          exact fun hold => hknown ((received?_poll hold).trans hbefore)
        have hgrows := lastId_poll g
        change ref ∈ g.given .poll
        rw [given_poll, List.mem_range'_1]
        exact ⟨hlt, Nat.lt_of_le_of_lt hle (by omega)⟩
      · by_cases hm : m = .release ref
        · subst hm
          exact absurd (g.spool.received?_release_self ref) hknown
        · exact absurd ((received?_of_not_poll hp hm).trans hbefore) hknown
  · exact .inl hbefore

theorem known_before (h : g.Reachable) {steps : List (Step ε)}
    (hknown : (g.afterSteps launch settings steps).spool.received? ref ≠ none) :
    g.spool.received? ref ≠ none ∨ ref ∈ issued launch settings steps g := by
  induction steps generalizing g with
  | nil => exact .inl hknown
  | cons step steps ih =>
    rcases ih (h.step step) hknown with hstep | hlater
    · rcases known_before_step h hstep with hbefore | hbrings
      · exact .inl hbefore
      · exact .inr (List.mem_append_left _ hbrings)
    · exact .inr (List.mem_append_right _ hlater)

theorem lastId_afterSteps (h : g.Reachable) (steps : List (Step ε)) :
    g.spool.lastId ≤ (g.afterSteps launch settings steps).spool.lastId := by
  induction steps generalizing g with
  | nil => exact Nat.le_refl _
  | cons step steps ih =>
    have hstep : g.spool.lastId ≤ (g.afterStep launch settings step).spool.lastId := by
      cases step with
      | move m => exact lastId_move g m
      | handle other =>
        rw [afterStep, spool_handle h]
        exact Nat.le_add_right _ _
    exact Nat.le_trans hstep (ih (h.step step))

theorem le_of_mem_issued {steps : List (Step ε)} (h : g.Reachable)
    (href : ref ∈ issued launch settings steps g) :
    ref ≤ (g.afterSteps launch settings steps).spool.lastId := by
  induction steps generalizing g with
  | nil => exact absurd href List.not_mem_nil
  | cons step steps ih =>
    rcases List.mem_append.1 href with hbrings | hlater
    · have hstep : ref ≤ (g.afterStep launch settings step).spool.lastId := by
        cases step with
        | handle other => exact absurd hbrings List.not_mem_nil
        | move m =>
          cases m with
          | poll => exact (lt_of_mem_given hbrings).2
          | _ => exact absurd hbrings List.not_mem_nil
      exact Nat.le_trans hstep (lastId_afterSteps (h.step step) steps)
    · exact ih (h.step step) hlater

theorem afterSteps_append (before after : List (Step ε)) (g : Gateway ε) :
    g.afterSteps launch settings (before ++ after) =
      (g.afterSteps launch settings before).afterSteps launch settings after := by
  induction before generalizing g with
  | nil => rfl
  | cons step before ih => exact ih _

/-- A message of which nothing is known is given up, and nothing else comes of it. -/
theorem handle_unheard (h : g.spool.received? ref = none)
    (launch : Action → StateM (Machine ε) Report) (settings : Settings) :
    ∃ log, (station launch).handle settings ref g =
      ({}, ({ g with spool := g.spool.release ref } : Gateway ε).logged log) := by
  have hunknown : g.spool.format ref = .unknown := by simp only [Spool.format, h]
  have hformat : Leads ((station launch).modem.format ref) g .unknown g := by
    rw [← hunknown]
    exact fun log => ⟨log, rfl⟩
  have hhandle : Leads ((station launch).handle settings ref) g {}
      { g with spool := g.spool.release ref } := by
    refine (leads_info launch _ g).bind (hformat.bind ?_)
    dsimp only
    rw [if_neg (by decide)]
    exact (leads_warn launch _ g).bind ((leads_pure ({} : Handled) g).bind
      ((leads_release launch ref g).bind (leads_pure _ _)))
  exact hhandle.run

/-- Whatever the host does and whichever numbers it has handled, each number leads to one attempt to
reply, one deletion and one launch at most. Handling a number that no look has brought up so far, or
one that was handled since a look brought it up, leaves the disk as it is and does nothing. -/
theorem acts_once (machine : Machine ε) (settings : Settings)
    (launch : Action → StateM (Machine ε) Report) :
    let start := opened machine settings
    (∀ steps ref act, (acts launch settings ref steps start).count act ≤ 1) ∧
    ∀ before ref,
      (ref ∉ issued launch settings before start ∨
        ∃ first second, before = first ++ .handle ref :: second ∧
          ref ∈ issued launch settings first start) →
      let g := start.afterSteps launch settings before
      ((station launch).handle settings ref g).2.disk = g.disk ∧
        g.handlingActs launch settings ref = [] := by
  intro start
  have hstart : start.Reachable := .opened machine settings
  refine ⟨fun steps ref => List.nodup_iff_count_le_one.1 (nodup_acts hstart ref steps), ?_⟩
  intro before ref hspent g
  have hg : g.Reachable := hstart.steps before
  have hnone : g.spool.received? ref = none := by
    -- Either no look brought the number up, or handling it spent it.
    rcases hspent with hnever | ⟨first, second, rfl, hissued⟩
    · by_contra hknown
      rcases known_before hstart hknown with hold | hissued
      · exact hold rfl
      · exact hnever hissued
    · have hfirst : (start.afterSteps launch settings first).Reachable := hstart.steps first
      have hhandled : ((start.afterSteps launch settings first).afterStep launch settings
          (.handle ref)).spool.Spent ref := by
        rw [afterStep, spool_handle hfirst]
        exact Spool.spent_afterHandling (le_of_mem_issued hstart hissued)
      have hsplit : g = ((start.afterSteps launch settings first).afterStep launch settings
          (.handle ref)).afterSteps launch settings second := afterSteps_append first _ start
      rw [hsplit]
      exact ((hfirst.step _).spent_afterSteps hhandled second).1
  obtain ⟨log, hhandle⟩ := handle_unheard hnone launch settings
  refine ⟨by rw [hhandle]; rfl, ?_⟩
  rw [handlingActs_eq hg, Spool.handlingCalls_of_none settings hnone]

/-- A message to reboot is answered, deleted and obeyed when it is handled, and not again. -/
theorem acts_once_rebooted :
    let machine : Machine Unit :=
      Machine.withMail ⟨Disk.emptySpool, [], ()⟩ "1.json" ⟨"+64211234567", none, "REBOOT", .text⟩
    let start := opened machine Settings.below
    let launch : Action → StateM (Machine Unit) Report := fun _ => pure ⟨[], .ok (.exited 0)⟩
    let looked : List (Step Unit) := [.move (.subscribe .messages), .move .poll]
    let handled : List (Step Unit) := looked ++ .handle 2 :: []
    let g := start.afterSteps launch Settings.below handled
    acts launch Settings.below 2 handled start = [.attempt, .deletion, .launch] ∧
      ((station launch).handle Settings.below 2 g).2.disk = g.disk ∧
      g.handlingActs launch Settings.below 2 = [] := by
  intro machine start launch looked handled g
  have hissued : 2 ∈ issued launch Settings.below looked start := by decide +kernel
  obtain ⟨-, hidle⟩ := acts_once machine Settings.below launch
  exact ⟨by decide +kernel, hidle handled 2 (.inr ⟨looked, [], rfl, hissued⟩)⟩

end Gateway

end BuoyGateway
