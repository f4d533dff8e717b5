import Mathlib.Logic.Function.Iterate
import BuoyGateway.Proofs.Spool.Numbers
import BuoyGateway.Proofs.Spool.Session

/-!
# Pass after pass

A gateway that watches its inbox makes one pass after another until it is told to stop. Scripts may
do anything to the machine while it attends to a message, and anything may happen to the machine
between two passes. What the spool remembers is out of their reach: when a pass begins nothing is
left of the messages of the passes before it, and when the gateway ends nothing is left of its
subscriptions.
-/

namespace BuoyGateway

namespace Spool

variable {spool : Spool} {subscriptions : List (Topic × Handle)}

/-- No message is held, received or begun, and the subscriptions are the given ones. -/
structure HoldsOnly (spool : Spool) (subscriptions : List (Topic × Handle)) : Prop where
  received : spool.received = []
  drafts : spool.drafts = []
  subscriptions : spool.subscriptions = subscriptions

theorem HoldsOnly.bounded (h : spool.HoldsOnly subscriptions) : spool.Bounded := by
  refine ⟨fun entry he => ?_, fun entry he => ?_⟩
  · rw [h.received] at he
    cases he
  · rw [h.drafts] at he
    cases he

/-- Messages that were attended to are given up, and the others stay. -/
theorem mem_received_afterEvents {events : List Event} {entry : Ref × Received} :
    entry ∈ (events.foldl afterEvent spool).received ↔
      entry ∈ spool.received ∧ .received entry.1 ∉ events := by
  induction events generalizing spool with
  | nil => simp
  | cons event events ih =>
    rw [List.foldl_cons, ih, List.mem_cons, not_or]
    cases event with
    | full storage => simp [afterEvent]
    | received ref =>
      have hstays : entry ∈ (spool.afterEvent (.received ref)).received ↔
          entry ∈ spool.received ∧ entry.1 ≠ ref := by
        simp [afterEvent, afterHandling, release, advance]
      rw [hstays, Event.received.injEq, and_assoc]

theorem drafts_afterEvents (events : List Event) :
    (events.foldl afterEvent spool).drafts.Sublist spool.drafts := by
  induction events generalizing spool with
  | nil => exact List.Sublist.refl _
  | cons event events ih =>
    refine ih.trans ?_
    cases event with
    | full storage => exact List.Sublist.refl _
    | received ref => exact List.filter_sublist

theorem subscriptions_afterEvents (events : List Event) :
    (events.foldl afterEvent spool).subscriptions = spool.subscriptions := by
  induction events generalizing spool with
  | nil => rfl
  | cons event events ih =>
    refine ih.trans ?_
    cases event <;> rfl

/-- The subscriptions that are given back are no others, as long as their handles are new. -/
theorem subscriptions_unsubscribed {first : Handle}
    (hs : spool.subscriptions = (.storage, first + 1) :: (.messages, first) :: subscriptions)
    (hnew : ∀ s ∈ subscriptions, s.2 < first) :
    ((spool.unsubscribe .messages first).unsubscribe .storage (first + 1)).subscriptions =
      subscriptions := by
  have hkept : subscriptions.filter
      (fun s => s != (.storage, first + 1) && s != (.messages, first)) = subscriptions := by
    rw [List.filter_eq_self]
    intro s hm
    have hlt := hnew s hm
    have hne : ∀ topic handle, first ≤ handle → s ≠ (topic, handle) := by
      rintro topic handle hle rfl
      exact Nat.not_lt.2 hle hlt
    simp [hne _ _ (Nat.le_succ first), hne _ _ (Nat.le_refl first)]
  simp only [unsubscribe, hs, List.filter_filter]
  simpa using hkept

end Spool

namespace Gateway

variable {ε : Type} {g : Gateway ε} {subscriptions : List (Topic × Handle)}

section

variable (world : Surroundings ε) (settings : Settings)

def afterPass (g : Gateway ε) : Gateway ε :=
  match pass (station world.launch) settings g with
  | (.ok _, g') => g'
  | (.error e, g') => g'.note .error ("Failed to poll the SMS spool: " ++ e.message)

def afterPause (g : Gateway ε) : Gateway ε :=
  { g.afterPass world settings with machine := world.pause (g.afterPass world settings).machine }

/-- The gateway when a pass begins, with so many before it. -/
def atPass (count : Nat) (g : Gateway ε) : Gateway ε := (afterPause world settings)^[count] g

def isLast (once : Bool) (g : Gateway ε) : Bool :=
  once || world.isStopped (g.afterPass world settings).machine

end

/-! ### One pass -/

variable {world : Surroundings ε} {settings : Settings}

theorem afterPass_failed {why : Failure} (h : (poll g).1 = .error why) :
    g.afterPass world settings =
      g.note .error ("Failed to poll the SMS spool: " ++ why.message) := by
  have hl : ¬ g.looks := by
    rw [looks, h]
    exact Bool.false_ne_true
  rw [afterPass, (passNoted_failed (station world.launch) settings h).2, (poll_of_not_looks hl).1]

theorem afterPass_looked {events : List Event} (h : (poll g).1 = .ok events) :
    g.afterPass world settings = (pass (station world.launch) settings g).2 := by
  rw [afterPass, pass_looked (station world.launch) settings (unnoted_poll h).2]

/-- What the spool remembers after a pass was decided by its look. -/
theorem spool_afterPass (hb : g.spool.Bounded) {events : List Event}
    (h : (poll g).1 = .ok events) :
    (g.afterPass world settings).spool = events.foldl Spool.afterEvent (poll g).2.spool := by
  have htracks := tracks_attendAll world.launch (bounded_poll hb) settings (refs_poll h).1
  obtain ⟨made, -, -, -, hs⟩ := htracks (poll g).2 [] rfl
  rw [afterPass_looked h, pass_looked (station world.launch) settings (unnoted_poll h).2]
  exact hs

/-- Every message that a look has brought up is given up by the end of the pass. -/
theorem holdsOnly_afterPass (h : g.spool.HoldsOnly subscriptions) :
    (g.afterPass world settings).spool.HoldsOnly subscriptions := by
  cases hp : (poll g).1 with
  | error why =>
    rw [afterPass_failed hp]
    exact h
  | ok events =>
    rw [spool_afterPass h.bounded hp]
    refine ⟨?_, ?_, ?_⟩
    · rw [List.eq_nil_iff_forall_not_mem]
      intro entry he
      obtain ⟨hreceived, hleft⟩ := Spool.mem_received_afterEvents.1 he
      rcases mem_received_poll hp hreceived with hnew | hold
      · exact hleft hnew
      · rw [h.received] at hold
        cases hold
    · have hdrafts : (poll g).2.spool.drafts = [] := by
        rw [poll_spool]
        exact h.drafts
      have hsub : (events.foldl Spool.afterEvent (poll g).2.spool).drafts.Sublist
          (poll g).2.spool.drafts := Spool.drafts_afterEvents events
      rw [hdrafts] at hsub
      exact List.sublist_nil.1 hsub
    · rw [Spool.subscriptions_afterEvents, poll_spool]
      exact h.subscriptions

/-- Every event of a look that succeeds is attended to once, in its order. -/
theorem pass_deals (hb : g.spool.Bounded) {events : List Event} (h : (poll g).1 = .ok events) :
    ∃ attended made, passNoted (station world.launch) settings (g, []) =
        (.ok attended, g.afterPass world settings, made) ∧
      List.Forall₂ (g.DealtWith settings) events attended ∧
      made.filterMap Exchange.opens? = events.filterMap Event.ref? := by
  obtain ⟨attended, made, hrun, -, hattended, hmade⟩ :=
    passNoted_looked world.launch hb settings h
  refine ⟨attended, made, ?_, ?_, ?_⟩
  · rw [hrun, afterPass_looked h]
  · exact forall₂_of_map_eq hattended (fun a event he ha => dealtWith_of_outcome h he ha)
  · rw [← filterMap_asked opens?_asked made, hmade]
    exact Spool.opens_eventsCalls _ settings events

/-! ### The passes -/

/-- The invariant of the passes: a pass gives up what it brings up, and a pause has no part in it.
-/
theorem holdsOnly_atPass (h : g.spool.HoldsOnly subscriptions) (count : Nat) :
    (g.atPass world settings count).spool.HoldsOnly subscriptions := by
  induction count with
  | zero => exact h
  | succ count ih =>
    rw [atPass, Function.iterate_succ_apply']
    exact holdsOnly_afterPass ih

theorem passes_succ (once : Bool) (limit : Nat) (g : Gateway ε) :
    passes world settings once (limit + 1) g =
      if g.isLast world settings once then (true, g.afterPass world settings)
      else passes world settings once limit (g.afterPause world settings) := by
  let rest : StateM (Gateway ε) Bool := do
    if once || world.isStopped (← get).machine then pure true
    else
      modify (fun g => { g with machine := world.pause g.machine })
      passes world settings once limit
  have hrest : ∀ g', rest g' = if once || world.isStopped g'.machine then (true, g')
      else passes world settings once limit { g' with machine := world.pause g'.machine } := by
    intro g'
    have hget : (get : StateM (Gateway ε) (Gateway ε)) g' = (g', g') := rfl
    simp only [rest]
    rw [bind_of_eq hget]
    split <;> rfl
  obtain ⟨result, g', hp⟩ : ∃ result g', pass (station world.launch) settings g = (result, g') :=
    ⟨_, _, rfl⟩
  simp only [passes]
  rw [bind_of_eq hp]
  cases result with
  | ok attended =>
    have hafter : g.afterPass world settings = g' := by rw [afterPass, hp]
    rw [afterPause, isLast, hafter]
    exact hrest g'
  | error why =>
    have hafter : g.afterPass world settings =
        g'.note .error ("Failed to poll the SMS spool: " ++ why.message) := by rw [afterPass, hp]
    rw [afterPause, isLast, hafter]
    exact hrest (g'.note .error ("Failed to poll the SMS spool: " ++ why.message))

theorem passes_watching {once : Bool} {limit : Nat}
    (h : ∀ count < limit, (g.atPass world settings count).isLast world settings once = false) :
    passes world settings once limit g = (false, g.atPass world settings limit) := by
  induction limit generalizing g with
  | zero => rfl
  | succ limit ih =>
    have hfirst : g.isLast world settings once = false := h 0 (Nat.succ_pos limit)
    rw [passes_succ, hfirst, if_neg Bool.false_ne_true]
    exact ih (fun count hc => h (count + 1) (Nat.succ_lt_succ hc))

theorem passes_ended {once : Bool} {count limit : Nat} (hc : count < limit)
    (h : ∀ earlier < count, (g.atPass world settings earlier).isLast world settings once = false)
    (hlast : (g.atPass world settings count).isLast world settings once = true) :
    passes world settings once limit g =
      (true, (g.atPass world settings count).afterPass world settings) := by
  induction count generalizing g limit with
  | zero =>
    obtain ⟨limit, rfl⟩ := Nat.exists_eq_add_of_lt hc
    rw [passes_succ]
    exact if_pos hlast
  | succ count ih =>
    obtain ⟨limit, rfl⟩ := Nat.exists_eq_add_of_lt hc
    have hfirst : g.isLast world settings once = false := h 0 (Nat.succ_pos count)
    rw [passes_succ, hfirst, if_neg Bool.false_ne_true]
    exact ih (by omega) (fun earlier he => h (earlier + 1) (Nat.succ_lt_succ he)) hlast

theorem holdsOnly_begun (hreceived : g.spool.received = []) (hdrafts : g.spool.drafts = []) :
    g.begun.spool.HoldsOnly ((.storage, g.spool.lastId + 2) :: (.messages, g.spool.lastId + 1) ::
      g.spool.subscriptions) := ⟨hreceived, hdrafts, rfl⟩

/-- A gateway that gives its subscriptions back holds those that it held before it took them. -/
theorem holdsOnly_ended {g' : Gateway ε} (hg : g.Reachable)
    (h : g'.spool.HoldsOnly ((.storage, g.spool.lastId + 2) :: (.messages, g.spool.lastId + 1) ::
      g.spool.subscriptions)) :
    (g'.ended (g.spool.lastId + 1)).spool.HoldsOnly g.spool.subscriptions := by
  refine ⟨h.received, h.drafts, Spool.subscriptions_unsubscribed h.subscriptions ?_⟩
  exact fun s hs => Nat.lt_succ_of_le (hg.handle_le hs)

/-- Watching leaves nothing behind. It begins with two subscriptions, one for each topic. When a
pass begins they are held, beside those that were there before, and no message is. A pass attends to
every event of its look once, in order; a look that fails is logged and costs its own pass only. As
long as no pass is the last one the gateway goes on watching; after the first pass that is, it holds
no subscription, the subscriptions are those that were there before, and no message is left. -/
theorem watch_leaves_nothing (world : Surroundings ε) (settings : Settings) (once : Bool)
    (hg : g.Reachable) (hreceived : g.spool.received = []) (hdrafts : g.spool.drafts = []) :
    let held : Subscriptions := ⟨some (g.spool.lastId + 1), some (g.spool.lastId + 2)⟩
    let start := fun count => g.begun.atPass world settings count
    let final := fun count => ((start count).afterPass world settings).ended (g.spool.lastId + 1)
    (∀ count, (start count).spool.HoldsOnly ((.storage, g.spool.lastId + 2) ::
      (.messages, g.spool.lastId + 1) :: g.spool.subscriptions)) ∧
    (∀ count events, (poll (start count)).1 = .ok events → ∃ attended made,
      passNoted (station world.launch) settings (start count, []) =
        (.ok attended, (start count).afterPass world settings, made) ∧
      List.Forall₂ ((start count).DealtWith settings) events attended ∧
      made.filterMap Exchange.opens? = events.filterMap Event.ref?) ∧
    (∀ count why, (poll (start count)).1 = .error why →
      (start count).afterPass world settings = (start count).note .error
        ("Failed to poll the SMS spool: " ++ why.message)) ∧
    (∀ limit, (∀ count < limit, (start count).isLast world settings once = false) →
      watch world settings once limit {} g = ((.watching, held), start limit)) ∧
    (∀ count limit, (∀ earlier < count, (start earlier).isLast world settings once = false) →
      (start count).isLast world settings once = true → count < limit →
      watch world settings once limit {} g = ((.ended (.ok ()), {}), final count) ∧
      (final count).spool.HoldsOnly g.spool.subscriptions) := by
  intro held start final
  have hstart : ∀ count, (start count).spool.HoldsOnly ((.storage, g.spool.lastId + 2) ::
      (.messages, g.spool.lastId + 1) :: g.spool.subscriptions) :=
    holdsOnly_atPass (holdsOnly_begun hreceived hdrafts)
  refine ⟨hstart, fun count _ he => pass_deals (hstart count).bounded he,
    fun _ _ hw => afterPass_failed hw, fun limit h => ?_, fun count limit h hlast hc => ⟨?_, ?_⟩⟩
  · rw [watch_eq, passes_watching h]
  · rw [watch_eq, passes_ended hc h hlast]
  · exact holdsOnly_ended hg (holdsOnly_afterPass (hstart count))

/-- A message makes a script take the inbox away. The message is handled nevertheless; the next look
fails, and the gateway is told to stop. What was there before stays: a subscription, and no message.
-/
theorem watch_leaves_nothing_wiped :
    let r : Incoming := ⟨"+1", none, "REBOOT", .text⟩
    let wiped : Machine Unit → Machine Unit :=
      fun machine => { machine with disk := machine.disk.erase ["inbox", "s"] }
    let world : Surroundings Unit := ⟨fun _ machine => (⟨[], .ok (.exited 0)⟩, wiped machine),
      fun machine => machine.log.any (fun entry => entry.level == .error), id⟩
    let g := run [.subscribe .messages]
      (opened (Machine.withMail ⟨Disk.emptySpool, [], ()⟩ "1.json" r) Settings.below)
    (poll g.begun).1 = .ok [.received 4] ∧
    (poll (g.begun.atPass world Settings.below 1)).1.isOk = false ∧
    ∃ g', watch world Settings.below false 5 {} g = ((.ended (.ok ()), {}), g') ∧
      g'.spool.HoldsOnly [(.messages, 1)] := by
  intro r wiped world g
  have hg : g.Reachable := .move (.opened _ _) (.subscribe .messages)
  obtain ⟨-, -, -, -, hended⟩ := watch_leaves_nothing world Settings.below false hg rfl rfl
  obtain ⟨hwatch, hleft⟩ := hended 1 5 (by decide +kernel) (by decide +kernel) (by decide)
  exact ⟨by decide +kernel, by decide +kernel, _, hwatch, hleft⟩

end Gateway

end BuoyGateway
