import BuoyGateway.Proofs.Spool.History

/-!
# The history of a full store

A look finds the store full when it lists as many records as the store holds, and finds room in it
when it lists fewer. A full store is reported when a look has told of it and no look has found room
since. The flag of the spool says after every history whether the full store is reported, so that a
look tells of it once each time the store fills up before somebody who waits for that.
-/

namespace BuoyGateway

namespace Spool

variable {spool : Spool} {count : Nat}

theorem notices_cases (spool : Spool) (count : Nat) :
    (spool.noticeFull count).1 = [] ∨ (spool.noticeFull count).1 = [.full .sim] := by
  unfold noticeFull
  split
  · exact .inl rfl
  · split
    · exact .inr rfl
    · exact .inl rfl

theorem full_mem_noticeFull : .full .sim ∈ (spool.noticeFull count).1 ↔
    spool.capacity ≤ count ∧ spool.hasSubscriber .storage = true ∧ ¬ spool.fullReported = true := by
  unfold noticeFull
  by_cases hroom : count < spool.capacity
  · simp only [if_pos hroom, List.not_mem_nil, false_iff, not_and]
    intro hfull
    omega
  · rw [if_neg hroom]
    have hfull : spool.capacity ≤ count := Nat.not_lt.1 hroom
    cases hr : spool.fullReported <;> cases hs : spool.hasSubscriber .storage <;> simp [hfull]

/-- The flag is set by a notice, and cleared where there is room. -/
theorem fullReported_noticeFull : (spool.noticeFull count).2.fullReported = true ↔
    .full .sim ∈ (spool.noticeFull count).1 ∨
      (spool.fullReported = true ∧ ¬ count < spool.capacity) := by
  rw [full_mem_noticeFull]
  unfold noticeFull
  by_cases hroom : count < spool.capacity
  · simp [hroom, Nat.not_le.2 hroom]
  · rw [if_neg hroom]
    have hfull : spool.capacity ≤ count := Nat.not_lt.1 hroom
    cases hr : spool.fullReported <;> cases hs : spool.hasSubscriber .storage <;> simp [hr, hfull]

end Spool

namespace Gateway

variable {ε : Type} {g : Gateway ε} {m : Move ε} {moves : List (Move ε)} {names : List String}

/-- A look succeeds, and lists at least as many records as the store holds. -/
def findsFull (g : Gateway ε) : Prop :=
  ∃ names, g.disk.recordNames g.spool.inbox = .ok names ∧ g.spool.capacity ≤ names.length

/-- A look succeeds, and lists fewer records than the store holds. -/
def findsRoom (g : Gateway ε) : Prop :=
  ∃ names, g.disk.recordNames g.spool.inbox = .ok names ∧ names.length < g.spool.capacity

def tellsFull (g : Gateway ε) : Prop := ∃ events, (poll g).1 = .ok events ∧ .full .sim ∈ events

/-- One of the looks among the moves tells of a full store, and no look after that finds room. -/
def FullReported (g : Gateway ε) (moves : List (Move ε)) : Prop :=
  Since tellsFull (fun g => ¬ g.findsRoom) g moves

def withSubscriptions (g : Gateway ε) (subscriptions : List (Topic × Handle)) : Gateway ε :=
  { g with spool := { g.spool with subscriptions } }

/-! ### One look -/

theorem findsRoom_iff (h : g.disk.recordNames g.spool.inbox = .ok names) :
    g.findsRoom ↔ names.length < g.spool.capacity := by
  constructor
  · rintro ⟨names', hn, hroom⟩
    rw [h] at hn
    cases hn
    exact hroom
  · exact fun hroom => ⟨names, h, hroom⟩

theorem findsFull_iff (h : g.disk.recordNames g.spool.inbox = .ok names) :
    g.findsFull ↔ g.spool.capacity ≤ names.length := by
  constructor
  · rintro ⟨names', hn, hfull⟩
    rw [h] at hn
    cases hn
    exact hfull
  · exact fun hfull => ⟨names, h, hfull⟩

theorem tellsFull_of_not_looks (h : ¬ g.looks) : ¬ g.tellsFull := by
  rintro ⟨events, he, -⟩
  exact h (looks_iff.2 (recordNames_of_poll he))

theorem tellsFull_iff_notices (h : g.disk.recordNames g.spool.inbox = .ok names) :
    g.tellsFull ↔ .full .sim ∈ g.notices names := by
  obtain ⟨events, he⟩ : ∃ events, (poll g).1 = .ok events := by
    have hl : g.looks := looks_iff.2 ⟨names, h⟩
    unfold looks at hl
    cases hp : (poll g).1 with
    | ok events => exact ⟨events, rfl⟩
    | error why =>
      rw [hp] at hl
      cases hl
  obtain ⟨names', hn, hsplit⟩ := poll_events he
  rw [h] at hn
  cases hn
  have hmem : .full .sim ∈ events ↔ .full .sim ∈ g.notices names := by
    rw [hsplit, List.mem_append]
    simp
  constructor
  · rintro ⟨events', he', hm⟩
    rw [he] at he'
    cases he'
    exact hmem.1 hm
  · exact fun hm => ⟨events, he, hmem.2 hm⟩

/-- A look tells of a full store if it finds it full, somebody waits for that, and the flag is not
set. -/
theorem tellsFull_iff : g.tellsFull ↔
    g.findsFull ∧ g.spool.hasSubscriber .storage = true ∧ ¬ g.spool.fullReported = true := by
  by_cases hl : g.looks
  · obtain ⟨names, hn⟩ := looks_iff.1 hl
    rw [tellsFull_iff_notices hn, findsFull_iff hn]
    exact Spool.full_mem_noticeFull
  · have hnot : ¬ g.findsFull := fun ⟨names, hn, _⟩ => hl (looks_iff.2 ⟨names, hn⟩)
    simp only [tellsFull_of_not_looks hl, hnot, false_and]

theorem fullReported_poll (h : g.disk.recordNames g.spool.inbox = .ok names) :
    (poll g).2.spool.fullReported = (g.listed names).spool.fullReported := by
  cases hs : g.spool.hasSubscriber .messages with
  | false => rw [poll_unheard h hs]
  | true =>
    rw [poll_heard h hs, pollFiles_eq]
    dsimp only
    rw [afterFiles_spool, Spool.receiveAll_eq]

/-! ### One move and a run of moves -/

/-- After a move the flag is set if a look has told of a full store just now, or it was set before
and no look has found room. -/
theorem fullReported_move : (g.move m).spool.fullReported = true ↔
    (m = .poll ∧ g.tellsFull) ∨
      (g.spool.fullReported = true ∧ (m = .poll → ¬ g.findsRoom)) := by
  by_cases hm : m = .poll
  · subst hm
    simp only [true_and, forall_const]
    by_cases hl : g.looks
    · obtain ⟨names, hn⟩ := looks_iff.1 hl
      rw [tellsFull_iff_notices hn, findsRoom_iff hn]
      have hflag : (g.move .poll).spool.fullReported = (g.listed names).spool.fullReported :=
        fullReported_poll hn
      rw [hflag]
      exact Spool.fullReported_noticeFull
    · obtain ⟨hsame, -⟩ := poll_of_not_looks hl
      have hnot : ¬ g.findsRoom := fun ⟨names, hn, _⟩ => hl (looks_iff.2 ⟨names, hn⟩)
      simp only [move, hsame, tellsFull_of_not_looks hl, hnot, false_or, not_false_eq_true,
        and_true]
  · rw [move_spool hm]
    simp only [hm, false_and, false_or, false_imp_iff, and_true]

/-- The flag of a gateway after a history says whether the full store is reported. -/
theorem fullReported_opened {machine : Machine ε} {settings : Settings} :
    (run moves (opened machine settings)).spool.fullReported = true ↔
      FullReported (opened machine settings) moves := by
  have hclear : ¬ (opened machine settings).spool.fullReported = true := Bool.false_ne_true
  rw [latch_run (fun g => g.spool.fullReported = true) (fun _ _ => fullReported_move),
    or_iff_left (fun h => hclear h.1)]
  rfl

theorem capacity_move (g : Gateway ε) (m : Move ε) :
    (g.move m).spool.capacity = g.spool.capacity := by
  by_cases hm : m = .poll
  · subst hm
    have hs : (g.move .poll).spool = (poll g).2.spool := rfl
    rw [hs, poll_spool]
  · rw [move_spool hm]

theorem capacity_run (moves : List (Move ε)) (g : Gateway ε) :
    (run moves g).spool.capacity = g.spool.capacity := by
  induction moves generalizing g with
  | nil => rfl
  | cons m moves ih => exact (ih (g.move m)).trans (capacity_move g m)

/-! ### Who else subscribes -/

theorem hasSubscriber_congr {subscriptions : List (Topic × Handle)} {topic : Topic}
    (h : subscriptions.filter (fun s => s.1 == topic) =
      g.spool.subscriptions.filter (fun s => s.1 == topic)) :
    (g.withSubscriptions subscriptions).spool.hasSubscriber topic =
      g.spool.hasSubscriber topic := by
  have hany : ∀ list : List (Topic × Handle),
      list.any (fun s => s.1 == topic) = !(list.filter (fun s => s.1 == topic)).isEmpty := by
    intro list
    rw [Bool.eq_iff_iff]
    simp [List.any_eq_true]
  change subscriptions.any _ = g.spool.subscriptions.any _
  rw [hany, hany, h]

/-- Subscriptions to messages have no part in what is told of a full store, nor in the flag. -/
theorem tellsFull_withSubscriptions {subscriptions : List (Topic × Handle)}
    (h : subscriptions.filter (fun s => s.1 == .storage) =
      g.spool.subscriptions.filter (fun s => s.1 == .storage)) :
    ((g.withSubscriptions subscriptions).tellsFull ↔ g.tellsFull) ∧
      (((g.withSubscriptions subscriptions).move .poll).spool.fullReported = true ↔
        (g.move .poll).spool.fullReported = true) := by
  have htells : (g.withSubscriptions subscriptions).tellsFull ↔ g.tellsFull := by
    rw [tellsFull_iff, tellsFull_iff, hasSubscriber_congr h]
    rfl
  refine ⟨htells, ?_⟩
  rw [fullReported_move, fullReported_move, htells]
  rfl

/-- After every history, a look tells of a full store just when it lists at least as many records as
the store holds, somebody waits for the notice, and the full store is not reported: no look has told
of it since the latest one that found room, or since the spool was opened. A look tells of it once
at most, before it tells of any message, and whoever waits for messages has no part in it. -/
theorem tellsFull_run (machine : Machine ε) (settings : Settings) (moves : List (Move ε)) :
    let start := opened machine settings
    let g := run moves start
    g.spool.capacity = settings.storageCapacity.toNat ∧
    (g.tellsFull ↔
      g.findsFull ∧ g.spool.hasSubscriber .storage = true ∧ ¬ FullReported start moves) ∧
    (∀ events, (poll g).1 = .ok events → ∃ (notices : List Event) (refs : List Ref),
      events = notices ++ refs.map .received ∧ (notices = [] ∨ notices = [.full .sim])) ∧
    (∀ subscriptions : List (Topic × Handle),
      subscriptions.filter (fun s => s.1 == .storage) =
        g.spool.subscriptions.filter (fun s => s.1 == .storage) →
      ((g.withSubscriptions subscriptions).tellsFull ↔ g.tellsFull) ∧
        (((g.withSubscriptions subscriptions).move .poll).spool.fullReported = true ↔
          (g.move .poll).spool.fullReported = true)) := by
  intro start g
  refine ⟨capacity_run moves start, ?_, ?_, fun _ => tellsFull_withSubscriptions⟩
  · rw [tellsFull_iff, fullReported_opened]
  · intro events he
    obtain ⟨names, -, hsplit⟩ := poll_events he
    exact ⟨g.notices names, _, hsplit, Spool.notices_cases _ _⟩

/-- A store for one message fills up, is emptied, and fills up again: it is told of once more, and
before the messages, if there are any. -/
theorem tellsFull_run_again :
    let r : Incoming := ⟨"+1", none, "REBOOT", .text⟩
    let machine : Machine Unit := Machine.withMail ⟨Disk.emptySpool, [], ()⟩ "1.json" r
    let settings : Settings := { Settings.below with storageCapacity := 1 }
    let moves : List (Move Unit) := [.subscribe .storage, .poll, .poll,
      .change (fun m => m.withoutMail "1.json"), .poll, .change (fun m => m.withMail "1.json" r)]
    let g := run moves (opened machine settings)
    (∃ refs : List Ref, (poll g).1 = .ok (.full .sim :: refs.map .received)) ∧
      (g.withSubscriptions [(.messages, 2), (.storage, 1)]).tellsFull := by
  intro r machine settings moves g
  obtain ⟨-, hiff, hevents, hothers⟩ := tellsFull_run machine settings moves
  have hunreported : ¬ FullReported (opened machine settings) moves := by
    rw [← fullReported_opened]
    decide +kernel
  have htells : g.tellsFull :=
    hiff.2 ⟨⟨["1.json"], by decide +kernel, by decide +kernel⟩, by decide +kernel, hunreported⟩
  refine ⟨?_, (hothers _ (by decide +kernel)).1.2 htells⟩
  obtain ⟨events, he, hm⟩ := htells
  obtain ⟨notices, refs, rfl, rfl | rfl⟩ := hevents events he
  · simp at hm
  · exact ⟨refs, he⟩

end Gateway

end BuoyGateway
