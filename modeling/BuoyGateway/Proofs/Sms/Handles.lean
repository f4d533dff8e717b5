import Mathlib.Data.List.Induction
import BuoyGateway.Proofs.Sms.Exchange
import BuoyGateway.Proofs.Steps

/-!
# Handles that are given back

A station may take and give back its subscriptions in any order, and the host may refuse any of them.
What a station holds on a topic is the handle that it was given last there, unless it has given that
one back since; a refusal leaves it. So each handle that is given back was given before, on the same
topic, and was not given back in the meantime. At a host that never gives a handle twice it was never
given back before.
-/

namespace BuoyGateway

/-- The handle that the host gives in answer to a call, with its topic. -/
def Exchange.given? : Exchange → Option (Topic × Handle)
  | .subscribe topic (some handle) => some (topic, handle)
  | _ => none

/-- The call neither brings a handle of the topic nor gives one back. -/
def Exchange.Spares (topic : Topic) (call : Exchange) : Prop :=
  ∀ handle, call ≠ .subscribe topic (some handle) ∧ call ≠ .unsubscribe topic handle

namespace Station

/-- One of the items has the first property, and every later item has the second one. -/
def Since {α : Type} (p q : α → Prop) (items : List α) : Prop :=
  ∃ before item since, items = before ++ item :: since ∧ p item ∧ ∀ later ∈ since, q later

inductive Change
  | register (topic : Topic)
  | unregister (topic : Topic)
  deriving DecidableEq, Repr

def Change.topic : Change → Topic
  | .register topic => topic
  | .unregister topic => topic

/-- A change that was made: the calls that it took, its answer, and what is held after it. -/
structure Turn where
  change : Change
  calls : List Exchange
  answer : Except Failure Unit
  held : Subscriptions

def Turn.Registers (topic : Topic) (turn : Turn) : Prop :=
  turn.change = .register topic ∧ turn.answer = .ok ()

/-- A station that has made changes: its turns, what it holds after them, and its host. -/
structure Course (σ : Type) where
  turns : List Turn
  held : Subscriptions
  host : σ

variable {σ : Type}

def Course.calls (c : Course σ) : List Exchange := c.turns.flatMap Turn.calls

def change (st : Station σ) (held : Subscriptions) :
    Change → StateM σ (Except Failure Unit × Subscriptions)
  | .register topic => st.register topic held
  | .unregister topic => do
    let held ← st.unregister topic held
    pure (.ok (), held)

/-- The turn that a change comes to, with the calls that are noted while it is made. -/
def turn (st : Station σ) (held : Subscriptions) (change : Change) (host : σ) : Turn where
  change := change
  calls := (st.recorded.change held change (host, [])).2.2
  answer := (st.change held change host).1.1
  held := (st.change held change host).1.2

def advance (st : Station σ) (c : Course σ) (change : Change) : Course σ where
  turns := c.turns ++ [st.turn c.held change c.host]
  held := (st.change c.held change c.host).1.2
  host := (st.change c.held change c.host).2

def course (st : Station σ) (changes : List Change) (host : σ) : Course σ :=
  changes.foldl st.advance ⟨[], {}, host⟩

/-! ### What a turn comes to -/

section

variable {held : Subscriptions} {topic : Topic} {handle : Handle} {host : σ}

theorem turn_register (st : Station σ) (held : Subscriptions) (topic : Topic) (host : σ) :
    st.turn held (.register topic) host =
      match (st.modem.subscribe topic host).1 with
      | some handle =>
        ⟨.register topic, [.subscribe topic (some handle)], .ok (), held.set (some handle) topic⟩
      | none => ⟨.register topic, [.subscribe topic none], .error (.registration topic), held⟩ := by
  obtain ⟨answer, host', h⟩ : ∃ answer host', st.modem.subscribe topic host = (answer, host') :=
    ⟨_, _, rfl⟩
  have hnoted : st.recorded.modem.subscribe topic (host, []) =
      (answer, host', [] ++ [.subscribe topic answer]) := noted_of_eq h []
  simp only [turn, change, register]
  rw [bind_of_eq h, bind_of_eq hnoted, h]
  cases answer <;> rfl

theorem turn_unregister (st : Station σ) (held : Subscriptions) (topic : Topic) (host : σ) :
    st.turn held (.unregister topic) host =
      match held.get topic with
      | some handle =>
        ⟨.unregister topic, [.unsubscribe topic handle], .ok (), held.set none topic⟩
      | none => ⟨.unregister topic, [], .ok (), held⟩ := by
  simp only [turn, change, unregister]
  cases held.get topic <;> rfl

/-- The calls of a turn are noted alike after any others, and noting them changes nothing. -/
theorem recorded_change (st : Station σ) (held : Subscriptions) (change : Change) (host : σ)
    (past : List Exchange) : st.recorded.change held change (host, past) =
      ((st.change held change host).1, (st.change held change host).2,
        past ++ (st.turn held change host).calls) := by
  cases change with
  | register topic =>
    obtain ⟨answer, host', h⟩ : ∃ answer host', st.modem.subscribe topic host = (answer, host') :=
      ⟨_, _, rfl⟩
    have hnoted : st.recorded.modem.subscribe topic (host, past) =
        (answer, host', past ++ [.subscribe topic answer]) := noted_of_eq h past
    rw [turn_register, h]
    simp only [Station.change, register]
    rw [bind_of_eq h, bind_of_eq hnoted]
    cases answer <;> rfl
  | unregister topic =>
    rw [turn_unregister]
    simp only [Station.change, unregister]
    cases held.get topic with
    | none => simp only [List.append_nil]; rfl
    | some handle => rfl

/-- What a turn can be when these are held before it. -/
inductive Follows (held : Subscriptions) : Turn → Prop
  | granted (topic : Topic) (handle : Handle) : Follows held
      ⟨.register topic, [.subscribe topic (some handle)], .ok (), held.set (some handle) topic⟩
  | refused (topic : Topic) : Follows held
      ⟨.register topic, [.subscribe topic none], .error (.registration topic), held⟩
  | returned (topic : Topic) (handle : Handle) (h : held.get topic = some handle) : Follows held
      ⟨.unregister topic, [.unsubscribe topic handle], .ok (), held.set none topic⟩
  | idle (topic : Topic) (h : held.get topic = none) : Follows held
      ⟨.unregister topic, [], .ok (), held⟩

theorem follows_turn (st : Station σ) (held : Subscriptions) (change : Change) (host : σ) :
    Follows held (st.turn held change host) := by
  cases change with
  | register topic =>
    rw [turn_register]
    cases (st.modem.subscribe topic host).1 with
    | none => exact .refused topic
    | some handle => exact .granted topic handle
  | unregister topic =>
    rw [turn_unregister]
    cases h : held.get topic with
    | none => exact .idle topic h
    | some handle => exact .returned topic handle h

theorem Follows.get_of_ne {turn : Turn} (h : Follows held turn) (hne : topic ≠ turn.change.topic) :
    turn.held.get topic = held.get topic := by
  cases h with
  | granted other handle => exact (held.get_set (some handle) other topic).trans (if_neg hne)
  | returned other handle _ => exact (held.get_set none other topic).trans (if_neg hne)
  | refused | idle => rfl

end

/-! ### What is held after every course -/

section

variable {α : Type} {p q : α → Prop}

theorem not_since_nil : ¬ Since p q [] := by
  rintro ⟨before, item, since, h, -⟩
  exact List.append_ne_nil_of_right_ne_nil before (List.cons_ne_nil item since) h.symm

theorem since_append_singleton {items : List α} {last : α} :
    Since p q (items ++ [last]) ↔ p last ∨ (q last ∧ Since p q items) := by
  constructor
  · rintro ⟨before, item, since, h, hp, hq⟩
    rcases List.eq_nil_or_concat since with rfl | ⟨since, last', rfl⟩
    · obtain ⟨-, hlast⟩ := List.append_inj' h rfl
      obtain rfl : last = item := List.singleton_inj.1 hlast
      exact .inl hp
    · rw [List.concat_eq_append] at h hq
      rw [← List.cons_append, ← List.append_assoc] at h
      obtain ⟨hitems, hlast⟩ := List.append_inj' h rfl
      obtain rfl : last = last' := List.singleton_inj.1 hlast
      rw [List.forall_mem_append, List.forall_mem_singleton] at hq
      exact .inr ⟨hq.2, before, item, since, hitems, hp, hq.1⟩
  · rintro (hp | ⟨hlast, before, item, since, rfl, hp, hq⟩)
    · exact ⟨items, last, [], rfl, hp, List.forall_mem_nil q⟩
    · refine ⟨before, item, since ++ [last], List.append_assoc _ _ _, hp, ?_⟩
      rw [List.forall_mem_append, List.forall_mem_singleton]
      exact ⟨hq, hlast⟩

end

variable {held : Subscriptions} {topic : Topic} {handle : Handle} {t : Turn} {turns : List Turn}
  {calls : List Exchange}

/-- A turn keeps in step what is held and which handle was given last. -/
theorem Follows.get_iff (h : Follows held t)
    (hget : held.get topic = some handle ↔
      Since (· = .subscribe topic (some handle)) (Exchange.Spares topic) calls) :
    t.held.get topic = some handle ↔
      Since (· = .subscribe topic (some handle)) (Exchange.Spares topic) (calls ++ t.calls) := by
  cases h with
  | granted other given =>
    rw [since_append_singleton, Subscriptions.get_set, ← hget]
    by_cases he : topic = other
    · subst he
      simp [Exchange.Spares]
    · simp [Exchange.Spares, he, Ne.symm he]
  | refused other =>
    rw [since_append_singleton, ← hget]
    simp [Exchange.Spares]
  | returned other given _ =>
    rw [since_append_singleton, Subscriptions.get_set, ← hget]
    by_cases he : topic = other
    · subst he
      simp [Exchange.Spares]
    · simp [Exchange.Spares, he, Ne.symm he]
  | idle other _ =>
    rw [List.append_nil]
    exact hget

theorem Follows.holds_iff (h : Follows held t)
    (hholds : held.holds topic = true ↔ Since (Turn.Registers topic)
      (fun turn => turn.change ≠ .unregister topic) turns) :
    t.held.holds topic = true ↔ Since (Turn.Registers topic)
      (fun turn => turn.change ≠ .unregister topic) (turns ++ [t]) := by
  rw [since_append_singleton, ← hholds]
  cases h with
  | granted other given =>
    by_cases he : other = topic
    · simp [Turn.Registers, Subscriptions.holds, Subscriptions.get_set, he]
    · simp [Turn.Registers, Subscriptions.holds, Subscriptions.get_set, he, Ne.symm he]
  | refused other => simp [Turn.Registers]
  | returned other given _ =>
    by_cases he : other = topic
    · simp [Turn.Registers, Subscriptions.holds, Subscriptions.get_set, he]
    · simp [Turn.Registers, Subscriptions.holds, Subscriptions.get_set, he, Ne.symm he]
  | idle other hnone =>
    by_cases he : other = topic
    · subst he
      simp [Turn.Registers, Subscriptions.holds, hnone]
    · simp [Turn.Registers, he]

/-- A turn gives back only what is held, and makes no other call then. -/
theorem Follows.get_of_returned {before after : List Exchange} (h : Follows held t)
    (hcalls : t.calls = before ++ .unsubscribe topic handle :: after) :
    before = [] ∧ held.get topic = some handle := by
  cases h with
  | granted | refused | idle => simp [List.cons_eq_append_iff] at hcalls
  | returned other given hget =>
    obtain ⟨rfl, ⟨rfl, rfl⟩, -⟩ : before = [] ∧ (topic = other ∧ handle = given) ∧ after = [] := by
      simpa [List.singleton_eq_append_iff] using hcalls
    exact ⟨rfl, hget⟩

/-! ### Every course -/

variable {st : Station σ} {changes : List Change} {host : σ}

theorem course_append_singleton (st : Station σ) (changes : List Change) (change : Change)
    (host : σ) :
    st.course (changes ++ [change]) host = st.advance (st.course changes host) change := by
  rw [course, List.foldl_append]
  rfl

theorem calls_advance (st : Station σ) (c : Course σ) (change : Change) :
    (st.advance c change).calls = c.calls ++ (st.turn c.held change c.host).calls := by
  rw [Course.calls, advance, List.flatMap_append, List.flatMap_singleton]
  rfl

theorem changes_course (st : Station σ) (changes : List Change) (host : σ) :
    (st.course changes host).turns.map Turn.change = changes := by
  induction changes using List.reverseRecOn with
  | nil => rfl
  | append_singleton changes change ih =>
    rw [course_append_singleton, advance, List.map_append, ih]
    rfl

/-- What is held on a topic is the handle that was given last there, unless it was given back
since. -/
theorem get_course (st : Station σ) (changes : List Change) (host : σ) (topic : Topic)
    (handle : Handle) : (st.course changes host).held.get topic = some handle ↔
      Since (· = .subscribe topic (some handle)) (Exchange.Spares topic)
        (st.course changes host).calls := by
  induction changes using List.reverseRecOn with
  | nil => exact iff_of_false (by cases topic <;> exact nofun) not_since_nil
  | append_singleton changes change ih =>
    rw [course_append_singleton, calls_advance]
    exact (follows_turn st _ change _).get_iff ih

theorem holds_course (st : Station σ) (changes : List Change) (host : σ) (topic : Topic) :
    (st.course changes host).held.holds topic = true ↔
      Since (Turn.Registers topic) (fun turn => turn.change ≠ .unregister topic)
        (st.course changes host).turns := by
  induction changes using List.reverseRecOn with
  | nil => exact iff_of_false (by cases topic <;> exact nofun) not_since_nil
  | append_singleton changes change ih =>
    rw [course_append_singleton]
    exact (follows_turn st _ change _).holds_iff ih

/-- A handle that is given back was given before on its topic, and there was no such call on the
topic since. -/
theorem since_of_returned {before after : List Exchange}
    (h : (st.course changes host).calls = before ++ .unsubscribe topic handle :: after) :
    Since (· = .subscribe topic (some handle)) (Exchange.Spares topic) before := by
  induction changes using List.reverseRecOn generalizing after with
  | nil => exact absurd h.symm (List.append_ne_nil_of_right_ne_nil before (List.cons_ne_nil _ _))
  | append_singleton changes change ih =>
    have hturn := follows_turn st (st.course changes host).held change (st.course changes host).host
    rw [course_append_singleton, calls_advance] at h
    obtain ⟨rest, rfl, hcalls⟩ | ⟨rest, hcourse, hrest⟩ := List.append_eq_append_iff.1 h
    · obtain ⟨rfl, hget⟩ := hturn.get_of_returned hcalls
      rw [List.append_nil]
      exact (get_course st changes host topic handle).1 hget
    · cases rest with
      | nil =>
        rw [List.append_nil] at hcourse
        obtain ⟨-, hget⟩ := hturn.get_of_returned (hrest.symm.trans (List.nil_append _).symm)
        rw [← hcourse]
        exact (get_course st changes host topic handle).1 hget
      | cons call rest =>
        obtain ⟨rfl, -⟩ := List.cons.inj hrest
        exact ih hcourse

/-- At a host that never gives a handle of a topic twice, none is given back twice. -/
theorem returned_notMem_before {before after : List Exchange}
    (hnew : ((st.course changes host).calls.filterMap Exchange.given?).Nodup)
    (h : (st.course changes host).calls = before ++ .unsubscribe topic handle :: after) :
    .unsubscribe topic handle ∉ before := by
  intro hmem
  obtain ⟨earlier, call, since, rfl, rfl, hspares⟩ := since_of_returned h
  have hearlier : .unsubscribe topic handle ∈ earlier := by
    rcases List.mem_append.1 hmem with hmem | hmem
    · exact hmem
    · rcases List.mem_cons.1 hmem with hcall | hmem
      · cases hcall
      · exact absurd rfl (hspares _ hmem handle).2
  -- So the handle was given before it was given back there, and once more after that.
  have hgiven : .subscribe topic (some handle) ∈ earlier := by
    obtain ⟨first, second, rfl⟩ := List.append_of_mem hearlier
    rw [List.append_assoc, List.append_assoc] at h
    obtain ⟨_, _, _, rfl, rfl, -⟩ := since_of_returned h
    exact List.mem_append_left _ (List.mem_append_right _ List.mem_cons_self)
  rw [h, List.append_assoc, List.filterMap_append] at hnew
  refine (List.nodup_append.1 hnew).2.2 (topic, handle) ?_ (topic, handle) ?_ rfl
  · exact List.mem_filterMap.2 ⟨_, hgiven, rfl⟩
  · exact List.mem_filterMap.2 ⟨_, List.mem_cons_self, rfl⟩

/-- Whatever a host answers, and in whatever order a station takes its subscriptions and gives them
back, each call that gives back a handle comes after a call on the same topic that brought the handle,
with no such call on the topic between them; at a host that brings no handle of a topic twice, the
handle was not given back before. A topic is held just if a registration for it has succeeded since it
was last unregistered, and the handle that is held is the one that was brought last. A registration
that is refused says so and leaves all that is held. Giving back what is not held calls nothing. A
change leaves what is held on the other topic. -/
theorem handles_given_back (st : Station σ) (changes : List Change) (host : σ) :
    let c := st.course changes host
    c.turns.map Turn.change = changes ∧
    (∀ before topic handle after, c.calls = before ++ .unsubscribe topic handle :: after →
      Since (· = .subscribe topic (some handle)) (Exchange.Spares topic) before ∧
        ((c.calls.filterMap Exchange.given?).Nodup → .unsubscribe topic handle ∉ before)) ∧
    (∀ topic,
      (c.held.holds topic = true ↔
        Since (Turn.Registers topic) (fun turn => turn.change ≠ .unregister topic) c.turns) ∧
      (∀ handle, c.held.get topic = some handle ↔
        Since (· = .subscribe topic (some handle)) (Exchange.Spares topic) c.calls) ∧
      (st.turn c.held (.register topic) c.host =
        match (st.modem.subscribe topic c.host).1 with
        | some handle =>
          ⟨.register topic, [.subscribe topic (some handle)], .ok (),
            c.held.set (some handle) topic⟩
        | none =>
          ⟨.register topic, [.subscribe topic none], .error (.registration topic), c.held⟩) ∧
      st.turn c.held (.unregister topic) c.host =
        match c.held.get topic with
        | some handle =>
          ⟨.unregister topic, [.unsubscribe topic handle], .ok (), c.held.set none topic⟩
        | none => ⟨.unregister topic, [], .ok (), c.held⟩) ∧
    ∀ change, let turn := st.turn c.held change c.host
      (∀ past, st.recorded.change c.held change (c.host, past) =
        ((st.change c.held change c.host).1, (st.change c.held change c.host).2,
          past ++ turn.calls)) ∧
      ∀ topic ≠ change.topic, turn.held.get topic = c.held.get topic := by
  intro c
  refine ⟨changes_course st changes host, fun before topic handle after h => ?_, fun topic => ?_,
    fun change => ?_⟩
  · exact ⟨since_of_returned h, fun hnew => returned_notMem_before hnew h⟩
  · exact ⟨holds_course st changes host topic, get_course st changes host topic,
      turn_register st c.held topic c.host, turn_unregister st c.held topic c.host⟩
  · exact ⟨recorded_change st c.held change c.host,
      fun topic hne => (follows_turn st c.held change c.host).get_of_ne hne⟩

def scripted : Station (List (Option Handle)) where
  launch _ := pure ⟨[], .ok (.exited 0)⟩
  log _ := pure ()
  modem :=
    { subscribe := fun _ answers => (answers.head?.join, answers.tail)
      unsubscribe := fun _ _ => pure ()
      format := fun _ => pure .text
      sender := fun _ => pure (.error .notFound)
      timestamp := fun _ => pure (.error .notFound)
      text := fun _ => pure (.error .notFound)
      delete := fun _ => pure (.error .notFound)
      release := fun _ => pure ()
      create := pure none
      setDestination := fun _ _ => pure (.error .notFound)
      setText := fun _ _ => pure (.error .notFound)
      send := fun _ => pure (.error .notFound) }

/-- A second registration for messages is refused here. The handle of the first is given back all the
same, once, though the host has also used its number for the other topic. -/
theorem handles_given_back_refused :
    let changes : List Change := [.register .messages, .register .storage, .register .messages,
      .unregister .messages, .unregister .messages, .register .messages, .unregister .storage]
    let c := scripted.course changes [some 1, some 1, none, some 2]
    let before : List Exchange := [.subscribe .messages (some 1), .subscribe .storage (some 1),
      .subscribe .messages none, .unsubscribe .messages 1, .subscribe .messages (some 2)]
    c.calls = before ++ [.unsubscribe .storage 1] ∧ .unsubscribe .storage 1 ∉ before ∧
      Since (· = .subscribe .messages (some 2)) (Exchange.Spares .messages) c.calls ∧
      Since (Turn.Registers .messages) (fun turn => turn.change ≠ .unregister .messages)
        c.turns := by
  intro changes c before
  obtain ⟨-, hreturned, htopics, -⟩ :=
    handles_given_back scripted changes [some 1, some 1, none, some 2]
  obtain ⟨hholds, hget, -⟩ := htopics .messages
  exact ⟨rfl, (hreturned before .storage 1 [] rfl).2 (by decide), (hget 2).1 rfl, hholds.1 rfl⟩

end Station

end BuoyGateway
