import Mathlib.Data.List.Nodup
import BuoyGateway.Proofs.Spool.Fullness
import BuoyGateway.Proofs.Spool.Numbers

/-!
# Subscriptions that are taken and given back

A station may take and give back its subscriptions in any order, while others use the same spool. Of
the subscriptions that it has taken on a topic the spool keeps the one that it holds, and besides
that one for each time it took a subscription while it held one: a handle that is replaced is never
given back. A station that takes none while it holds one leaves nothing when it gives it back, and a
look brings up nothing on its behalf.
-/

namespace BuoyGateway

def Event.topic : Event → Topic
  | .received _ => .messages
  | .full _ => .storage

/-- What a station does with its subscriptions, or whatever else happens to the gateway. -/
inductive Dealing (ε : Type)
  | register (topic : Topic)
  | unregister (topic : Topic)
  | meanwhile (m : Move ε)

/-- A gateway, the subscriptions that a station holds there, and all that it has ever taken. -/
structure Client (ε : Type) where
  gateway : Gateway ε
  held : Subscriptions
  taken : List (Topic × Handle)

variable {ε : Type}

/-- The subscriptions made on a topic while one was held, which depends on the calls only. -/
def Dealing.repeats (topic : Topic) : Bool → List (Dealing ε) → Nat
  | _, [] => 0
  | holds, .register other :: dealings =>
    if other = topic then holds.toNat + repeats topic true dealings
    else repeats topic holds dealings
  | holds, .unregister other :: dealings =>
    repeats topic (holds && other != topic) dealings
  | holds, .meanwhile _ :: dealings => repeats topic holds dealings

namespace Gateway

variable {g : Gateway ε}

theorem subscriptions_move (g : Gateway ε) (m : Move ε) : (g.move m).spool.subscriptions =
    match m with
    | .subscribe topic => (topic, g.spool.lastId + 1) :: g.spool.subscriptions
    | .unsubscribe topic handle => g.spool.subscriptions.filter (fun s => s != (topic, handle))
    | _ => g.spool.subscriptions := by
  by_cases hm : m = .poll
  · subst hm
    change (poll g).2.spool.subscriptions = _
    rw [poll_spool]
  · rw [spool_move hm]
    cases m with
    | setDestination ref destination =>
      rw [Spool.afterMove, Spool.setDestination, Spool.edit_snd]
    | setText ref text => rw [Spool.afterMove, Spool.setText, Spool.edit_snd]
    | _ => rfl

/-- A look brings up events of a topic for subscribers only. -/
theorem hasSubscriber_of_poll {events : List Event} {event : Event} (h : (poll g).1 = .ok events)
    (he : event ∈ events) : g.spool.hasSubscriber event.topic = true := by
  obtain ⟨names, hn, hsplit⟩ := poll_events h
  cases event with
  | received ref =>
    by_contra hs
    rw [Event.topic, Bool.not_eq_true] at hs
    rw [poll_unheard hn hs] at h
    cases h
    exact Spool.received_notMem_noticeFull _ _ ref he
  | full storage =>
    rw [hsplit, List.mem_append] at he
    have hnotice : .full storage ∈ g.notices names := he.resolve_right (by simp)
    have hsim : .full .sim ∈ g.notices names := by
      obtain hnone | hone : g.notices names = [] ∨ g.notices names = [.full .sim] :=
        Spool.notices_cases _ _
      · rw [hnone] at hnotice
        cases hnotice
      · rw [hone]
        exact List.mem_cons_self
    exact (Spool.full_mem_noticeFull.1 hsim).2.1

theorem deliveries_of_unheard (h : g.spool.hasSubscriber .messages = false) :
    g.deliveries = [] := by
  by_cases hl : g.looks
  · obtain ⟨names, hn⟩ := looks_iff.1 hl
    exact deliveries_unheard hn h
  · exact (poll_of_not_looks hl).2

end Gateway

namespace Client

open Gateway

variable {st : Station (Gateway ε)} {c : Client ε} {topic : Topic}

def deal (st : Station (Gateway ε)) (c : Client ε) : Dealing ε → Client ε
  | .register topic =>
    match st.register topic c.held c.gateway with
    | ((.ok (), held), gateway) =>
      ⟨gateway, held, (held.get topic).toList.map (fun handle => (topic, handle)) ++ c.taken⟩
    | ((.error _, held), gateway) => ⟨gateway, held, c.taken⟩
  | .unregister topic =>
    match st.unregister topic c.held c.gateway with
    | (held, gateway) => ⟨gateway, held, c.taken⟩
  | .meanwhile m => { c with gateway := c.gateway.move m }

def dealAll (st : Station (Gateway ε)) : List (Dealing ε) → Client ε → Client ε
  | [], c => c
  | dealing :: dealings, c => dealAll st dealings (c.deal st dealing)

/-- Nobody else gives back what the station has taken. -/
def Spared (c : Client ε) : Dealing ε → Prop
  | .meanwhile (.unsubscribe topic handle) => (topic, handle) ∉ c.taken
  | _ => True

def SparedBy (st : Station (Gateway ε)) : List (Dealing ε) → Client ε → Prop
  | [], _ => True
  | dealing :: dealings, c => c.Spared dealing ∧ SparedBy st dealings (c.deal st dealing)

def mine (c : Client ε) : List (Topic × Handle) :=
  c.gateway.spool.subscriptions.filter (fun s => c.taken.contains s)

def mineOn (c : Client ε) (topic : Topic) : List (Topic × Handle) :=
  c.mine.filter (fun s => s.1 == topic)

/-- What the station has taken is accounted for: what it holds is among it, and besides that so many
are left on each topic. -/
structure Accounts (c : Client ε) (left : Topic → Nat) : Prop where
  reachable : c.gateway.Reachable
  taken : ∀ s ∈ c.taken, s.2 ≤ c.gateway.spool.lastId
  held : ∀ topic handle, c.held.get topic = some handle → (topic, handle) ∈ c.mine
  count : ∀ topic, (c.mineOn topic).length = (c.held.holds topic).toNat + left topic

/-! ### One dealing -/

variable {launch : Action → StateM (Machine ε) Report} {left : Topic → Nat}

def next (c : Client ε) (topic : Topic) : Topic × Handle := (topic, c.gateway.spool.lastId + 1)

theorem deal_register (launch : Action → StateM (Machine ε) Report) (c : Client ε)
    (topic : Topic) : c.deal (station launch) (.register topic) =
      ⟨c.gateway.move (.subscribe topic),
        c.held.set (some (c.gateway.spool.lastId + 1)) topic, c.next topic :: c.taken⟩ := by
  cases topic <;> rfl

theorem deal_unregister_none (launch : Action → StateM (Machine ε) Report)
    (h : c.held.get topic = none) : c.deal (station launch) (.unregister topic) = c := by
  simp only [deal, Station.unregister, h]
  rfl

theorem deal_unregister_some (launch : Action → StateM (Machine ε) Report) {handle : Handle}
    (h : c.held.get topic = some handle) : c.deal (station launch) (.unregister topic) =
      ⟨c.gateway.move (.unsubscribe topic handle), c.held.set none topic, c.taken⟩ := by
  simp only [deal, Station.unregister, h]
  rfl

theorem mem_mine {s : Topic × Handle} :
    s ∈ c.mine ↔ s ∈ c.gateway.spool.subscriptions ∧ s ∈ c.taken := by
  rw [mine, List.mem_filter, List.contains_iff_mem]

theorem Accounts.nodup_mine (h : c.Accounts left) : c.mine.Nodup := by
  have hhandles : (c.gateway.spool.subscriptions.map Prod.snd).Nodup :=
    (List.nodup_append.1 h.reachable.nodup_inUse).1
  exact (List.Nodup.of_map Prod.snd hhandles).sublist List.filter_sublist

theorem mine_register (launch : Action → StateM (Machine ε) Report) (h : c.Accounts left)
    (topic : Topic) :
    (c.deal (station launch) (.register topic)).mine = c.next topic :: c.mine := by
  have hold : c.gateway.spool.subscriptions.filter (fun s => (c.next topic :: c.taken).contains s) =
      c.mine := by
    refine List.filter_congr (fun s hs => ?_)
    have hle := h.reachable.handle_le hs
    have hne : s ≠ c.next topic := by
      rintro rfl
      exact Nat.not_succ_le_self _ hle
    simp [hne]
  rw [deal_register, mine, ← hold]
  exact List.filter_cons_of_pos (by simp [next])

theorem mine_unregister (launch : Action → StateM (Machine ε) Report) (h : c.Accounts left)
    {handle : Handle} (hheld : c.held.get topic = some handle) :
    (c.deal (station launch) (.unregister topic)).mine = c.mine.erase (topic, handle) := by
  rw [deal_unregister_some launch hheld, h.nodup_mine.erase_eq_filter]
  exact List.filter_comm _ _ _

theorem mine_meanwhile (st : Station (Gateway ε)) (h : c.Accounts left) {m : Move ε}
    (hm : c.Spared (.meanwhile m)) :
    (c.deal st (.meanwhile m)).mine = c.mine := by
  simp only [deal, mine, subscriptions_move]
  cases m with
  | subscribe other =>
    refine List.filter_cons_of_neg (fun htaken => ?_)
    have hle := h.taken _ (List.contains_iff_mem.1 htaken)
    exact Nat.not_succ_le_self _ hle
  | unsubscribe other handle =>
    simp only [List.filter_filter]
    refine List.filter_congr (fun s hs => ?_)
    cases htaken : c.taken.contains s with
    | false => rfl
    | true =>
      have hne : s ≠ (other, handle) := by
        rintro rfl
        exact hm (List.contains_iff_mem.1 htaken)
      rw [Bool.true_and, bne_iff_ne]
      exact hne
  | _ => rfl

theorem length_mineOn (c : Client ε) (topic : Topic) :
    (c.mineOn topic).length = c.mine.countP (fun s => s.1 == topic) :=
  List.countP_eq_length_filter.symm

/-- A subscription that is taken while one is held leaves that one behind. -/
theorem Accounts.register (h : c.Accounts left) (topic : Topic) :
    (c.deal (station launch) (.register topic)).Accounts
      (fun other => left other + if topic = other then (c.held.holds other).toNat else 0) := by
  have hmine := mine_register launch h topic
  refine ⟨?_, ?_, ?_, ?_⟩
  · rw [deal_register]
    exact h.reachable.move (.subscribe topic)
  · rw [deal_register]
    intro s hs
    rcases List.mem_cons.1 hs with rfl | hs
    · exact Nat.le_refl _
    · exact Nat.le_succ_of_le (h.taken s hs)
  · intro other handle hheld
    rw [hmine]
    rw [deal_register, Subscriptions.get_set] at hheld
    split at hheld
    · next he =>
      cases hheld
      rw [he]
      exact List.mem_cons_self
    · exact List.mem_cons_of_mem _ (h.held other handle hheld)
  · intro other
    have hcount := h.count other
    rw [length_mineOn] at hcount ⊢
    rw [hmine, List.countP_cons, hcount, deal_register]
    simp only [next, beq_iff_eq, Subscriptions.holds, Subscriptions.get_set]
    by_cases he : topic = other
    · subst he
      rw [if_pos rfl, if_pos rfl, if_pos rfl, Option.isSome_some, Bool.toNat_true]
      omega
    · rw [if_neg he, if_neg he, if_neg (Ne.symm he)]
      rfl

theorem Accounts.unregister (h : c.Accounts left) (topic : Topic) :
    (c.deal (station launch) (.unregister topic)).Accounts left := by
  cases hget : c.held.get topic with
  | none =>
    rw [deal_unregister_none launch hget]
    exact h
  | some handle =>
    have hmine := mine_unregister launch h hget
    refine ⟨?_, ?_, ?_, ?_⟩
    · rw [deal_unregister_some launch hget]
      exact h.reachable.move (.unsubscribe topic handle)
    · rw [deal_unregister_some launch hget]
      exact h.taken
    · intro other handle' hheld
      rw [deal_unregister_some launch hget, Subscriptions.get_set] at hheld
      rw [hmine]
      split at hheld
      · cases hheld
      · next hne =>
        refine (List.mem_erase_of_ne ?_).2 (h.held other handle' hheld)
        exact fun he => hne (congrArg Prod.fst he)
    · intro other
      have hperm := List.perm_cons_erase (h.held topic handle hget)
      have hcount := h.count other
      rw [length_mineOn, hperm.countP_eq, List.countP_cons] at hcount
      rw [length_mineOn, hmine, deal_unregister_some launch hget]
      simp only [beq_iff_eq, Subscriptions.holds, Subscriptions.get_set] at hcount ⊢
      by_cases he : topic = other
      · subst he
        rw [if_pos rfl, hget, Option.isSome_some, Bool.toNat_true] at hcount
        rw [if_pos rfl, Option.isSome_none, Bool.toNat_false]
        omega
      · rw [if_neg he] at hcount
        rw [if_neg (Ne.symm he)]
        exact hcount

theorem Accounts.meanwhile (h : c.Accounts left) {m : Move ε} (hm : c.Spared (.meanwhile m)) :
    (c.deal st (.meanwhile m)).Accounts left := by
  have hmine := mine_meanwhile st h hm
  refine ⟨h.reachable.move m, fun s hs => ?_, fun topic handle hheld => ?_, fun topic => ?_⟩
  · exact Nat.le_trans (h.taken s hs) (lastId_move c.gateway m)
  · rw [hmine]
    exact h.held topic handle hheld
  · rw [mineOn, hmine]
    exact h.count topic

/-! ### All dealings -/

variable {dealings : List (Dealing ε)}

theorem holds_unregister (launch : Action → StateM (Machine ε) Report) (c : Client ε)
    (topic other : Topic) :
    (c.deal (station launch) (.unregister topic)).held.holds other =
      (c.held.holds other && topic != other) := by
  cases hget : c.held.get topic with
  | none =>
    rw [deal_unregister_none launch hget]
    by_cases he : topic = other
    · subst he
      simp [Subscriptions.holds, hget]
    · simp [he]
  | some handle =>
    rw [deal_unregister_some launch hget]
    simp only [Subscriptions.holds, Subscriptions.get_set]
    by_cases he : topic = other
    · simp [he]
    · simp [he, Ne.symm he]

theorem Accounts.of_eq {left' : Topic → Nat} (h : c.Accounts left)
    (he : ∀ topic, left topic = left' topic) : c.Accounts left' := by
  obtain rfl : left = left' := funext he
  exact h

/-- After dealings, what is left on a topic has grown by the subscriptions that were made while one
was held. -/
theorem Accounts.dealAll (h : c.Accounts left) (hs : SparedBy (station launch) dealings c) :
    (dealAll (station launch) dealings c).Accounts
      (fun topic => left topic + Dealing.repeats topic (c.held.holds topic) dealings) := by
  induction dealings generalizing c left with
  | nil => exact h
  | cons dealing dealings ih =>
    obtain ⟨hfirst, hrest⟩ := hs
    cases dealing with
    | register topic =>
      refine (ih (h.register topic) hrest).of_eq (fun other => ?_)
      rw [deal_register, Nat.add_assoc]
      simp only [Dealing.repeats, Subscriptions.holds, Subscriptions.get_set]
      by_cases he : topic = other
      · rw [if_pos he, if_pos he.symm, if_pos he, Option.isSome_some]
      · rw [if_neg he, if_neg (Ne.symm he), if_neg he, Nat.zero_add]
    | unregister topic =>
      refine (ih (h.unregister topic) hrest).of_eq (fun other => ?_)
      rw [holds_unregister, Dealing.repeats]
    | meanwhile m => exact ih (h.meanwhile hfirst) hrest

theorem accounts_start {start : Gateway ε} (h : start.Reachable) :
    (⟨start, {}, []⟩ : Client ε).Accounts (fun _ => 0) := by
  have hnone : (⟨start, {}, []⟩ : Client ε).mine = [] := List.filter_eq_nil_iff.2 (by simp)
  refine ⟨h, fun _ hs => absurd hs List.not_mem_nil, fun topic _ hheld => ?_, fun topic => ?_⟩
  · cases topic <;> cases hheld
  · rw [mineOn, hnone]
    cases topic <;> rfl

/-- Whatever a station that holds nothing does with its subscriptions, and whatever others do
meanwhile, the spool keeps of those that it has taken on a topic the one that it holds, and one more
for each that it has taken while it held one. Those are never given back. If there are none of them,
the spool keeps just the one that the station holds, or none. Where nobody else has subscribed, a
look then brings up no event of the topic once the station holds none, and delivers no file. -/
theorem mineOn_dealAll (launch : Action → StateM (Machine ε) Report) (start : Gateway ε)
    (hg : start.Reachable) (dealings : List (Dealing ε))
    (hs : SparedBy (station launch) dealings ⟨start, {}, []⟩) :
    let c := Client.dealAll (station launch) dealings ⟨start, {}, []⟩
    ∀ topic, let left := Dealing.repeats topic false dealings
      ((c.mineOn topic).length = (c.held.holds topic).toNat + left ∧ (c.mineOn topic).Nodup) ∧
      (∀ handle, c.held.get topic = some handle → (topic, handle) ∈ c.mineOn topic) ∧
      (0 < left → c.gateway.spool.hasSubscriber topic = true) ∧
      (left = 0 →
        c.mineOn topic = (c.held.get topic).toList.map (fun handle => (topic, handle))) ∧
      (left = 0 → c.held.holds topic = false →
        (∀ s ∈ c.gateway.spool.subscriptions, s.1 = topic → s ∈ c.taken) →
        (∀ events, (poll c.gateway).1 = .ok events → ∀ event ∈ events, event.topic ≠ topic) ∧
          (topic = .messages → c.gateway.deliveries = [])) := by
  intro c topic left
  have h : c.Accounts (fun topic => 0 + Dealing.repeats topic _ dealings) :=
    (accounts_start hg).dealAll hs
  have hstart : Subscriptions.holds {} topic = false := by cases topic <;> rfl
  have hcount : (c.mineOn topic).length = (c.held.holds topic).toNat + left := by
    rw [h.count topic, Nat.zero_add, hstart]
  have hheld : ∀ handle, c.held.get topic = some handle → (topic, handle) ∈ c.mineOn topic :=
    fun handle hget => List.mem_filter.2 ⟨h.held topic handle hget, beq_self_eq_true topic⟩
  have honly : left = 0 →
      c.mineOn topic = (c.held.get topic).toList.map (fun handle => (topic, handle)) := by
    intro hleft
    rw [hleft, Nat.add_zero, Subscriptions.holds] at hcount
    cases hget : c.held.get topic with
    | none =>
      rw [hget] at hcount
      exact List.eq_nil_of_length_eq_zero hcount
    | some handle =>
      rw [hget] at hcount
      obtain ⟨s, hone⟩ := List.length_eq_one_iff.1 hcount
      have hmem := hheld handle hget
      rw [hone, List.mem_singleton] at hmem
      rw [hone, ← hmem]
      rfl
  refine ⟨⟨hcount, h.nodup_mine.sublist List.filter_sublist⟩, hheld, fun hleft => ?_, honly,
    fun hleft hnone hothers => ?_⟩
  · obtain ⟨s, hmem⟩ := List.exists_mem_of_length_pos (show 0 < (c.mineOn topic).length by omega)
    obtain ⟨hmine, htopic⟩ := List.mem_filter.1 hmem
    exact List.any_eq_true.2 ⟨s, (mem_mine.1 hmine).1, htopic⟩
  · have hunheard : c.gateway.spool.hasSubscriber topic = false := by
      rw [Spool.hasSubscriber, List.any_eq_false]
      intro s hmem htopic
      have hmine : s ∈ c.mine := mem_mine.2 ⟨hmem, hothers s hmem (beq_iff_eq.1 htopic)⟩
      have hon : s ∈ c.mineOn topic := List.mem_filter.2 ⟨hmine, htopic⟩
      rw [Subscriptions.holds, Option.isSome_eq_false_iff, Option.isNone_iff_eq_none] at hnone
      rw [honly hleft, hnone] at hon
      cases hon
    refine ⟨fun events hp event he htopic => ?_, ?_⟩
    · have hheard := hasSubscriber_of_poll hp he
      rw [htopic, hunheard] at hheard
      cases hheard
    · rintro rfl
      exact deliveries_of_unheard hunheard

/-- Registering again once a subscription was given back leaves nothing behind: a message that comes
after the second one was given back as well is not delivered. -/
theorem mineOn_dealAll_again :
    let r : Incoming := ⟨"+1", none, "REBOOT", .text⟩
    let st : Station (Gateway Unit) := station (fun _ => pure ⟨[], .ok (.exited 0)⟩)
    let dealings : List (Dealing Unit) := [.register .messages, .register .storage,
      .unregister .messages, .unregister .messages, .register .messages, .unregister .messages,
      .meanwhile (.change (fun m => m.withMail "1.json" r))]
    let c := dealAll st dealings ⟨opened ⟨Disk.emptySpool, [], ()⟩ Settings.below, {}, []⟩
    c.mineOn .messages = [] ∧ c.mineOn .storage = [(.storage, 2)] ∧ c.gateway.deliveries = [] := by
  intro r st dealings c
  have h := mineOn_dealAll (fun _ => pure ⟨[], .ok (.exited 0)⟩)
    (opened ⟨Disk.emptySpool, [], ()⟩ Settings.below) (.opened _ _) dealings
    ⟨trivial, trivial, trivial, trivial, trivial, trivial, trivial, trivial⟩
  obtain ⟨-, -, -, hmessages, hquiet⟩ := h .messages
  obtain ⟨-, -, -, hstorage, -⟩ := h .storage
  have hothers : ∀ s ∈ c.gateway.spool.subscriptions, s.1 = .messages → s ∈ c.taken := by
    decide +kernel
  exact ⟨hmessages rfl, hstorage rfl, (hquiet rfl rfl hothers).2 rfl⟩

/-- A station that registers while it is registered forgets the first of its two subscriptions.
After it has given back what it holds, a look still brings up a message for it, and delivers the
file. -/
theorem registered_twice_left :
    let r : Incoming := ⟨"+1", none, "REBOOT", .text⟩
    let st : Station (Gateway Unit) := station (fun _ => pure ⟨[], .ok (.exited 0)⟩)
    let start : Client Unit := ⟨opened ⟨Disk.emptySpool, [], ()⟩ Settings.below, {}, []⟩
    let twice := dealAll st [.register .messages, .register .messages] start
    let c := dealAll st [.unregister .messages,
      .meanwhile (.change (fun m => m.withMail "1.json" r))] twice
    (twice.held.holds .messages = true ∧ (twice.mineOn .messages).length = 2) ∧
      (c.held.holds .messages = false ∧ c.mineOn .messages = [(.messages, 1)]) ∧
      (poll c.gateway).1 = .ok [.received 3] ∧ c.gateway.deliveries = ["1.json"] := by
  decide +kernel

end Client

end BuoyGateway
