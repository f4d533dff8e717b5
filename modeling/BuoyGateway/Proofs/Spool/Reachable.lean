import BuoyGateway.Proofs.Spool.History
import BuoyGateway.Proofs.Spool.Tracking

/-!
# Reachable gateways

Whatever a gateway has done, and whatever happened to its machine meanwhile, every number that its
spool still uses has been given: the next one is new.
-/

namespace BuoyGateway

namespace Spool

variable {spool : Spool}

theorem Bounded.mono {last : Nat} (hb : spool.Bounded) (h : spool.lastId ≤ last) :
    Bounded { spool with lastId := last } :=
  ⟨fun entry he => Nat.le_trans (hb.received entry he) h,
    fun entry he => Nat.le_trans (hb.drafts entry he) h⟩

theorem Bounded.release (hb : spool.Bounded) (ref : Ref) : (spool.release ref).Bounded :=
  ⟨fun entry he => hb.received entry (List.mem_of_mem_filter he),
    fun entry he => hb.drafts entry (List.mem_of_mem_filter he)⟩

theorem Bounded.create (hb : spool.Bounded) : spool.create.2.Bounded := by
  refine ⟨(hb.mono (Nat.le_succ _)).received, fun entry he => ?_⟩
  rcases List.mem_cons.1 he with rfl | he
  · exact Nat.le_refl _
  · exact Nat.le_succ_of_le (hb.drafts entry he)

theorem Bounded.edit (hb : spool.Bounded) (ref : Ref) (change : Draft → Except Fault Draft) :
    (spool.edit ref change).2.Bounded := by
  unfold Spool.edit
  split
  · exact hb
  · next draft hd =>
    split
    · exact hb
    · refine ⟨hb.received, fun entry he => ?_⟩
      rcases List.mem_cons.1 he with rfl | he
      · obtain ⟨before, after, hsplit, -⟩ := List.lookup_eq_some_iff.1 hd
        exact hb.drafts (ref, draft) (hsplit ▸ List.mem_append_right _ List.mem_cons_self)
      · exact hb.drafts entry (List.mem_of_mem_filter he)

theorem Bounded.receiveAll (hb : spool.Bounded) (messages : List Received) :
    (spool.receiveAll messages).Bounded := by
  rw [receiveAll_eq]
  refine ⟨fun entry he => ?_, (hb.mono (Nat.le_add_right _ _)).drafts⟩
  rcases List.mem_append.1 he with he | he
  · exact (lt_of_mem_numbered (List.mem_reverse.1 he)).2
  · exact Nat.le_add_right_of_le (hb.received entry he)

theorem Bounded.afterHandling (hb : spool.Bounded) (ref : Ref) :
    (spool.afterHandling ref).Bounded := (hb.mono (Nat.le_add_right _ _)).release ref

end Spool

namespace Gateway

variable {ε : Type} {g : Gateway ε}

theorem bounded_poll (hb : g.spool.Bounded) : (poll g).2.spool.Bounded := by
  cases hr : g.disk.recordNames g.spool.inbox with
  | error e =>
    rw [poll_unlisted hr]
    exact hb
  | ok names =>
    have hlisted : (g.listed names).spool.Bounded := by
      rw [listed_spool]
      exact ⟨hb.received, hb.drafts⟩
    cases hs : g.spool.hasSubscriber .messages with
    | false =>
      rw [poll_unheard hr hs]
      exact hlisted
    | true =>
      rw [poll_heard hr hs, pollFiles_eq]
      dsimp only
      rw [afterFiles_spool]
      exact hlisted.receiveAll _

theorem bounded_move (hb : g.spool.Bounded) (m : Move ε) : (g.move m).spool.Bounded := by
  by_cases hm : m = .poll
  · subst hm
    exact bounded_poll hb
  · rw [spool_move hm]
    cases m with
    | subscribe topic =>
      exact ⟨(hb.mono (Nat.le_succ _)).received, (hb.mono (Nat.le_succ _)).drafts⟩
    | unsubscribe topic handle => exact ⟨hb.received, hb.drafts⟩
    | release ref => exact hb.release ref
    | create => exact hb.create
    | setDestination ref destination => exact hb.edit ref _
    | setText ref text => exact hb.edit ref _
    | _ => exact hb

theorem lastId_poll (g : Gateway ε) : g.spool.lastId ≤ (poll g).2.spool.lastId := by
  cases hr : g.disk.recordNames g.spool.inbox with
  | error e =>
    exact Nat.le_of_eq (by rw [poll_unlisted hr])
  | ok names =>
    have hlisted : (g.listed names).spool.lastId = g.spool.lastId := by rw [listed_spool]
    cases hs : g.spool.hasSubscriber .messages with
    | false =>
      rw [poll_unheard hr hs]
      exact Nat.le_of_eq hlisted.symm
    | true =>
      rw [poll_heard hr hs, pollFiles_eq]
      dsimp only
      rw [afterFiles_spool, Spool.receiveAll_eq, ← hlisted]
      exact Nat.le_add_right _ _

theorem lastId_move (g : Gateway ε) (m : Move ε) : g.spool.lastId ≤ (g.move m).spool.lastId := by
  by_cases hm : m = .poll
  · subst hm
    exact lastId_poll g
  · rw [spool_move hm]
    cases m with
    | subscribe topic => exact Nat.le_succ _
    | create => exact Nat.le_succ _
    | setDestination ref destination =>
      exact Nat.le_of_eq (by rw [Spool.afterMove, Spool.setDestination, Spool.edit_snd])
    | setText ref text =>
      exact Nat.le_of_eq (by rw [Spool.afterMove, Spool.setText, Spool.edit_snd])
    | _ => exact Nat.le_refl _

/-- A gateway that came of one just opened by its operations, and by whatever happened to its machine
meanwhile. -/
inductive Reachable : Gateway ε → Prop
  | opened (machine : Machine ε) (settings : Settings) : Reachable (opened machine settings)
  | move {g : Gateway ε} (h : Reachable g) (m : Move ε) : Reachable (g.move m)
  | sendMessage {g : Gateway ε} (h : Reachable g) (launch : Action → StateM (Machine ε) Report)
      (destination text : String) : Reachable ((station launch).sendMessage destination text g).2
  | handle {g : Gateway ε} (h : Reachable g) (launch : Action → StateM (Machine ε) Report)
      (settings : Settings) (ref : Ref) : Reachable ((station launch).handle settings ref g).2

theorem Reachable.bounded (h : g.Reachable) : g.spool.Bounded := by
  induction h with
  | opened machine settings =>
    exact ⟨fun _ he => absurd he List.not_mem_nil, fun _ he => absurd he List.not_mem_nil⟩
  | move h m ih => exact bounded_move ih m
  | @sendMessage g h launch destination text ih =>
    obtain ⟨made, -, -, -, hs⟩ := tracks_sendMessage launch ih destination text g [] rfl
    rw [hs]
    exact ih.mono (Nat.le_add_right _ _)
  | @handle g h launch settings ref ih =>
    obtain ⟨made, -, -, -, hs⟩ := tracks_handle launch ih settings ref g [] rfl
    rw [hs]
    exact ih.afterHandling ref

end Gateway

end BuoyGateway
