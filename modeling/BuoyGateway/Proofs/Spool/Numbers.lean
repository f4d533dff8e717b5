import Mathlib.Data.List.Perm.Subperm
import BuoyGateway.Proofs.Spool.Scripts

/-!
# The numbers that a spool gives

Handles of subscriptions, messages that are received and messages that are begun are all numbered by
one counter. The numbers that a history gives are the ones up to the counter, each once, and those
in use are some of them. So what is said of a message under its number depends on nothing but
whether it was given up: every other move leaves it, and after that nothing is known of it again.
-/

namespace BuoyGateway

namespace Spool

variable {spool : Spool} {ref : Ref}

/-- The numbers in use: of subscriptions, of received messages, and of messages that were begun. -/
def inUse (spool : Spool) : List Nat :=
  spool.subscriptions.map Prod.snd ++ (spool.received.map Prod.fst ++ spool.drafts.map Prod.fst)

theorem inUse_release (spool : Spool) (ref : Ref) : (spool.release ref).inUse.Sublist spool.inUse :=
  (List.Sublist.refl _).append
    ((List.filter_sublist.map _).append (List.filter_sublist.map _))

theorem inUse_unsubscribe (spool : Spool) (topic : Topic) (handle : Handle) :
    (spool.unsubscribe topic handle).inUse.Sublist spool.inUse :=
  (List.filter_sublist.map _).append (List.Sublist.refl _)

theorem inUse_edit (spool : Spool) (ref : Ref) (change : Draft → Except Fault Draft) :
    (spool.edit ref change).2.inUse.Subperm spool.inUse := by
  unfold edit
  split
  · exact List.Subperm.refl _
  · next draft hd =>
    split
    · exact List.Subperm.refl _
    · next draft' _ =>
      obtain ⟨before, after, hsplit, -⟩ := List.lookup_eq_some_iff.1 hd
      have hkept : List.Subperm
          (((ref, draft') :: spool.drafts.filter (fun entry => entry.1 != ref)).map Prod.fst)
          (spool.drafts.map Prod.fst) := by
        have hfilter : spool.drafts.filter (fun entry => entry.1 != ref) =
            before.filter (fun entry => entry.1 != ref) ++
              after.filter (fun entry => entry.1 != ref) := by
          rw [hsplit, List.filter_append, List.filter_cons_of_neg (by simp)]
        have hsub : (before.filter (fun entry => entry.1 != ref) ++
            (ref, draft) :: after.filter (fun entry => entry.1 != ref)).Sublist spool.drafts := by
          rw [hsplit]
          exact List.filter_sublist.append (List.filter_sublist.cons_cons _)
        have hkeys := (hsub.map Prod.fst).subperm
        rw [List.map_append, List.map_cons] at hkeys
        rw [List.map_cons, hfilter, List.map_append]
        exact List.perm_middle.symm.subperm.trans hkeys
      exact (List.subperm_append_left _).2 ((List.subperm_append_left _).2 hkept)

theorem received?_release_self (spool : Spool) (ref : Ref) :
    (spool.release ref).received? ref = none := by
  rw [received?, List.lookup_eq_none_iff]
  intro entry he
  have hne : (entry.1 != ref) = true := (List.mem_filter.1 he).2
  rw [bne_iff_ne] at hne ⊢
  exact hne.symm

theorem received?_receiveAll_of_le (messages : List Received) (h : ref ≤ spool.lastId) :
    (spool.receiveAll messages).received? ref = spool.received? ref := by
  have hnone : (numbered spool.lastId messages).reverse.lookup ref = none := by
    rw [List.lookup_eq_none_iff]
    intro entry he
    have hlt := (lt_of_mem_numbered (List.mem_reverse.1 he)).1
    rw [bne_iff_ne]
    rintro rfl
    exact Nat.not_le.2 hlt h
  rw [receiveAll_eq, received?, received?, List.lookup_append, hnone, Option.none_or]

end Spool

namespace Gateway

variable {ε : Type} {g g' : Gateway ε} {m : Move ε} {moves : List (Move ε)} {ref : Ref}

/-- The numbers that a move gives: the handle of a subscription, the references of the messages that
a look brings up, or the reference of a message that is begun. -/
def given (g : Gateway ε) : Move ε → List Nat
  | .poll =>
    match (poll g).1 with
    | .ok events => events.filterMap Event.ref?
    | .error _ => []
  | .subscribe topic => (modem.subscribe topic g).1.toList
  | .create => (modem.create g).1.toList
  | _ => []

def givenBy : List (Move ε) → Gateway ε → List Nat
  | [], _ => []
  | m :: moves, g => g.given m ++ givenBy moves (g.move m)

def answers (g : Gateway ε) (ref : Ref) :
    MessageFormat × Except Fault String × Except Fault String × Except Fault String :=
  ((modem.format ref g).1, (modem.sender ref g).1, (modem.timestamp ref g).1, (modem.text ref g).1)

def unheardOf : MessageFormat × Except Fault String × Except Fault String × Except Fault String :=
  (.unknown, .error .notFound, .error .notFound, .error .notFound)

/-! ### One move -/

theorem given_poll (g : Gateway ε) : g.given .poll =
    List.range' (g.spool.lastId + 1) ((poll g).2.spool.lastId - g.spool.lastId) := by
  unfold given
  cases hp : (poll g).1 with
  | ok events =>
    obtain ⟨names, -, rfl⟩ := poll_events hp
    have hrefs : ∀ refs : List Ref, (refs.map Event.received).filterMap Event.ref? = refs := by
      intro refs
      rw [List.filterMap_map]
      exact List.filterMap_some
    simp only [List.filterMap_append, refs_notices, hrefs, List.nil_append]
  | error why =>
    have hl : ¬ g.looks := by
      rw [looks, hp]
      exact Bool.false_ne_true
    rw [(poll_of_not_looks hl).1, Nat.sub_self]
    rfl

theorem given_move (g : Gateway ε) (m : Move ε) : g.given m =
    List.range' (g.spool.lastId + 1) ((g.move m).spool.lastId - g.spool.lastId) := by
  have hone : [g.spool.lastId + 1] =
      List.range' (g.spool.lastId + 1) (g.spool.lastId + 1 - g.spool.lastId) := by
    rw [Nat.add_sub_cancel_left]
    rfl
  have hnone : [] = List.range' (g.spool.lastId + 1) (g.spool.lastId - g.spool.lastId) := by
    rw [Nat.sub_self]
    rfl
  by_cases hm : m = .poll
  · subst hm
    exact given_poll g
  · rw [spool_move hm]
    cases m with
    | poll => exact absurd rfl hm
    | subscribe topic => exact hone
    | create => exact hone
    | setDestination ref destination =>
      rw [Spool.afterMove, Spool.setDestination, Spool.edit_snd]
      exact hnone
    | setText ref text =>
      rw [Spool.afterMove, Spool.setText, Spool.edit_snd]
      exact hnone
    | _ => exact hnone

theorem lt_of_mem_given {n : Nat} (h : n ∈ g.given m) :
    g.spool.lastId < n ∧ n ≤ (g.move m).spool.lastId := by
  have hlast := lastId_move g m
  rw [given_move, List.mem_range'_1] at h
  omega

theorem inUse_poll (g : Gateway ε) :
    (poll g).2.spool.inUse.Subperm (g.given .poll ++ g.spool.inUse) := by
  have hsame : ∀ spool : Spool, spool.inUse = g.spool.inUse →
      spool.inUse.Subperm (g.given .poll ++ g.spool.inUse) := by
    intro spool h
    rw [h]
    exact (List.sublist_append_right _ _).subperm
  have hlisted : ∀ names, (g.listed names).spool.inUse = g.spool.inUse := by
    intro names
    rw [listed_spool]
    rfl
  cases hn : g.disk.recordNames g.spool.inbox with
  | error e =>
    rw [poll_unlisted hn]
    exact hsame g.spool rfl
  | ok names =>
    cases hs : g.spool.hasSubscriber .messages with
    | false =>
      rw [poll_unheard hn hs]
      exact hsame _ (hlisted names)
    | true =>
      have hlast : (g.listed names).spool.lastId = g.spool.lastId := by rw [listed_spool]
      have hgiven : g.given .poll = (Spool.numbered (g.listed names).spool.lastId
          (arrivals names (g.listed names))).map Prod.fst := by
        rw [given_poll, poll_heard hn hs, pollFiles_eq, Spool.map_fst_numbered]
        dsimp only
        rw [afterFiles_spool, Spool.receiveAll_eq, hlast, Nat.add_sub_cancel_left]
      rw [hgiven, poll_heard hn hs, pollFiles_eq, ← hlisted names]
      dsimp only
      rw [afterFiles_spool, Spool.receiveAll_eq]
      simp only [Spool.inUse, List.map_append, List.map_reverse, List.append_assoc]
      refine List.Perm.subperm ?_
      refine (List.perm_append_comm_assoc _ _ _).trans ?_
      exact (List.reverse_perm _).append_right _

/-- The numbers in use after a move were in use before it or are given by it, each once. -/
theorem inUse_move (g : Gateway ε) (m : Move ε) :
    (g.move m).spool.inUse.Subperm (g.given m ++ g.spool.inUse) := by
  by_cases hm : m = .poll
  · subst hm
    exact inUse_poll g
  · rw [spool_move hm]
    cases m with
    | poll => exact absurd rfl hm
    | create =>
      have hmiddle : ∀ (handles refs drafts : List Nat) (n : Nat),
          (handles ++ (refs ++ n :: drafts)).Perm (n :: (handles ++ (refs ++ drafts))) := by
        intro handles refs drafts n
        rw [← List.append_assoc, ← List.append_assoc]
        exact List.perm_middle
      exact (hmiddle _ _ _ _).subperm
    | unsubscribe topic handle => exact (g.spool.inUse_unsubscribe topic handle).subperm
    | release ref => exact (g.spool.inUse_release ref).subperm
    | setDestination ref destination => exact g.spool.inUse_edit ref _
    | setText ref text => exact g.spool.inUse_edit ref _
    | _ => exact List.Subperm.refl _

/-- The numbers that a gateway uses are up to its counter, whatever it has done. -/
theorem Reachable.inUse_le (h : g.Reachable) : ∀ n ∈ g.spool.inUse, n ≤ g.spool.lastId := by
  induction h with
  | opened machine settings => exact fun n hn => absurd hn List.not_mem_nil
  | @move g h m ih =>
    intro n hn
    rcases List.mem_append.1 ((inUse_move g m).subset hn) with hnew | hold
    · exact (lt_of_mem_given hnew).2
    · exact Nat.le_trans (ih n hold) (lastId_move g m)
  | @sendMessage g h launch destination text ih =>
    obtain ⟨made, -, -, -, hs⟩ := tracks_sendMessage launch h.bounded destination text g [] rfl
    rw [hs]
    exact fun n hn => Nat.le_trans (ih n hn) (Nat.le_add_right _ _)
  | @handle g h launch settings ref ih =>
    obtain ⟨made, -, -, -, hs⟩ := tracks_handle launch h.bounded settings ref g [] rfl
    rw [hs]
    intro n hn
    have hbefore : n ∈ g.spool.inUse := (Spool.inUse_release _ ref).subset hn
    exact Nat.le_trans (ih n hbefore) (Nat.le_add_right _ _)

theorem Reachable.handle_le (h : g.Reachable) {s : Topic × Handle}
    (hs : s ∈ g.spool.subscriptions) : s.2 ≤ g.spool.lastId :=
  h.inUse_le s.2 (List.mem_append_left _ (List.mem_map_of_mem hs))

theorem Reachable.nodup_inUse (h : g.Reachable) : g.spool.inUse.Nodup := by
  induction h with
  | opened machine settings => exact List.nodup_nil
  | @move g h m ih =>
    have hall : (g.given m ++ g.spool.inUse).Nodup := by
      refine List.nodup_append.2 ⟨?_, ih, ?_⟩
      · rw [given_move]
        exact List.nodup_range'
      · intro n hnew n' hold he
        have hlt := (lt_of_mem_given hnew).1
        have hle := h.inUse_le n' hold
        omega
    obtain ⟨used, hperm, hsublist⟩ := inUse_move g m
    exact hperm.nodup_iff.1 (hall.sublist hsublist)
  | @sendMessage g h launch destination text ih =>
    obtain ⟨made, -, -, -, hs⟩ := tracks_sendMessage launch h.bounded destination text g [] rfl
    rw [hs]
    exact ih
  | @handle g h launch settings ref ih =>
    obtain ⟨made, -, -, -, hs⟩ := tracks_handle launch h.bounded settings ref g [] rfl
    rw [hs]
    exact ih.sublist (Spool.inUse_release _ ref)

theorem Reachable.run (h : g.Reachable) (moves : List (Move ε)) : (run moves g).Reachable := by
  induction moves generalizing g with
  | nil => exact h
  | cons m moves ih => exact ih (h.move m)

theorem received?_poll (href : ref ≤ g.spool.lastId) :
    (poll g).2.spool.received? ref = g.spool.received? ref := by
  cases hn : g.disk.recordNames g.spool.inbox with
  | error e => rw [poll_unlisted hn]
  | ok names =>
    have hlisted : (g.listed names).spool.received? ref = g.spool.received? ref := by
      rw [listed_spool]
      rfl
    have hle : ref ≤ (g.listed names).spool.lastId := by
      rw [listed_spool]
      exact href
    cases hs : g.spool.hasSubscriber .messages with
    | false =>
      rw [poll_unheard hn hs]
      exact hlisted
    | true =>
      rw [poll_heard hn hs, pollFiles_eq]
      dsimp only
      rw [afterFiles_spool, Spool.received?_receiveAll_of_le _ hle, hlisted]

/-- What is remembered under a number is left by every move but a look and the one that gives it up. -/
theorem received?_of_not_poll (hp : m ≠ .poll) (hm : m ≠ .release ref) :
    (g.move m).spool.received? ref = g.spool.received? ref := by
  rw [spool_move hp]
  cases m with
  | release other =>
    have hne : ref ≠ other := fun he => hm (he ▸ rfl)
    exact g.spool.received?_release hne
  | setDestination other destination =>
    rw [Spool.afterMove, Spool.setDestination, Spool.edit_snd]
    rfl
  | setText other text =>
    rw [Spool.afterMove, Spool.setText, Spool.edit_snd]
    rfl
  | _ => rfl

/-- What is remembered under a number that was given is left by every move but the one that gives it
up. -/
theorem received?_move (hm : m ≠ .release ref) (href : ref ≤ g.spool.lastId) :
    (g.move m).spool.received? ref = g.spool.received? ref := by
  by_cases hp : m = .poll
  · subst hp
    exact received?_poll href
  · exact received?_of_not_poll hp hm

/-! ### A run of moves -/

theorem lastId_run (moves : List (Move ε)) (g : Gateway ε) :
    g.spool.lastId ≤ (run moves g).spool.lastId := by
  induction moves generalizing g with
  | nil => exact Nat.le_refl _
  | cons m moves ih => exact Nat.le_trans (lastId_move g m) (ih (g.move m))

theorem givenBy_eq (moves : List (Move ε)) (g : Gateway ε) : givenBy moves g =
    List.range' (g.spool.lastId + 1) ((run moves g).spool.lastId - g.spool.lastId) := by
  induction moves generalizing g with
  | nil =>
    rw [run, Nat.sub_self]
    rfl
  | cons m moves ih =>
    have hmove := lastId_move g m
    have hrun := lastId_run moves (g.move m)
    have hfirst : (g.move m).spool.lastId + 1 =
        g.spool.lastId + 1 + ((g.move m).spool.lastId - g.spool.lastId) := by omega
    rw [givenBy, ih, given_move, run, hfirst, List.range'_append_1]
    congr 1
    omega

theorem inUse_run (moves : List (Move ε)) (g : Gateway ε) :
    (run moves g).spool.inUse.Subperm (givenBy moves g ++ g.spool.inUse) := by
  induction moves generalizing g with
  | nil => exact List.Subperm.refl _
  | cons m moves ih =>
    rw [givenBy, run]
    refine (ih (g.move m)).trans ?_
    refine ((List.subperm_append_left _).2 (inUse_move g m)).trans ?_
    rw [← List.append_assoc]
    exact (List.perm_append_comm.append_right _).subperm

theorem received?_run (hm : .release ref ∉ moves) (href : ref ≤ g.spool.lastId) :
    (run moves g).spool.received? ref = g.spool.received? ref := by
  induction moves generalizing g with
  | nil => rfl
  | cons m moves ih =>
    rw [List.mem_cons, not_or] at hm
    rw [run, ih hm.2 (Nat.le_trans href (lastId_move g m)), received?_move (Ne.symm hm.1) href]

theorem received?_run_of_none (h : g.spool.received? ref = none) (href : ref ≤ g.spool.lastId) :
    (run moves g).spool.received? ref = none := by
  induction moves generalizing g with
  | nil => exact h
  | cons m moves ih =>
    have hle := Nat.le_trans href (lastId_move g m)
    by_cases hm : m = .release ref
    · subst hm
      exact ih (g.spool.received?_release_self ref) hle
    · exact ih ((received?_move hm href).trans h) hle

theorem received?_run_of_released (hm : .release ref ∈ moves) (href : ref ≤ g.spool.lastId) :
    (run moves g).spool.received? ref = none := by
  obtain ⟨before, after, rfl⟩ := List.append_of_mem hm
  rw [run_append, run]
  have hle := Nat.le_trans href (lastId_run before g)
  exact received?_run_of_none (Spool.received?_release_self _ ref) hle

/-! ### What is said of a message -/

theorem answers_congr (h : g'.spool.received? ref = g.spool.received? ref) :
    g'.answers ref = g.answers ref := by
  change (g'.spool.format ref, g'.spool.sender ref, g'.spool.timestamp ref, g'.spool.text ref) =
    (g.spool.format ref, g.spool.sender ref, g.spool.timestamp ref, g.spool.text ref)
  simp only [Spool.format, Spool.sender, Spool.timestamp, Spool.text, h]

theorem answers_of_none (h : g.spool.received? ref = none) : g.answers ref = unheardOf := by
  change (g.spool.format ref, g.spool.sender ref, g.spool.timestamp ref, g.spool.text ref) = _
  simp only [Spool.format, Spool.sender, Spool.timestamp, Spool.text, h]
  rfl

theorem answers_of_some {message : Received} (h : g.spool.received? ref = some message) :
    g.answers ref = (message.record.format,
      if numberLimit < Text.size message.record.sender then .error .overflow
        else .ok message.record.sender,
      .ok message.timestamp, .ok message.record.text) := by
  change (g.spool.format ref, g.spool.sender ref, g.spool.timestamp ref, g.spool.text ref) = _
  simp only [Spool.format, Spool.sender, Spool.timestamp, Spool.text, h]

/-- After every history, the numbers that were given are the ones up to the counter, each once.
Those in use are some of them, each in use for one thing only. What is said of a message that a look
has brought up is left by every move but the one that gives it up, whatever happens to its file;
once it is given up nothing is known of it, whatever follows. -/
theorem numbers_run (machine : Machine ε) (settings : Settings) (moves : List (Move ε)) :
    let start := opened machine settings
    let g := run moves start
    (givenBy moves start = List.range' 1 g.spool.lastId ∧ (givenBy moves start).Nodup) ∧
    ((∀ n ∈ g.spool.inUse, n ∈ givenBy moves start ∧ n ≤ g.spool.lastId) ∧ g.spool.inUse.Nodup) ∧
    (∀ ref ∈ g.spool.received.map Prod.fst, ref ∉ g.spool.drafts.map Prod.fst) ∧
    ∀ before after events ref, moves = before ++ .poll :: after →
      (poll (run before start)).1 = .ok events → .received ref ∈ events →
      (∃ text, (((run before start).move .poll).answers ref).2.2.2 = .ok text) ∧
      (∀ m, m ≠ .release ref → (g.move m).answers ref = g.answers ref) ∧
      (.release ref ∉ after → g.answers ref = ((run before start).move .poll).answers ref) ∧
      (.release ref ∈ after → g.answers ref = unheardOf) := by
  intro start g
  have hgiven : givenBy moves start = List.range' 1 g.spool.lastId := givenBy_eq moves start
  have hnodup : (givenBy moves start).Nodup := by
    rw [hgiven]
    exact List.nodup_range'
  have hsub : g.spool.inUse.Subperm (givenBy moves start) := by
    have h := inUse_run moves start
    rwa [show start.spool.inUse = [] from rfl, List.append_nil] at h
  have hg : g.Reachable := Reachable.run (.opened machine settings) moves
  refine ⟨⟨hgiven, hnodup⟩, ⟨fun n hn => ⟨hsub.subset hn, hg.inUse_le n hn⟩, hg.nodup_inUse⟩,
    fun ref hr hd => ?_, ?_⟩
  · have hmessages := (List.nodup_append.1 hg.nodup_inUse).2.1
    exact (List.nodup_append.1 hmessages).2.2 ref hr ref hd rfl
  · rintro before after events ref rfl hp he
    have hmem : ref ∈ (run before start).given .poll := by
      simp only [given, hp]
      exact List.mem_filterMap.2 ⟨_, he, rfl⟩
    have hpolled := (lt_of_mem_given hmem).2
    have hsplit : g = run after ((run before start).move .poll) := run_append before _ start
    have hle : ref ≤ g.spool.lastId := by
      rw [hsplit]
      exact Nat.le_trans hpolled (lastId_run after _)
    refine ⟨?_, fun m hm => answers_congr (received?_move hm hle), fun hkept => ?_,
      fun hreleased => ?_⟩
    · obtain ⟨message, hm⟩ := (refs_poll hp).2 ref he
      have htext : ((run before start).move .poll).spool.text ref = .ok message.record.text := by
        change (poll (run before start)).2.spool.text ref = _
        simp only [Spool.text, hm]
      exact ⟨message.record.text, htext⟩
    · rw [hsplit]
      exact answers_congr (received?_run hkept hpolled)
    · rw [hsplit]
      exact answers_of_none (received?_run_of_released hreleased hpolled)

/-- A message is still known after its file was taken away, another message was begun and given up
and the inbox was looked at again; it is unheard of once it is given up itself. -/
theorem numbers_run_kept :
    let r : Incoming := ⟨"+1", some "26/10/19,10:00:00+52", "REBOOT", .text⟩
    let start := opened (Machine.withMail ⟨Disk.emptySpool, [], ()⟩ "1.json" r) Settings.below
    let before : List (Move Unit) := [.subscribe .messages]
    let after : List (Move Unit) :=
      [.change (fun m => m.withoutMail "1.json"), .create, .poll, .release 3]
    (run (before ++ .poll :: after) start).answers 2 =
        (.text, .ok "+1", .ok "26/10/19,10:00:00+52", .ok "REBOOT") ∧
      (run (before ++ .poll :: (after ++ [.release 2, .create])) start).answers 2 = unheardOf := by
  intro r start before after
  have hp : (poll (run before start)).1 = .ok [.received 2] := by decide +kernel
  obtain ⟨-, -, -, hkept⟩ := numbers_run (Machine.withMail ⟨Disk.emptySpool, [], ()⟩ "1.json" r)
    Settings.below (before ++ .poll :: after)
  obtain ⟨-, -, -, hreleased⟩ := numbers_run (Machine.withMail ⟨Disk.emptySpool, [], ()⟩ "1.json" r)
    Settings.below (before ++ .poll :: (after ++ [.release 2, .create]))
  obtain ⟨-, -, hsame, -⟩ := hkept before after _ 2 rfl hp List.mem_cons_self
  obtain ⟨-, -, -, hnone⟩ := hreleased before _ _ 2 rfl hp List.mem_cons_self
  refine ⟨(hsame (by simp [after])).trans ?_, hnone (by simp)⟩
  decide +kernel

end Gateway

end BuoyGateway
