import Mathlib.Data.List.Basic
import BuoyGateway.Proofs.Spool.Arrivals

/-!
# A look at the whole inbox

A look lists the records of the inbox, forgets the delivered ones that are gone, and then, if
somebody subscribes to messages, looks at each of them. `deliveries` are the names of the files whose
messages a look delivers, as its events tell them.
-/

namespace BuoyGateway

namespace Spool

variable (spool : Spool) (count : Nat)

/-- A notice of a full store changes nothing but whether it was given. -/
theorem noticeFull_snd : (spool.noticeFull count).2 =
    { spool with fullReported := (spool.noticeFull count).2.fullReported } := by
  unfold noticeFull
  split
  · rfl
  · split <;> rfl

theorem received_notMem_noticeFull (ref : Ref) : .received ref ∉ (spool.noticeFull count).1 := by
  unfold noticeFull
  split
  · simp
  · split <;> simp

end Spool

namespace Gateway

variable {ε : Type} (g : Gateway ε)

def lists (name : String) : Prop :=
  ∃ names, g.disk.list g.spool.inbox = .ok names ∧ name ∈ names ∧ isRecordName name = true

instance (name : String) : Decidable (g.lists name) :=
  match h : g.disk.list g.spool.inbox with
  | .error e => isFalse (by
      rintro ⟨names, hn, -⟩
      rw [h] at hn
      cases hn)
  | .ok names => decidable_of_iff (name ∈ names ∧ isRecordName name = true) (by
      constructor
      · exact fun hm => ⟨names, h, hm⟩
      · rintro ⟨names', hn, hm⟩
        rw [h] at hn
        cases hn
        exact hm)

/-- The gateway once the names of the records are known to it. -/
def listed (names : List String) : Gateway ε :=
  { g with spool := ((g.spool.prune names).noticeFull names.length).2 }

def notices (names : List String) : List Event :=
  ((g.spool.prune names).noticeFull names.length).1

def atFile (name : String) : Gateway ε :=
  match g.disk.recordNames g.spool.inbox with
  | .error _ => g
  | .ok names => (g.listed names).reached names name

/-- The name of the file whose message an event brings up. -/
def eventName? (spool : Spool) : Event → Option String
  | .received ref => (spool.received? ref).map Received.name
  | .full _ => none

/-- The names of the files whose messages a look at the inbox delivers. -/
def deliveries : List String :=
  match (poll g).1 with
  | .error _ => []
  | .ok events => events.filterMap (eventName? (poll g).2.spool)

variable {g} {name : String} {names : List String}

theorem list_of_recordNames (h : g.disk.recordNames g.spool.inbox = .ok names) :
    ∃ all, g.disk.list g.spool.inbox = .ok all ∧
      names = (all.filter isRecordName).mergeSort (fun a b => decide (a ≤ b)) := by
  obtain ⟨all, hall, h⟩ := bind_eq_ok.1 h
  cases h
  exact ⟨all, hall, rfl⟩

theorem lists_iff (h : g.disk.recordNames g.spool.inbox = .ok names) :
    g.lists name ↔ name ∈ names := by
  obtain ⟨all, hall, rfl⟩ := list_of_recordNames h
  rw [(List.mergeSort_perm _ _).mem_iff, List.mem_filter]
  constructor
  · rintro ⟨all', hall', hm, hr⟩
    rw [hall] at hall'
    cases hall'
    exact ⟨hm, hr⟩
  · rintro ⟨hm, hr⟩
    exact ⟨all, hall, hm, hr⟩

theorem listed_spool (g : Gateway ε) (names : List String) : (g.listed names).spool =
    { g.spool with
      delivered := g.spool.delivered.filter (fun name => names.contains name)
      fullReported := (g.listed names).spool.fullReported } :=
  (g.spool.prune names).noticeFull_snd names.length

theorem mem_delivered_listed :
    name ∈ (g.listed names).spool.delivered ↔ name ∈ g.spool.delivered ∧ name ∈ names := by
  rw [listed_spool]
  simp

/-! ### The three ways of a look -/

theorem poll_unlisted {e : SystemError} (h : g.disk.recordNames g.spool.inbox = .error e) :
    poll g = (.error (.system e), g) := by
  simp only [poll, bind, StateT.bind, get, getThe, MonadStateOf.get, StateT.get, pure, h]
  rfl

theorem poll_unheard (h : g.disk.recordNames g.spool.inbox = .ok names)
    (hs : g.spool.hasSubscriber .messages = false) :
    poll g = (.ok (g.notices names), g.listed names) := by
  have hs' : ((g.spool.prune names).noticeFull names.length).2.hasSubscriber .messages = false := by
    rw [Spool.noticeFull_snd]
    exact hs
  simp only [poll, bind, StateT.bind, get, getThe, MonadStateOf.get, StateT.get, pure, h, hs']
  rfl

theorem poll_heard (h : g.disk.recordNames g.spool.inbox = .ok names)
    (hs : g.spool.hasSubscriber .messages = true) :
    poll g = (.ok (g.notices names ++ (pollFiles names (g.listed names)).1),
      (pollFiles names (g.listed names)).2) := by
  have hs' : ((g.spool.prune names).noticeFull names.length).2.hasSubscriber .messages = true := by
    rw [Spool.noticeFull_snd]
    exact hs
  simp only [poll, bind, StateT.bind, get, getThe, MonadStateOf.get, StateT.get, pure, h, hs']
  rfl

theorem recordNames_of_poll {events : List Event} (h : (poll g).1 = .ok events) :
    ∃ names, g.disk.recordNames g.spool.inbox = .ok names := by
  cases hr : g.disk.recordNames g.spool.inbox with
  | ok names => exact ⟨names, rfl⟩
  | error e =>
    rw [poll_unlisted hr] at h
    cases h

/-! ### What a look delivers -/

theorem eventName?_notices (spool : Spool) (g : Gateway ε) (names : List String) :
    (g.notices names).filterMap (eventName? spool) = [] := by
  rw [List.filterMap_eq_nil_iff]
  intro event he
  cases event with
  | full storage => rfl
  | received ref => exact absurd he (Spool.received_notMem_noticeFull _ _ ref)

theorem eventName?_numbered (spool : Spool) (messages : List Received) :
    ((Spool.numbered spool.lastId messages).map (fun e => Event.received e.1)).filterMap
      (eventName? (spool.receiveAll messages)) = messages.map Received.name := by
  have hname : ∀ e ∈ Spool.numbered spool.lastId messages,
      eventName? (spool.receiveAll messages) (.received e.1) = some e.2.name := by
    intro e he
    simp only [eventName?, Spool.received?_receiveAll spool messages he, Option.map_some]
  rw [List.filterMap_map]
  refine (List.filterMap_congr hname).trans ?_
  conv_rhs => rw [← Spool.map_snd_numbered spool.lastId messages]
  rw [List.map_map, ← List.filterMap_eq_map]
  rfl

theorem deliveries_unlisted {e : SystemError} (h : g.disk.recordNames g.spool.inbox = .error e) :
    g.deliveries = [] := by
  rw [deliveries, poll_unlisted h]

theorem deliveries_unheard (h : g.disk.recordNames g.spool.inbox = .ok names)
    (hs : g.spool.hasSubscriber .messages = false) : g.deliveries = [] := by
  rw [deliveries, poll_unheard h hs]
  exact eventName?_notices _ g names

theorem deliveries_heard (h : g.disk.recordNames g.spool.inbox = .ok names)
    (hs : g.spool.hasSubscriber .messages = true) :
    g.deliveries = (arrivals names (g.listed names)).map Received.name := by
  rw [deliveries, poll_heard h hs, pollFiles_eq]
  simp only [List.filterMap_append, eventName?_notices, List.nil_append, afterFiles_spool]
  exact eventName?_numbered _ _

theorem atFile_eq (h : g.disk.recordNames g.spool.inbox = .ok names) :
    g.atFile name = (g.listed names).reached names name := by
  rw [atFile, h]

theorem mem_delivered_atFile (h : g.disk.recordNames g.spool.inbox = .ok names) :
    name ∈ (g.atFile name).spool.delivered ↔ name ∈ g.spool.delivered ∧ name ∈ names := by
  rw [atFile_eq h, mem_delivered_reached (Disk.nodup_recordNames h), mem_delivered_listed]

theorem mem_deliveries (h : g.disk.recordNames g.spool.inbox = .ok names)
    (hs : g.spool.hasSubscriber .messages = true) :
    name ∈ g.deliveries ↔ name ∈ names ∧ (g.atFile name).reads name ∧ name ∉ g.spool.delivered := by
  have hnd := Disk.nodup_recordNames h
  have hdelivered := @mem_delivered_atFile _ g name names h
  rw [deliveries_heard h hs, List.mem_map]
  rw [atFile_eq h] at hdelivered ⊢
  constructor
  · rintro ⟨message, hm, rfl⟩
    obtain ⟨hn, ha⟩ := (mem_arrivals hnd).1 hm
    obtain ⟨hd, record, hr, -⟩ := arrival?_eq_some_iff.1 ha
    exact ⟨hn, ⟨record, hr⟩, fun hmem => hd (hdelivered.2 ⟨hmem, hn⟩)⟩
  · rintro ⟨hn, ⟨record, hr⟩, hd⟩
    obtain ⟨message, ha⟩ : ∃ message,
        ((g.listed names).reached names name).arrival? name = some message :=
      ⟨_, arrival?_eq_some_iff.2 ⟨fun hmem => hd (hdelivered.1 hmem).1, record, hr, rfl⟩⟩
    obtain rfl := name_of_arrival? ha
    exact ⟨message, (mem_arrivals hnd).2 ⟨hn, ha⟩, rfl⟩

theorem deliveries_ascending (g : Gateway ε) : g.deliveries.Pairwise (· < ·) := by
  cases hn : g.disk.recordNames g.spool.inbox with
  | error e =>
    rw [deliveries_unlisted hn]
    exact .nil
  | ok names =>
    cases hs : g.spool.hasSubscriber .messages with
    | false =>
      rw [deliveries_unheard hn hs]
      exact .nil
    | true =>
      rw [deliveries_heard hn hs]
      exact (Disk.recordNames_ascending hn).sublist (arrivals_sublist names _)

theorem nodup_deliveries (g : Gateway ε) : g.deliveries.Nodup := by
  refine (deliveries_ascending g).imp ?_
  rintro name _ h rfl
  exact String.lt_irrefl name h

/-- After a successful look a name counts as delivered if it is listed and was delivered by then. -/
theorem mem_delivered_poll (h : g.disk.recordNames g.spool.inbox = .ok names) :
    name ∈ (poll g).2.spool.delivered ↔
      name ∈ g.deliveries ∨ (name ∈ g.spool.delivered ∧ name ∈ names) := by
  cases hs : g.spool.hasSubscriber .messages with
  | false =>
    rw [poll_unheard h hs, deliveries_unheard h hs, mem_delivered_listed]
    simp
  | true =>
    rw [poll_heard h hs, deliveries_heard h hs, pollFiles_eq, afterFiles_spool,
      Spool.receiveAll_eq]
    simp only [List.mem_append, List.mem_reverse, mem_delivered_listed]

theorem poll_spool (g : Gateway ε) : (poll g).2.spool =
    { g.spool with
      lastId := (poll g).2.spool.lastId
      received := (poll g).2.spool.received
      delivered := (poll g).2.spool.delivered
      fullReported := (poll g).2.spool.fullReported } := by
  cases hr : g.disk.recordNames g.spool.inbox with
  | error e => rw [poll_unlisted hr]
  | ok names =>
    cases hs : g.spool.hasSubscriber .messages with
    | false =>
      rw [poll_unheard hr hs]
      dsimp only
      rw [listed_spool]
    | true =>
      rw [poll_heard hr hs, pollFiles_eq, afterFiles_spool, Spool.receiveAll_eq]
      dsimp only
      rw [listed_spool]

/-- A look tells of a full store first, and then of the messages under the numbers that it gives
them. -/
theorem poll_events {events : List Event} (h : (poll g).1 = .ok events) :
    ∃ names, g.disk.recordNames g.spool.inbox = .ok names ∧
      events = g.notices names ++ (List.range' (g.spool.lastId + 1)
        ((poll g).2.spool.lastId - g.spool.lastId)).map .received := by
  obtain ⟨names, hn⟩ := recordNames_of_poll h
  refine ⟨names, hn, ?_⟩
  have hlast : (g.listed names).spool.lastId = g.spool.lastId := by rw [listed_spool]
  cases hs : g.spool.hasSubscriber .messages with
  | false =>
    rw [poll_unheard hn hs] at h ⊢
    cases h
    dsimp only
    rw [hlast, Nat.sub_self]
    exact (List.append_nil _).symm
  | true =>
    rw [poll_heard hn hs, pollFiles_eq] at h ⊢
    cases h
    dsimp only
    rw [afterFiles_spool, Spool.receiveAll_eq]
    dsimp only
    rw [hlast, Nat.add_sub_cancel_left, ← Spool.map_fst_numbered, List.map_map]
    rfl

/-- What is remembered after a look was remembered before it, or the look has told of it. -/
theorem mem_received_poll {events : List Event} {entry : Ref × Received}
    (h : (poll g).1 = .ok events) (he : entry ∈ (poll g).2.spool.received) :
    .received entry.1 ∈ events ∨ entry ∈ g.spool.received := by
  obtain ⟨names, hn⟩ := recordNames_of_poll h
  have hlisted : (g.listed names).spool.received = g.spool.received := by rw [listed_spool]
  cases hs : g.spool.hasSubscriber .messages with
  | false =>
    rw [poll_unheard hn hs, hlisted] at he
    exact .inr he
  | true =>
    rw [poll_heard hn hs, pollFiles_eq] at h he
    cases h
    dsimp only at he
    rw [afterFiles_spool, Spool.receiveAll_eq, hlisted] at he
    rcases List.mem_append.1 he with he | he
    · have hnew := List.mem_reverse.1 he
      exact .inl (List.mem_append_right _ (List.mem_map.2 ⟨entry, hnew, rfl⟩))
    · exact .inr he

/-! ### What the numbers of a look stand for -/

theorem mem_deliveries_iff : name ∈ g.deliveries ↔ ∃ events ref message,
    (poll g).1 = .ok events ∧ .received ref ∈ events ∧
      (poll g).2.spool.received? ref = some message ∧ message.name = name := by
  unfold deliveries
  split
  · next why h => simp [h]
  · next events h =>
    rw [List.mem_filterMap]
    constructor
    · rintro ⟨event, he, hn⟩
      cases event with
      | full storage => cases hn
      | received ref =>
        obtain ⟨message, hm, rfl⟩ := Option.map_eq_some_iff.1 hn
        exact ⟨events, ref, message, h, he, hm, rfl⟩
    · rintro ⟨events', ref, message, h', he, hm, rfl⟩
      rw [h] at h'
      cases h'
      exact ⟨.received ref, he, by simp only [eventName?, hm, Option.map_some]⟩

/-- The message under a number of a look is what its file brings up when the look comes to it. -/
theorem arrival?_of_received {events : List Event} {ref : Ref} {message : Received}
    (hp : (poll g).1 = .ok events) (he : .received ref ∈ events)
    (hm : (poll g).2.spool.received? ref = some message) :
    (g.atFile message.name).arrival? message.name = some message := by
  obtain ⟨names, hn⟩ := recordNames_of_poll hp
  have hnotice : .received ref ∉ g.notices names := Spool.received_notMem_noticeFull _ _ ref
  cases hs : g.spool.hasSubscriber .messages with
  | false =>
    rw [poll_unheard hn hs] at hp
    cases hp
    exact absurd he hnotice
  | true =>
    rw [poll_heard hn hs, pollFiles_eq] at hp hm
    cases hp
    rw [List.mem_append, or_iff_right hnotice] at he
    obtain ⟨entry, hentry, href⟩ := List.mem_map.1 he
    cases href
    rw [afterFiles_spool, Spool.received?_receiveAll _ _ hentry] at hm
    cases hm
    have harrival : entry.2 ∈ arrivals names (g.listed names) := by
      rw [← Spool.map_snd_numbered (g.listed names).spool.lastId (arrivals names (g.listed names))]
      exact List.mem_map_of_mem hentry
    rw [atFile_eq hn]
    exact ((mem_arrivals (Disk.nodup_recordNames hn)).1 harrival).2

theorem readIncoming_of_received {events : List Event} {ref : Ref} {message : Received}
    (hp : (poll g).1 = .ok events) (he : .received ref ∈ events)
    (hm : (poll g).2.spool.received? ref = some message) :
    (g.atFile message.name).readIncoming message.name = .ok message.record := by
  obtain ⟨-, record, hr, hmessage⟩ := arrival?_eq_some_iff.1 (arrival?_of_received hp he hm)
  rw [hr, hmessage]

end Gateway

end BuoyGateway
