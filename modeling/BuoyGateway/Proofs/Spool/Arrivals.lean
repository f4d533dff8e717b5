import BuoyGateway.Proofs.Disk.View
import BuoyGateway.Spool.Polling

/-!
# What a look at the inbox brings up

`arrivals` lists the messages that a look at some files brings up, each as it was read when the look
came to its file. A look numbers them from the last number on, remembers them under their numbers,
and raises one event for each; files that bring up nothing leave the spool as it was.
-/

namespace BuoyGateway

namespace Disk

variable {disk : Disk} {path : String} {dir : Location} {names : List String}

theorem recordNames_ok (h : disk.recordNames path = .ok names) :
    ∃ dir, disk.locateDirectory path = .ok dir ∧
      names = (((disk.names dir).filter (disk.shows dir)).filter isRecordName).mergeSort
        (fun a b => decide (a ≤ b)) := by
  obtain ⟨_, hlist, h⟩ := bind_eq_ok.1 h
  obtain ⟨dir, hd, hlist⟩ := bind_eq_ok.1 hlist
  obtain ⟨_, -, hlist⟩ := bind_eq_ok.1 hlist
  cases hlist
  cases h
  exact ⟨dir, hd, rfl⟩

theorem mem_recordNames (h : disk.recordNames path = .ok names)
    (hd : disk.locateDirectory path = .ok dir) {name : String} :
    name ∈ names ↔ isRecordName name = true ∧ (disk.find? (name :: dir)).isSome = true ∧
      disk.shows dir name = true := by
  obtain ⟨dir', hd', rfl⟩ := recordNames_ok h
  rw [hd] at hd'
  cases hd'
  rw [(List.mergeSort_perm _ _).mem_iff, List.mem_filter, List.mem_filter, mem_names, and_comm]

theorem mem_recordNames_of_shows (h : disk.recordNames path = .ok names)
    (hd : disk.locateDirectory path = .ok dir) (hshows : ∀ name, disk.shows dir name = true)
    {name : String} :
    name ∈ names ↔ isRecordName name = true ∧ (disk.find? (name :: dir)).isSome = true := by
  rw [mem_recordNames h hd, hshows, and_iff_left rfl]

theorem recordNames_ascending (h : disk.recordNames path = .ok names) :
    names.Pairwise (· < ·) := by
  obtain ⟨dir, -, rfl⟩ := recordNames_ok h
  generalize hlisted : ((disk.names dir).filter (disk.shows dir)).filter isRecordName = listed
  have hle := @List.pairwise_mergeSort _ (fun a b : String => decide (a ≤ b))
    (fun a b c hab hbc => by simpa using String.le_trans (by simpa using hab) (by simpa using hbc))
    (fun a b => by simpa using String.le_total a b) listed
  have hnd : (listed.mergeSort (fun a b => decide (a ≤ b))).Nodup := by
    rw [(List.mergeSort_perm _ _).nodup_iff, ← hlisted]
    exact ((nodup_names disk dir).filter _).filter _
  refine (hle.and hnd).imp ?_
  rintro a b ⟨hab, hne⟩
  rw [← String.not_le]
  intro hba
  exact hne (String.le_antisymm (by simpa using hab) hba)

theorem recordNames_of_list (h : disk.list path = .ok names)
    (ho : (names.filter isRecordName).Pairwise (fun a b => decide (a ≤ b) = true)) :
    disk.recordNames path = .ok (names.filter isRecordName) := by
  simp only [recordNames, h, bind, Except.bind, pure, Except.pure, List.mergeSort_of_pairwise ho]

theorem nodup_recordNames (h : disk.recordNames path = .ok names) : names.Nodup := by
  refine (recordNames_ascending h).imp ?_
  rintro a _ hab rfl
  exact String.lt_irrefl a hab

end Disk

namespace Spool

def numbered : Nat → List Received → List (Ref × Received)
  | _, [] => []
  | last, message :: messages => (last + 1, message) :: numbered (last + 1) messages

def receiveAll (spool : Spool) (messages : List Received) : Spool := messages.foldl receive spool

variable (spool : Spool) (messages : List Received)

theorem numbered_append (last : Nat) (messages more : List Received) :
    numbered last (messages ++ more) =
      numbered last messages ++ numbered (last + messages.length) more := by
  induction messages generalizing last with
  | nil => rfl
  | cons message messages ih =>
    simp only [List.cons_append, numbered, ih, List.length_cons]
    rw [Nat.add_right_comm, Nat.add_assoc]

theorem map_snd_numbered (last : Nat) (messages : List Received) :
    (numbered last messages).map Prod.snd = messages := by
  induction messages generalizing last with
  | nil => rfl
  | cons message messages ih => simp only [numbered, List.map_cons, ih]

theorem lt_of_mem_numbered {last : Nat} {messages : List Received} {entry : Ref × Received}
    (h : entry ∈ numbered last messages) : last < entry.1 ∧ entry.1 ≤ last + messages.length := by
  induction messages generalizing last with
  | nil => cases h
  | cons message messages ih =>
    rw [numbered, List.mem_cons] at h
    rw [List.length_cons]
    rcases h with rfl | h
    · exact ⟨Nat.lt_succ_self last, Nat.add_le_add_left (Nat.le_add_left 1 _) last⟩
    · obtain ⟨hlt, hle⟩ := ih h
      rw [Nat.add_right_comm, Nat.add_assoc] at hle
      exact ⟨Nat.lt_of_succ_lt hlt, hle⟩

theorem map_fst_numbered (last : Nat) (messages : List Received) :
    (numbered last messages).map Prod.fst = List.range' (last + 1) messages.length := by
  induction messages generalizing last with
  | nil => rfl
  | cons message messages ih =>
    rw [numbered, List.map_cons, ih, List.length_cons, List.range'_succ]

theorem nodup_numbered (last : Nat) (messages : List Received) :
    ((numbered last messages).map Prod.fst).Nodup := by
  rw [map_fst_numbered]
  exact List.nodup_range'

theorem receiveAll_eq : spool.receiveAll messages =
    { spool with
      lastId := spool.lastId + messages.length
      received := (numbered spool.lastId messages).reverse ++ spool.received
      delivered := (messages.map Received.name).reverse ++ spool.delivered } := by
  induction messages generalizing spool with
  | nil => rfl
  | cons message messages ih =>
    rw [receiveAll, List.foldl_cons, ← receiveAll, ih]
    simp only [receive, numbered, List.length_cons, List.reverse_cons, List.append_assoc,
      List.singleton_append, List.map_cons, Spool.mk.injEq, and_true, true_and]
    omega

theorem received?_receiveAll {entry : Ref × Received}
    (h : entry ∈ numbered spool.lastId messages) :
    (spool.receiveAll messages).received? entry.1 = some entry.2 := by
  rw [receiveAll_eq, received?]
  dsimp only
  obtain ⟨before, after, hsplit⟩ := List.append_of_mem (List.mem_reverse.2 h)
  rw [hsplit, List.append_assoc, List.cons_append]
  refine List.lookup_eq_some_iff.2 ⟨before, after ++ spool.received, rfl, ?_⟩
  intro p hp
  have hnd := nodup_numbered spool.lastId messages
  rw [← (List.reverse_perm _).nodup_iff, ← List.map_reverse, hsplit, List.map_append,
    List.map_cons, List.nodup_append] at hnd
  rw [bne_iff_ne]
  exact fun he => hnd.2.2 _ (List.mem_map.2 ⟨p, hp, rfl⟩) _ List.mem_cons_self he.symm

end Spool

namespace Gateway

variable {ε : Type} (g : Gateway ε)

def reads (name : String) : Prop := ∃ record, g.readIncoming name = .ok record

instance (name : String) : Decidable (g.reads name) :=
  match h : g.readIncoming name with
  | .error why => isFalse (by
      rintro ⟨record, hr⟩
      rw [h] at hr
      cases hr)
  | .ok record => isTrue ⟨record, h⟩

/-- A file reads as a record when its octets may be read and spell one. -/
theorem readIncoming_eq_ok_iff {g : Gateway ε} {name : String} {record : Incoming} :
    g.readIncoming name = .ok record ↔ ∃ dir octets executable modified,
      g.disk.locateDirectory g.spool.inbox = .ok dir ∧
      g.disk.permit .read (name :: dir) = .ok () ∧
      g.disk.find? (name :: dir) = some ⟨.file octets executable, modified⟩ ∧
      Incoming.shape.ofOctets octets = .ok record := by
  unfold readIncoming
  rw [bind_eq_ok]
  constructor
  · rintro ⟨octets, ho, hr⟩
    have ho' := mapError_eq_ok.1 ho
    obtain ⟨dir, hd, ho'⟩ := bind_eq_ok.1 ho'
    obtain ⟨_, hp, ho'⟩ := bind_eq_ok.1 ho'
    split at ho'
    · cases ho'
    · cases ho'
    · next octets' executable modified hn =>
      cases ho'
      exact ⟨dir, octets, executable, modified, hd, hp, hn, hr⟩
  · rintro ⟨dir, octets, executable, modified, hd, hp, hn, hr⟩
    refine ⟨octets, mapError_eq_ok.2 ?_, hr⟩
    simp only [hd, Disk.readAt, hp, hn, bind, Except.bind, pure, Except.pure]

/-- The message that a look at one file brings up, if it does. -/
def arrival? (name : String) : Option Received :=
  if g.spool.delivered.contains name then none
  else match g.readIncoming name with
    | .error _ => none
    | .ok record => some ⟨name, record, record.timestamp.getD (g.fileStamp name)⟩

def afterFile (name : String) : Gateway ε := (pollFile name g).2

def afterFiles : List String → Gateway ε → Gateway ε
  | [], g => g
  | name :: names, g => afterFiles names (g.afterFile name)

/-- The messages that a look at files brings up, each as it is when the look comes to its file. -/
def arrivals : List String → Gateway ε → List Received
  | [], _ => []
  | name :: names, g => (g.arrival? name).toList ++ arrivals names (g.afterFile name)

/-- The gateway when a look at files comes to a file. -/
def reached (names : List String) (name : String) : Gateway ε :=
  afterFiles (names.takeWhile (fun n => n != name)) g

theorem rejectIfStale_spool (name : String) (why : Failure) :
    (g.rejectIfStale name why).spool = g.spool := by
  unfold rejectIfStale
  split
  · dsimp only
    split <;> rfl
  · rfl

variable {g} {name : String} {names : List String}

theorem pollFile_delivered (h : g.spool.delivered.contains name = true) :
    pollFile name g = ([], g) := by
  simp only [pollFile, bind, StateT.bind, get, getThe, MonadStateOf.get, StateT.get, pure, h]
  rfl

theorem pollFile_unreadable {why : Failure} (h : g.spool.delivered.contains name = false)
    (hr : g.readIncoming name = .error why) :
    pollFile name g = ([], g.rejectIfStale name why) := by
  simp only [pollFile, bind, StateT.bind, get, getThe, MonadStateOf.get, StateT.get, pure, h, hr]
  rfl

theorem pollFile_readable {record : Incoming} (h : g.spool.delivered.contains name = false)
    (hr : g.readIncoming name = .ok record) :
    pollFile name g = ([.received (g.spool.lastId + 1)],
      { g with spool := g.spool.receive
                ⟨name, record, record.timestamp.getD (g.fileStamp name)⟩ }) := by
  simp only [pollFile, bind, StateT.bind, get, getThe, MonadStateOf.get, StateT.get, pure, h, hr]
  rfl

theorem arrival?_eq_some_iff {message : Received} :
    g.arrival? name = some message ↔ name ∉ g.spool.delivered ∧ ∃ record,
      g.readIncoming name = .ok record ∧
        message = ⟨name, record, record.timestamp.getD (g.fileStamp name)⟩ := by
  unfold arrival?
  by_cases h : name ∈ g.spool.delivered
  · simp [h]
  · cases hr : g.readIncoming name with
    | error why => simp [h]
    | ok record => simp [h, eq_comm]

theorem name_of_arrival? {message : Received} (h : g.arrival? name = some message) :
    message.name = name := by
  obtain ⟨-, record, -, rfl⟩ := arrival?_eq_some_iff.1 h
  rfl

/-- A look at one file raises an event for what the file brings up, and remembers it. -/
theorem pollFile_spec (g : Gateway ε) (name : String) :
    (pollFile name g).1 =
        (Spool.numbered g.spool.lastId (g.arrival? name).toList).map (fun e => .received e.1) ∧
      (g.afterFile name).spool = g.spool.receiveAll (g.arrival? name).toList := by
  unfold afterFile arrival?
  cases hd : g.spool.delivered.contains name with
  | true =>
    rw [pollFile_delivered hd]
    exact ⟨rfl, rfl⟩
  | false =>
    cases hr : g.readIncoming name with
    | error why =>
      rw [pollFile_unreadable hd hr]
      exact ⟨rfl, g.rejectIfStale_spool name why⟩
    | ok record =>
      rw [pollFile_readable hd hr]
      exact ⟨rfl, rfl⟩

theorem afterFiles_spool (names : List String) (g : Gateway ε) :
    (afterFiles names g).spool = g.spool.receiveAll (arrivals names g) := by
  induction names generalizing g with
  | nil => rfl
  | cons name names ih =>
    rw [afterFiles, ih, (pollFile_spec g name).2, arrivals]
    simp only [Spool.receiveAll, List.foldl_append]

/-- A look at files raises one event for each message that they bring up. -/
theorem pollFiles_eq (names : List String) (g : Gateway ε) :
    pollFiles names g =
      ((Spool.numbered g.spool.lastId (arrivals names g)).map (fun e => .received e.1),
        afterFiles names g) := by
  induction names generalizing g with
  | nil => rfl
  | cons name names ih =>
    obtain ⟨hevents, hspool⟩ := pollFile_spec g name
    have hlast : (g.afterFile name).spool.lastId =
        g.spool.lastId + (g.arrival? name).toList.length := by
      rw [hspool, Spool.receiveAll_eq]
    have hrest := ih (g.afterFile name)
    rw [arrivals, Spool.numbered_append, List.map_append, ← hevents, ← hlast, afterFiles]
    change ((pollFile name g).1 ++ (pollFiles names (g.afterFile name)).1,
      (pollFiles names (g.afterFile name)).2) = _
    rw [hrest]

theorem reached_cons_self (g : Gateway ε) (name : String) (names : List String) :
    g.reached (name :: names) name = g := by
  simp [reached, afterFiles]

theorem reached_cons_of_ne (g : Gateway ε) {first : String} (h : first ≠ name)
    (names : List String) :
    g.reached (first :: names) name = (g.afterFile first).reached names name := by
  simp [reached, afterFiles, h]

theorem mem_arrivals (hnd : names.Nodup) {message : Received} :
    message ∈ arrivals names g ↔ message.name ∈ names ∧
      (g.reached names message.name).arrival? message.name = some message := by
  induction names generalizing g with
  | nil => simp [arrivals]
  | cons name names ih =>
    rw [List.nodup_cons] at hnd
    rw [arrivals, List.mem_append, Option.mem_toList, ih hnd.2, List.mem_cons]
    by_cases hn : message.name = name
    · subst hn
      simp [hnd.1, reached_cons_self]
    · have hne : g.arrival? name ≠ some message := fun h => hn (name_of_arrival? h)
      simp [hn, hne, reached_cons_of_ne g (Ne.symm hn)]

/-- Files bring up their messages in their own order, and each at most one. -/
theorem arrivals_sublist (names : List String) (g : Gateway ε) :
    ((arrivals names g).map Received.name).Sublist names := by
  induction names generalizing g with
  | nil => exact List.Sublist.refl _
  | cons name names ih =>
    rw [arrivals, List.map_append]
    cases h : g.arrival? name with
    | none => exact (ih _).cons name
    | some message =>
      rw [Option.toList_some, List.map_singleton, name_of_arrival? h]
      exact (ih _).cons_cons name

theorem nodup_arrivals (hnd : names.Nodup) (g : Gateway ε) :
    ((arrivals names g).map Received.name).Nodup := hnd.sublist (arrivals_sublist names g)

theorem name_notMem_before (name : String) (names : List String) :
    name ∉ names.takeWhile (fun n => n != name) := by
  intro hm
  have h := List.all_eq_true.1 List.all_takeWhile _ hm
  simp at h

/-- What was delivered when a look comes to a file was delivered before, as far as it is this
file. -/
theorem mem_delivered_reached (hnd : names.Nodup) :
    name ∈ (g.reached names name).spool.delivered ↔ name ∈ g.spool.delivered := by
  rw [reached, afterFiles_spool, Spool.receiveAll_eq]
  simp only [List.mem_append, List.mem_reverse, List.mem_map, or_iff_right_iff_imp]
  rintro ⟨message, hm, rfl⟩
  have hnd' : (names.takeWhile (fun n => n != message.name)).Nodup :=
    hnd.sublist (List.takeWhile_sublist _)
  exact absurd ((mem_arrivals hnd').1 hm).1 (name_notMem_before _ _)

end Gateway

end BuoyGateway
