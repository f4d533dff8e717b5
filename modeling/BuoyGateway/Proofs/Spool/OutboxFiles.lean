import Mathlib.Data.List.Perm.Basic
import BuoyGateway.Proofs.Spool.Queueing
import BuoyGateway.Proofs.Spool.Records
import BuoyGateway.Proofs.Spool.Clearance
import BuoyGateway.Proofs.Spool.Operations

/-!
# The files of the outbox

The records of an outbox into which nothing came but messages queued under numbers of their own are
the files of these messages, and the outbox is read as these messages. Looks at the inbox and deletions leave
it alone.
-/

namespace BuoyGateway

/-! ### Reading all of a list -/

theorem mapM_eq_ok_of_forall {ε α β : Type} {f : α → Except ε β} {g : α → β} {as : List α}
    (h : ∀ a ∈ as, f a = .ok (g a)) : as.mapM f = .ok (as.map g) := by
  induction as with
  | nil => rfl
  | cons a as ih =>
    rw [List.mapM_cons, h a List.mem_cons_self, ih (fun a ha => h a (List.mem_cons_of_mem _ ha))]
    rfl

theorem mapM_perm {ε α β : Type} {f : α → Except ε β} {as as' : List α} (hp : as.Perm as')
    {bs' : List β} (h : as'.mapM f = .ok bs') : ∃ bs, as.mapM f = .ok bs ∧ bs.Perm bs' := by
  induction hp generalizing bs' with
  | nil => exact ⟨bs', h, List.Perm.refl _⟩
  | cons a _ ih =>
    rw [List.mapM_cons] at h
    obtain ⟨b, hb, h⟩ := bind_eq_ok.1 h
    obtain ⟨rest, hrest, h⟩ := bind_eq_ok.1 h
    cases h
    obtain ⟨rest', hrest', hperm⟩ := ih hrest
    exact ⟨b :: rest', by rw [List.mapM_cons, hb, hrest']; rfl, hperm.cons b⟩
  | swap a a' as =>
    simp only [List.mapM_cons] at h
    obtain ⟨b, hb, h⟩ := bind_eq_ok.1 h
    obtain ⟨_, htail, h⟩ := bind_eq_ok.1 h
    cases h
    obtain ⟨b', hb', htail⟩ := bind_eq_ok.1 htail
    obtain ⟨rest, hrest, htail⟩ := bind_eq_ok.1 htail
    cases htail
    exact ⟨b' :: b :: rest, by simp only [List.mapM_cons, hb, hb', hrest]; rfl,
      List.Perm.swap b b' rest⟩
  | trans _ _ ih₁ ih₂ =>
    obtain ⟨bs₂, h₂, hp₂⟩ := ih₂ h
    obtain ⟨bs₁, h₁, hp₁⟩ := ih₁ h₂
    exact ⟨bs₁, h₁, hp₁.trans hp₂⟩

theorem Outgoing.isRecordName_fileName (r : Outgoing) (ref : Ref) :
    isRecordName (r.fileName ref) = true := by
  have hlist : (r.fileName ref).toList =
      (r.queuedAt.fileStamp ++ '-' :: Decimal.padded 6 ref) ++ ".json".toList := by
    simp [fileName]
  rw [isRecordName, Bool.and_eq_true, decide_eq_true_eq, ← String.length_toList, hlist]
  refine ⟨?_, List.isSuffixOf_iff_suffix.2 ⟨_, rfl⟩⟩
  simp only [List.length_append, List.length_cons]
  have : ".json".toList.length = 5 := rfl
  omega

namespace Disk

variable {disk disk' : Disk} {base outbox : String} {dir : Location} {last : Nat}
  {entries : List (Ref × Outgoing)} {ref : Ref} {r : Outgoing}

/-- The medium lets a directory be listed, with all its entries, and its files be read. -/
structure Legible (disk : Disk) (dir : Location) : Prop where
  list : disk.permit .list dir = .ok ()
  entry : ∀ name, disk.permit .entry (name :: dir) = .ok ()
  read : ∀ name, disk.permit .read (name :: dir) = .ok ()

theorem Legible.shows (h : disk.Legible dir) (name : String) : disk.shows dir name = true := by
  have hentry := h.entry name
  unfold permit at hentry
  unfold Disk.shows
  cases hrefuses : disk.refuses .entry (name :: dir) with
  | none => rfl
  | some e => simp [hrefuses] at hentry

theorem Legible.recordNames (h : disk.Legible dir) (hd : disk.locateDirectory outbox = .ok dir) :
    ∃ names, disk.recordNames outbox = .ok names := by
  simp only [Disk.recordNames, Disk.list, hd, h.list, bind, Except.bind, pure, Except.pure]
  exact ⟨_, rfl⟩

/-- The records in a directory are the files of messages, each of which has a number of its own up to
`last`. -/
structure Files (disk : Disk) (dir : Location) (last : Nat) (entries : List (Ref × Outgoing)) :
    Prop where
  names : ∀ name, isRecordName name = true →
    ((disk.find? (name :: dir)).isSome = true ↔ name ∈ entries.map (fun e => e.2.fileName e.1))
  octets : ∀ e ∈ entries, ∃ modified,
    disk.find? (e.2.fileName e.1 :: dir) = some ⟨.file e.2.octets false, modified⟩
  numbers : ∀ e ∈ entries, e.1 ≤ last
  distinct : (entries.map Prod.fst).Nodup

theorem files_empty (h : ∀ name, disk.find? (name :: dir) = none) (last : Nat) :
    disk.Files dir last [] :=
  ⟨fun name _ => by simp [h name], by simp, by simp, List.nodup_nil⟩

theorem Files.congr (h : disk.Files dir last entries) (hsame : ∀ name, isRecordName name = true →
    disk'.find? (name :: dir) = disk.find? (name :: dir)) : disk'.Files dir last entries :=
  ⟨fun name hname => by rw [hsame name hname, h.names name hname],
    fun e he => by rw [hsame _ (e.2.isRecordName_fileName e.1)]; exact h.octets e he, h.numbers,
    h.distinct⟩

theorem Files.mono (h : disk.Files dir last entries) {last' : Nat} (hle : last ≤ last') :
    disk.Files dir last' entries :=
  ⟨h.names, h.octets, fun e he => Nat.le_trans (h.numbers e he) hle, h.distinct⟩

theorem Files.fileName_ne (h : disk.Files dir last entries) (hlt : last < ref) (r : Outgoing)
    {e : Ref × Outgoing} (he : e ∈ entries) : e.2.fileName e.1 ≠ r.fileName ref := by
  intro hname
  have hle := h.numbers e he
  rw [Outgoing.fileName_inj hname] at hle
  exact absurd hlt (Nat.not_lt.2 hle)

theorem Files.vacant (h : disk.Files dir last entries) (hlt : last < ref) (r : Outgoing) :
    disk.find? (r.fileName ref :: dir) = none := by
  rw [← Option.not_isSome_iff_eq_none, h.names _ (r.isRecordName_fileName ref), List.mem_map]
  rintro ⟨e, he, hname⟩
  exact h.fileName_ne hlt r he hname

/-- The file of a message with a new number comes beside the others. -/
theorem Files.gains (h : disk.Files dir last entries) (hlt : last < ref)
    (hg : Gains disk disk' dir (r.fileName ref) r.octets) :
    disk'.Files dir ref (entries ++ [(ref, r)]) := by
  refine ⟨fun name hname => ?_, fun e he => ?_, fun e he => ?_, ?_⟩
  · rw [List.map_append, List.mem_append, List.map_singleton, List.mem_singleton]
    by_cases hn : name = r.fileName ref
    · obtain ⟨modified, hf⟩ := hg.file
      rw [hn, hf]
      simp
    · rw [hg.others name hn, h.names name hname, or_iff_left hn]
  · rcases List.mem_append.1 he with he | he
    · rw [hg.others _ (h.fileName_ne hlt r he)]
      exact h.octets e he
    · obtain rfl := List.mem_singleton.1 he
      exact hg.file
  · rcases List.mem_append.1 he with he | he
    · exact Nat.le_trans (h.numbers e he) (Nat.le_of_lt hlt)
    · obtain rfl := List.mem_singleton.1 he
      exact Nat.le_refl _
  · rw [List.map_append, List.nodup_append]
    refine ⟨h.distinct, List.pairwise_singleton _ _, ?_⟩
    rintro _ hm _ hm' rfl
    obtain ⟨e, he, rfl⟩ := List.mem_map.1 hm
    have hle := h.numbers e he
    rw [List.mem_singleton.1 hm'] at hle
    exact absurd hlt (Nat.not_lt.2 hle)

theorem Files.nodup_fileNames (h : disk.Files dir last entries) :
    (entries.map (fun e => e.2.fileName e.1)).Nodup := by
  have hd := h.distinct
  rw [List.Nodup, List.pairwise_map] at hd ⊢
  exact hd.imp (fun hne hname => hne (Outgoing.fileName_inj hname))

theorem Files.recordNames_perm (h : disk.Files dir last entries) (hlegible : disk.Legible dir)
    (hd : disk.locateDirectory outbox = .ok dir) {names : List String}
    (hn : disk.recordNames outbox = .ok names) :
    names.Perm (entries.map (fun e => e.2.fileName e.1)) := by
  rw [List.perm_ext_iff_of_nodup (nodup_recordNames hn) h.nodup_fileNames]
  intro name
  rw [mem_recordNames_of_shows hn hd hlegible.shows]
  constructor
  · rintro ⟨hname, hsome⟩
    exact (h.names name hname).1 hsome
  · intro hm
    have hname : isRecordName name = true := by
      obtain ⟨e, -, rfl⟩ := List.mem_map.1 hm
      exact e.2.isRecordName_fileName e.1
    exact ⟨hname, (h.names name hname).2 hm⟩

/-- A file that holds the octets of a message is read as this message. -/
theorem readOutgoing_of_holdsFile {name : String} (h : disk.holdsFile (name :: dir) r.octets)
    (hread : disk.permit .read (name :: dir) = .ok ()) (htime : r.queuedAt.IsReading) :
    disk.readOutgoing dir name = .ok r := by
  obtain ⟨executable, modified, hf⟩ := h
  have hoctets : disk.readAt (name :: dir) = .ok r.octets := by
    simp only [readAt, hread, hf, bind, Except.bind, pure, Except.pure]
  simp only [Disk.readOutgoing, hoctets, Except.mapError, bind, Except.bind,
    Outgoing.ofOctets_octets htime]

theorem Files.readOutgoing (h : disk.Files dir last entries) (hlegible : disk.Legible dir)
    {e : Ref × Outgoing} (he : e ∈ entries) (htime : e.2.queuedAt.IsReading) :
    disk.readOutgoing dir (e.2.fileName e.1) = .ok e.2 := by
  obtain ⟨modified, hf⟩ := h.octets e he
  exact readOutgoing_of_holdsFile ⟨false, modified, hf⟩ (hlegible.read _) htime

/-- The files of messages are read as these messages, in some order. -/
theorem Files.readOutbox (h : disk.Files dir last entries)
    (hd : disk.locateDirectory outbox = .ok dir) (hlegible : disk.Legible dir)
    (htimes : ∀ e ∈ entries, e.2.queuedAt.IsReading) :
    ∃ records, disk.readOutbox outbox = .ok records ∧ records.Perm (entries.map Prod.snd) := by
  obtain ⟨names, hn⟩ := hlegible.recordNames hd
  have hfiles : (entries.map (fun e => e.2.fileName e.1)).mapM (disk.readOutgoing dir) =
      .ok (entries.map Prod.snd) := by
    rw [List.mapM_map]
    exact mapM_eq_ok_of_forall (fun e he => h.readOutgoing hlegible he (htimes e he))
  obtain ⟨records, hrecords, hperm⟩ := mapM_perm (h.recordNames_perm hlegible hd hn) hfiles
  refine ⟨records, ?_, hperm⟩
  simp only [Disk.readOutbox, hd, hn, Except.mapError, bind, Except.bind, hrecords]

/-! ### What leaves the outbox alone -/

/-- Somebody left the outbox of the spool in the directory of a path alone: its entries are there as
before. -/
structure LeavesOutbox (base : String) (disk disk' : Disk) : Prop where
  current : disk'.current = disk.current
  entries : ∀ name, disk'.find? (name :: "outbox" :: disk.homeOf base) =
    disk.find? (name :: "outbox" :: disk.homeOf base)

theorem LeavesOutbox.refl (base : String) (disk : Disk) : LeavesOutbox base disk disk :=
  ⟨rfl, fun _ => rfl⟩

theorem LeavesOutbox.homeOf (h : LeavesOutbox base disk disk') :
    disk'.homeOf base = disk.homeOf base := by
  simp only [Disk.homeOf, origin, h.current]

theorem LeavesOutbox.trans {a b c : Disk} (h₁ : LeavesOutbox base a b)
    (h₂ : LeavesOutbox base b c) : LeavesOutbox base a c := by
  refine ⟨h₂.current.trans h₁.current, fun name => ?_⟩
  have h := h₂.entries name
  rw [h₁.homeOf] at h
  exact h.trans (h₁.entries name)

end Disk

namespace Gateway

variable {ε : Type} {g : Gateway ε} {base : String}

theorem afterFiles_leavesOutbox (hs : g.spool.LiesIn base) (names : List String) :
    Disk.LeavesOutbox base g.disk (afterFiles names g).disk ∧
      Disk.KeepsOutside base g.disk (afterFiles names g).disk := by
  induction names generalizing g with
  | nil => exact ⟨Disk.LeavesOutbox.refl base g.disk, Disk.KeepsOutside.refl base g.disk⟩
  | cons name names ih =>
    have hspares := afterFile_spares hs name
    have hleaves : Disk.LeavesOutbox base g.disk (g.afterFile name).disk :=
      ⟨hspares.current, hspares.outbox []⟩
    obtain ⟨hrest, houtside⟩ := ih (afterFile_liesIn hs name)
    exact ⟨hleaves.trans hrest, (afterFile_keepsOutside hs name).trans houtside hleaves.homeOf⟩

theorem poll_leavesOutbox (hs : g.spool.LiesIn base) :
    Disk.LeavesOutbox base g.disk (poll g).2.disk ∧
      Disk.KeepsOutside base g.disk (poll g).2.disk := by
  have hsame : Disk.LeavesOutbox base g.disk g.disk ∧ Disk.KeepsOutside base g.disk g.disk :=
    ⟨Disk.LeavesOutbox.refl base g.disk, Disk.KeepsOutside.refl base g.disk⟩
  cases hr : g.disk.recordNames g.spool.inbox with
  | error e =>
    rw [poll_unlisted hr]
    exact hsame
  | ok names =>
    cases hsub : g.spool.hasSubscriber .messages with
    | false =>
      rw [poll_unheard hr hsub]
      exact hsame
    | true =>
      rw [poll_heard hr hsub, pollFiles_eq]
      exact afterFiles_leavesOutbox (listed_liesIn hs names) names

theorem delete_leavesOutbox (hs : g.spool.LiesIn base) (ref : Ref) :
    Disk.LeavesOutbox base g.disk (delete ref g).2.disk ∧
      Disk.KeepsOutside base g.disk (delete ref g).2.disk := by
  have hsame : Disk.LeavesOutbox base g.disk g.disk ∧ Disk.KeepsOutside base g.disk g.disk :=
    ⟨Disk.LeavesOutbox.refl base g.disk, Disk.KeepsOutside.refl base g.disk⟩
  rw [delete_eq]
  split
  · exact hsame
  · next message _ =>
    split
    · next disk hd =>
      obtain ⟨dir, hdir, hremove⟩ := bind_eq_ok.1 hd
      rw [hs.inbox] at hdir
      obtain ⟨rfl, -, -⟩ := Disk.locateDirectory_part Disk.isPart_inbox hdir
      obtain ⟨⟨octets, executable, modified, hfile⟩, rfl⟩ := Disk.removeAt_ok hremove
      have hname : message.name :: "inbox" :: g.disk.homeOf base ≠ [] := List.cons_ne_nil _ _
      refine ⟨⟨((Disk.alike_erase _ _).trans (Disk.alike_stamp _ _)).current, fun name => ?_⟩,
        fun l hl hd => ?_⟩
      · change ((g.disk.erase (message.name :: "inbox" :: g.disk.homeOf base)).stamp
          ("inbox" :: g.disk.homeOf base)).find? _ = _
        rw [Disk.find?_stamp_of_ne (by simp), Disk.find?_erase _ hname, if_neg (by simp)]
      · change ((g.disk.erase (message.name :: "inbox" :: g.disk.homeOf base)).stamp
          ("inbox" :: g.disk.homeOf base)).isDirectory l = true
        rw [Disk.isDirectory_stamp, ← hd]
        refine Disk.isDirectory_of_find? ?_
        rw [Disk.find?_erase _ hname, if_neg]
        rintro rfl
        exact hl "inbox" (by simp) message.name (List.suffix_refl _)
    · exact hsame

end Gateway

end BuoyGateway
