import BuoyGateway.Proofs.Spool.OutboxFiles
import BuoyGateway.Proofs.Spool.Reachable

/-!
# The ledger of sent messages

Between calls to send messages, looks at the inbox and other operations may happen, and changes by
others that leave the outbox alone. Each call that is answered with success adds one file to the
outbox, and each other call none; so the outbox reads as the messages of the successful calls, and
its ledger can be told from the answers alone.
-/

namespace BuoyGateway

/-- What is done with a gateway: a call to send a message, or any other move. -/
inductive Deed (ε : Type)
  | message (destination text : String)
  | move (m : Move ε)

/-- The deed leaves the outbox of the spool in the directory of a path alone, or is a call to send a
message at a reading of the clock. A message may not be sent past the calls. -/
def Deed.isProper {ε : Type} (base : String) (g : Gateway ε) : Deed ε → Prop
  | .message _ _ => g.disk.now.IsReading
  | .move (.change f) =>
    Disk.LeavesOutbox base g.disk (f g.machine).disk ∧
      ∀ loc, g.disk.locateDirectory (Path.join base "outbox") = .ok loc →
        (f g.machine).disk.locateDirectory (Path.join base "outbox") = .ok loc
  | .move (.send _) => False
  | .move _ => True

namespace Gateway

variable {ε : Type} (launch : Action → StateM (Machine ε) Report)

def does (g : Gateway ε) : Deed ε → Gateway ε
  | .message destination text => ((station launch).sendMessage destination text g).2
  | .move m => g.move m

def doesAll : List (Deed ε) → Gateway ε → Gateway ε
  | [], g => g
  | d :: deeds, g => doesAll deeds (g.does launch d)

def Proper (base : String) : List (Deed ε) → Gateway ε → Prop
  | [], _ => True
  | d :: deeds, g => d.isProper base g ∧ Proper base deeds (g.does launch d)

/-- The message of a call that is answered with success, with the number it gets. -/
def booked (g : Gateway ε) : Deed ε → Option (Ref × Outgoing)
  | .message destination text =>
    match ((station launch).sendMessage destination text g).1 with
    | .ok () => some (g.spool.lastId + 1, ⟨destination, text, g.disk.now⟩)
    | .error _ => none
  | .move _ => none

/-- The messages of the calls that are answered with success, in the order of the calls. -/
def ledger : List (Deed ε) → Gateway ε → List (Ref × Outgoing)
  | [], _ => []
  | d :: deeds, g => (g.booked launch d).toList ++ ledger deeds (g.does launch d)

def queues (g : Gateway ε) (destination text : String) : Prop :=
  (g.disk.queue g.spool.outbox (g.spool.lastId + 1) ⟨destination, text, g.disk.now⟩).1 = .ok ()

/-- What a call to send a message answers and what it does to the outbox. -/
structure Called (outbox : Location) (g : Gateway ε) (destination text : String)
    (answer : Except SendFailure Unit) (g' : Gateway ε) : Prop where
  ok_iff : answer = .ok () ↔
    isDialable destination = true ∧ Text.size text ≤ textLimit ∧ g.queues destination text
  added : answer = .ok () → ∃ name, isRecordName name = true ∧
    g.disk.find? (name :: outbox) = none ∧
    (∃ octets modified, g'.disk.find? (name :: outbox) = some ⟨.file octets false, modified⟩ ∧
      Outgoing.shape.ofOctets octets = .ok ⟨destination, text, g.disk.now⟩) ∧
    ∀ other, other ≠ name → g'.disk.find? (other :: outbox) = g.disk.find? (other :: outbox)
  kept : answer ≠ .ok () → (∀ name, g.disk.permit .remove (name :: outbox) = .ok ()) →
    ∀ name, g'.disk.find? (name :: outbox) = g.disk.find? (name :: outbox)
  /-- Where the medium refuses to remove a temporary file, this file is left. -/
  left : answer ≠ .ok () → ∃ temporary, isRecordName temporary = false ∧
    g.disk.find? (temporary :: outbox) = none ∧ ∀ other, other ≠ temporary →
      g'.disk.find? (other :: outbox) = g.disk.find? (other :: outbox)
  /-- The first step that fails is the answer. -/
  refused : answer ≠ .ok () → answer = .error (
    if isDialable destination = false then .destination .badParameter
    else if textLimit < Text.size text then .text .overflow
    else .sending .general)

/-- The outbox of the spool in the directory of a path holds the messages of a ledger. -/
structure Keeps (base : String) (g : Gateway ε) (entries : List (Ref × Outgoing)) : Prop where
  lies : g.spool.LiesIn base
  bounded : g.spool.Bounded
  files : g.disk.Files ("outbox" :: g.disk.homeOf base) g.spool.lastId entries
  times : ∀ e ∈ entries, e.2.queuedAt.IsReading

variable {g : Gateway ε} {base destination text : String} {entries : List (Ref × Outgoing)}

/-! ### One call -/

theorem sent_ok_iff : (g.sent destination text).1 = .ok () ↔
    isDialable destination = true ∧ Text.size text ≤ textLimit ∧ g.queues destination text := by
  unfold sent queues
  by_cases hd : isDialable destination = false
  · simp [hd]
  rw [if_neg hd, Bool.not_eq_false] at *
  by_cases ht : textLimit < Text.size text
  · rw [if_pos ht]
    simp [Nat.not_le.2 ht]
  rw [if_neg ht]
  match hq : g.disk.queue g.spool.outbox (g.spool.lastId + 1) ⟨destination, text, g.disk.now⟩ with
  | (.ok (), disk) => simp [hd, Nat.not_lt.1 ht]
  | (.error why, disk) => simp

theorem sent_error (h : (g.sent destination text).1 ≠ .ok ()) :
    (g.sent destination text).1 = .error (
      if isDialable destination = false then .destination .badParameter
      else if textLimit < Text.size text then .text .overflow
      else .sending .general) := by
  unfold sent at h ⊢
  split
  · rfl
  split
  · rfl
  match hq : g.disk.queue g.spool.outbox (g.spool.lastId + 1) ⟨destination, text, g.disk.now⟩ with
  | (.ok (), disk) => simp_all
  | (.error why, disk) => rfl

theorem queue_outbox (hl : g.spool.LiesIn base) (ref : Ref) (r : Outgoing) :
    match g.disk.queue g.spool.outbox ref r with
    | (.ok (), disk) => g.disk.Gains disk ("outbox" :: g.disk.homeOf base) (r.fileName ref) r.octets
    | (.error _, disk) => g.disk.Restores disk ("outbox" :: g.disk.homeOf base) := by
  cases hd : g.disk.locateDirectory g.spool.outbox with
  | error e =>
    simp only [Disk.queue, hd]
    exact Disk.Restores.refl _ _
  | ok dir =>
    have hdir := hd
    rw [hl.outbox] at hdir
    obtain ⟨rfl, -, -⟩ := Disk.locateDirectory_part Disk.isPart_outbox hdir
    exact Disk.queue_spec g.disk hd ref r

/-- A call that is answered with success adds the file of its message, and every other call undoes
what it has begun, as far as the medium lets it. -/
theorem sent_disk (hl : g.spool.LiesIn base) (destination text : String) :
    let r : Outgoing := ⟨destination, text, g.disk.now⟩
    ((g.sent destination text).1 = .ok () → g.disk.Gains (g.sent destination text).2
        ("outbox" :: g.disk.homeOf base) (r.fileName (g.spool.lastId + 1)) r.octets) ∧
      ((g.sent destination text).1 ≠ .ok () →
        g.disk.Restores (g.sent destination text).2 ("outbox" :: g.disk.homeOf base)) := by
  intro r
  have hqueue := queue_outbox hl (g.spool.lastId + 1) r
  unfold sent
  split
  · exact ⟨nofun, fun _ => Disk.Restores.refl _ _⟩
  split
  · exact ⟨nofun, fun _ => Disk.Restores.refl _ _⟩
  match hq : g.disk.queue g.spool.outbox (g.spool.lastId + 1) ⟨destination, text, g.disk.now⟩ with
  | (.ok (), disk) =>
    rw [hq] at hqueue
    exact ⟨fun _ => hqueue, fun h => absurd rfl h⟩
  | (.error why, disk) =>
    rw [hq] at hqueue
    exact ⟨nofun, fun _ => hqueue⟩

/-- A call answers as told, leaves the disk as told, and uses up a number. -/
theorem sendMessage_eq (hb : g.spool.Bounded) (destination text : String) :
    ((station launch).sendMessage destination text g).1 = (g.sent destination text).1 ∧
      ((station launch).sendMessage destination text g).2.disk = (g.sent destination text).2 ∧
      ((station launch).sendMessage destination text g).2.spool =
        { g.spool with lastId := g.spool.lastId + 1 } := by
  obtain ⟨log, h⟩ := (leads_sent launch hb destination text).run
  rw [h]
  exact ⟨rfl, rfl, rfl⟩

theorem called (h : g.Keeps base entries) (htime : g.disk.now.IsReading)
    (destination text : String) :
    Called ("outbox" :: g.disk.homeOf base) g destination text
      ((station launch).sendMessage destination text g).1
      (g.does launch (.message destination text)) := by
  obtain ⟨hanswer, hdisk, -⟩ := sendMessage_eq launch h.bounded destination text
  obtain ⟨hgains, hrestores⟩ := sent_disk h.lies destination text
  rw [hanswer]
  refine ⟨sent_ok_iff, fun hok => ?_, fun herror hremove name => ?_, fun herror => ?_, sent_error⟩
  · have hg := hgains hok
    rw [← hdisk] at hg
    obtain ⟨modified, hfile⟩ := hg.file
    exact ⟨_, Outgoing.isRecordName_fileName _ _, h.files.vacant (Nat.lt_succ_self _) _,
      ⟨_, modified, hfile, Outgoing.ofOctets_octets htime⟩, hg.others⟩
  · have hr := hrestores herror
    rw [← hdisk] at hr
    exact hr.entry (hremove _) name
  · have hr := hrestores herror
    rw [← hdisk] at hr
    exact ⟨_, Disk.isRecordName_freshName _ _, Disk.find?_freshName _ _,
      fun other hne => hr.kept _ (List.cons_ne_self _ _) (by simpa using hne)⟩

/-! ### One deed -/

theorem booked_message (destination text : String) (g : Gateway ε) :
    (((station launch).sendMessage destination text g).1 = .ok () →
      g.booked launch (.message destination text) =
        some (g.spool.lastId + 1, ⟨destination, text, g.disk.now⟩)) ∧
      (((station launch).sendMessage destination text g).1 ≠ .ok () →
        g.booked launch (.message destination text) = none) := by
  simp only [booked]
  generalize ((station launch).sendMessage destination text g).1 = answer
  cases answer with
  | ok _ => exact ⟨fun _ => rfl, fun h => absurd rfl h⟩
  | error _ => exact ⟨nofun, fun _ => rfl⟩

theorem alike_message (h : g.Keeps base entries) (destination text : String) :
    Disk.Alike g.disk (g.does launch (.message destination text)).disk := by
  obtain ⟨-, hdisk, -⟩ := sendMessage_eq launch h.bounded destination text
  obtain ⟨hgains, hrestores⟩ := sent_disk h.lies destination text
  rw [does, hdisk]
  by_cases hok : (g.sent destination text).1 = .ok ()
  · exact (hgains hok).toAlike
  · exact (hrestores hok).toAlike

variable {launch}

theorem keeps_message (h : g.Keeps base entries) (htime : g.disk.now.IsReading) :
    (g.does launch (.message destination text)).Keeps base
      (entries ++ (g.booked launch (.message destination text)).toList) := by
  obtain ⟨hanswer, hdisk, hspool⟩ := sendMessage_eq launch h.bounded destination text
  obtain ⟨hgains, hrestores⟩ := sent_disk h.lies destination text
  obtain ⟨hbooked, hnone⟩ := booked_message launch destination text g
  have hhome := (alike_message launch h destination text).homeOf base
  rw [hanswer] at hbooked hnone
  have hlies : (g.does launch (.message destination text)).spool.LiesIn base := by
    rw [does, hspool]
    exact ⟨h.lies.inbox, h.lies.outbox, h.lies.rejected⟩
  have hbounded : (g.does launch (.message destination text)).spool.Bounded := by
    rw [does, hspool]
    exact h.bounded.mono (Nat.le_succ _)
  refine ⟨hlies, hbounded, ?_, ?_⟩
  · rw [hhome, does, hdisk, hspool]
    by_cases hok : (g.sent destination text).1 = .ok ()
    · rw [hbooked hok]
      exact h.files.gains (Nat.lt_succ_self _) (hgains hok)
    · rw [hnone hok, Option.toList_none, List.append_nil]
      exact (h.files.congr (fun _ => (hrestores hok).record)).mono (Nat.le_succ _)
  · intro e he
    rcases List.mem_append.1 he with he | he
    · exact h.times e he
    · by_cases hok : (g.sent destination text).1 = .ok ()
      · rw [hbooked hok, Option.toList_some, List.mem_singleton] at he
        rw [he]
        exact htime
      · rw [hnone hok] at he
        cases he

theorem keepsOutside_message (h : g.Keeps base entries) (destination text : String) :
    Disk.KeepsOutside base g.disk (g.does launch (.message destination text)).disk := by
  obtain ⟨-, hdisk, -⟩ := sendMessage_eq launch h.bounded destination text
  obtain ⟨hgains, hrestores⟩ := sent_disk h.lies destination text
  rw [does, hdisk]
  intro l hl hd
  have hbelow : ∀ entry, ¬ (entry :: "outbox" :: g.disk.homeOf base) <:+ l :=
    hl "outbox" (by simp)
  by_cases hout : l = "outbox" :: g.disk.homeOf base
  · subst hout
    by_cases hok : (g.sent destination text).1 = .ok ()
    · exact (hgains hok).directory hd
    · rw [(hrestores hok).directory]
      exact hd
  · rw [← hd]
    refine Disk.isDirectory_of_find? ?_
    by_cases hok : (g.sent destination text).1 = .ok ()
    · exact (hgains hok).outside l (fun entry hs => absurd hs (hbelow entry)) hout (hbelow _)
    · exact (hrestores hok).outside hout hbelow

theorem move_leavesOutbox (hl : g.spool.LiesIn base) {m : Move ε}
    (hm : (Deed.move m).isProper base g) :
    Disk.LeavesOutbox base g.disk (g.move m).disk ∧
      (g.disk.leadsAround base → ∀ loc,
        g.disk.locateDirectory (Path.join base "outbox") = .ok loc →
          (g.move m).disk.locateDirectory (Path.join base "outbox") = .ok loc) := by
  have hsame : Disk.LeavesOutbox base g.disk g.disk := Disk.LeavesOutbox.refl base g.disk
  cases m with
  | poll =>
    obtain ⟨hleaves, houtside⟩ := poll_leavesOutbox hl
    exact ⟨hleaves, fun haround _ => houtside.locate Disk.isPart_outbox haround hleaves.current⟩
  | delete ref =>
    obtain ⟨hleaves, houtside⟩ := delete_leavesOutbox hl ref
    exact ⟨hleaves, fun haround _ => houtside.locate Disk.isPart_outbox haround hleaves.current⟩
  | change f => exact ⟨hm.1, fun _ => hm.2⟩
  | send ref => exact absurd hm id
  | subscribe topic => exact ⟨hsame, fun _ _ => id⟩
  | unsubscribe topic handle => exact ⟨hsame, fun _ _ => id⟩
  | release ref => exact ⟨hsame, fun _ _ => id⟩
  | create => exact ⟨hsame, fun _ _ => id⟩
  | setDestination ref destination => exact ⟨hsame, fun _ _ => id⟩
  | setText ref text => exact ⟨hsame, fun _ _ => id⟩

theorem keeps_does (h : g.Keeps base entries) {d : Deed ε} (hd : d.isProper base g) :
    (g.does launch d).Keeps base (entries ++ (g.booked launch d).toList) := by
  cases d with
  | message destination text => exact keeps_message h hd
  | move m =>
    obtain ⟨hleaves, -⟩ := move_leavesOutbox h.lies hd
    have hfiles : (g.does launch (.move m)).disk.Files
        ("outbox" :: (g.does launch (.move m)).disk.homeOf base)
        (g.does launch (.move m)).spool.lastId entries := by
      have hhome : (g.does launch (.move m)).disk.homeOf base = g.disk.homeOf base := hleaves.homeOf
      rw [hhome]
      exact (h.files.congr (fun name _ => hleaves.entries name)).mono (lastId_move g m)
    have hnone : (g.booked launch (.move m)).toList = [] := rfl
    rw [hnone, List.append_nil]
    exact ⟨move_liesIn h.lies m, bounded_move h.bounded m, hfiles, h.times⟩

/-! ### All deeds -/

theorem keeps_doesAll (h : g.Keeps base entries) {deeds : List (Deed ε)}
    (hproper : Proper launch base deeds g) :
    (doesAll launch deeds g).Keeps base (entries ++ ledger launch deeds g) := by
  induction deeds generalizing g entries with
  | nil => rwa [ledger, List.append_nil]
  | cons d deeds ih =>
    rw [ledger, ← List.append_assoc]
    exact ih (keeps_does h hproper.1) hproper.2

theorem current_does (h : g.Keeps base entries) {d : Deed ε} (hd : d.isProper base g) :
    (g.does launch d).disk.current = g.disk.current := by
  cases d with
  | message destination text => exact (alike_message launch h destination text).current
  | move m => exact (move_leavesOutbox h.lies hd).1.current

theorem current_doesAll (h : g.Keeps base entries) {deeds : List (Deed ε)}
    (hproper : Proper launch base deeds g) :
    (doesAll launch deeds g).disk.current = g.disk.current := by
  induction deeds generalizing g entries with
  | nil => rfl
  | cons d deeds ih =>
    exact (ih (keeps_does h hproper.1) hproper.2).trans (current_does h hproper.1)

/-- The outbox stays where it is if the path of the spool leads around its directories. -/
theorem locate_doesAll (h : g.Keeps base entries) {deeds : List (Deed ε)}
    (hproper : Proper launch base deeds g) (haround : g.disk.leadsAround base) {loc : Location}
    (hl : g.disk.locateDirectory (Path.join base "outbox") = .ok loc) :
    (doesAll launch deeds g).disk.locateDirectory (Path.join base "outbox") = .ok loc := by
  induction deeds generalizing g entries with
  | nil => exact hl
  | cons d deeds ih =>
    refine ih (keeps_does h hproper.1) hproper.2
      (haround.congr (current_does h hproper.1)) ?_
    cases d with
    | message destination text =>
      exact (keepsOutside_message h destination text).locate Disk.isPart_outbox haround
        (alike_message launch h destination text).current hl
    | move m => exact (move_leavesOutbox h.lies hproper.1).2 haround loc hl

theorem proper_append {before after : List (Deed ε)} :
    Proper launch base (before ++ after) g ↔
      Proper launch base before g ∧ Proper launch base after (doesAll launch before g) := by
  induction before generalizing g with
  | nil => simp [Proper, doesAll]
  | cons d before ih => simp only [List.cons_append, Proper, doesAll, ih, and_assoc]

/-- Whatever is done with a gateway that was opened on an empty outbox, as long as others leave the
outbox alone: a call to send a message succeeds if the destination can be dialled, the text fits and
the outbox takes the message, and then adds one file under a name where nothing was; a call that does
not succeed says which step failed first and leaves the outbox as it was, but for a temporary file that
the medium refuses to remove; and the outbox reads as the messages of the calls that succeeded, each as
often as it was sent. The outbox stays where it was if the path of the spool leads around its own
directories. -/
theorem outbox_is_ledger (launch : Action → StateM (Machine ε) Report) (machine : Machine ε)
    (settings : Settings) (deeds : List (Deed ε)) :
    let base := settings.spoolDir
    let start := opened machine settings
    let outbox := "outbox" :: machine.disk.homeOf base
    let g := doesAll launch deeds start
    (∀ name, machine.disk.find? (name :: outbox) = none) → Proper launch base deeds start →
      (∀ before destination text after, deeds = before ++ .message destination text :: after →
        let g := doesAll launch before start
        Called outbox g destination text ((station launch).sendMessage destination text g).1
          ((station launch).sendMessage destination text g).2) ∧
      (machine.disk.leadsAround base → machine.disk.locateDirectory start.spool.outbox = .ok outbox →
        g.disk.locateDirectory g.spool.outbox = .ok outbox) ∧
      (g.disk.locateDirectory g.spool.outbox = .ok outbox → g.disk.Legible outbox →
        ∃ records, g.disk.readOutbox g.spool.outbox = .ok records ∧
          records.Perm ((ledger launch deeds start).map Prod.snd)) := by
  intro base start outbox g hempty hproper
  have hstart : start.Keeps base [] :=
    ⟨opened_liesIn machine settings, ⟨fun _ he => absurd he List.not_mem_nil,
      fun _ he => absurd he List.not_mem_nil⟩, Disk.files_empty hempty _, by simp⟩
  have hkeeps : g.Keeps base (ledger launch deeds start) := keeps_doesAll hstart hproper
  have hhome : ∀ {deeds}, Proper launch base deeds start →
      (doesAll launch deeds start).disk.homeOf base = machine.disk.homeOf base := by
    intro deeds hproper
    simp only [Disk.homeOf, Disk.origin, current_doesAll hstart hproper]
    rfl
  refine ⟨?_, fun haround hl => ?_, fun hl hlegible => ?_⟩
  · rintro before destination text after rfl
    obtain ⟨hbefore, htime, -⟩ := proper_append.1 hproper
    have hcalled := called launch (keeps_doesAll hstart hbefore) htime destination text
    rw [hhome hbefore] at hcalled
    exact hcalled
  · rw [hkeeps.lies.outbox]
    exact locate_doesAll hstart hproper haround hl
  · have hfiles := hkeeps.files
    rw [hhome hproper] at hfiles
    exact hfiles.readOutbox hl hlegible hkeeps.times

end Gateway

theorem Disk.find?_emptySpool (name : String) :
    Disk.emptySpool.find? [name, "outbox", "s"] = none := by
  simp only [Disk.emptySpool, Disk.find?_insert _ _ (List.cons_ne_nil _ _)]
  simp [Disk.blank, Disk.find?]

namespace Gateway

/-- Of four calls, the first cannot be dialled, two send the same message at the same time, and the
last finds a medium that neither renames nor removes, so that its temporary file is left. -/
theorem outbox_is_ledger_twice :
    let launch : Action → StateM (Machine Unit) Report := fun _ => pure ⟨[], .ok (.exited 0)⟩
    let refuses (accesses : List Access) : Deed Unit := .move (.change (fun machine =>
      { machine with disk := { machine.disk with
          refuses := fun access _ => if access ∈ accesses then some .noSpace else none } }))
    let start : Gateway Unit := opened ⟨Disk.emptySpool, [], ()⟩ Settings.below
    let deeds := [.message "modem" "Hi", .message "+64211234567" "Hi", .move .poll,
      .message "+64211234567" "Hi", refuses [.rename, .remove], .message "+64211234567" "Hi",
      refuses []]
    let sent : Outgoing := ⟨"+64211234567", "Hi", Time.Instant.ofSeconds 0⟩
    (∀ name, Disk.emptySpool.find? [name, "outbox", "s"] = none) ∧ Proper launch "s" deeds start ∧
      ((doesAll launch deeds start).disk.find? [".tmp0", "outbox", "s"]).isSome = true ∧
      ∃ records, (doesAll launch deeds start).disk.readOutbox (doesAll launch deeds start).spool.outbox =
        .ok records ∧ records.Perm [sent, sent] := by
  intro launch refuses start deeds sent
  have hempty := Disk.find?_emptySpool
  have hrefuses : ∀ accesses (g : Gateway Unit), (refuses accesses).isProper "s" g :=
    fun accesses g => ⟨⟨rfl, fun _ => rfl⟩, fun _ => id⟩
  have hproper : Proper launch "s" deeds start := by
    refine ⟨?_, ?_, trivial, ?_, hrefuses _ _, ?_, hrefuses _ _, trivial⟩ <;>
    · change Time.Instant.IsReading _
      decide +kernel
  obtain ⟨-, -, hread⟩ :=
    outbox_is_ledger launch ⟨Disk.emptySpool, [], ()⟩ Settings.below deeds hempty hproper
  have hlegible : (doesAll launch deeds start).disk.Legible ["outbox", "s"] :=
    ⟨rfl, fun _ => rfl, fun _ => rfl⟩
  obtain ⟨records, hrecords, hperm⟩ := hread (by decide +kernel) hlegible
  have hledger : ((ledger launch deeds start).map Prod.snd).Perm [sent, sent] := by decide +kernel
  refine ⟨hempty, hproper, by decide +kernel, records, ?_, hperm.trans hledger⟩
  simp only [start]
  exact hrecords

end Gateway

end BuoyGateway
