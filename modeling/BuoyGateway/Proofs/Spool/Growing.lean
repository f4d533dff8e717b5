import Mathlib.Data.List.Nodup
import BuoyGateway.Proofs.Json.Record
import BuoyGateway.Proofs.Spool.Clearance
import BuoyGateway.Proofs.Spool.Redelivery
import BuoyGateway.Proofs.Text.Utf8

/-!
# Messages that are still being written

The daemon creates the file of a message and appends to it, a piece at a time and cut anywhere, while
the gateway looks at the inbox. What there is of a file so far reads as no record or as the record of
the whole file, so a look that comes too early takes nothing, and the message is received once.
-/

namespace BuoyGateway

theorem Incoming.shape_steady : Incoming.shape.Steady := by
  have hstring := Json.steady_string .string
  have hnull : (Json.string .string).orNull.Steady := by
    refine hstring.orNull (fun s hs p hp => ?_)
    have hblank : (Json.string .string).read s = .error (.ended .value) := Json.readString_blank hs
    rw [hblank] at hp
    cases hp
  have hformat : MessageFormat.reader.Steady := Json.steady_variant _
  intro field hfield a
  simp only [Incoming.shape, List.mem_cons, List.not_mem_nil, or_false] at hfield
  rcases hfield with rfl | rfl | rfl | rfl
  · exact hstring.map _
  · exact hnull.map _
  · exact hstring.map _
  · exact hformat.map _

/-- Octets that read as a record read as no other record when more octets follow. -/
theorem Json.Shape.ofOctets_append {α : Type} {shape : Json.Shape α} (steady : shape.Steady)
    {octets more : List UInt8} {a b : α} (h : shape.ofOctets octets = .ok a)
    (hmore : shape.ofOctets (octets ++ more) = .ok b) : b = a := by
  unfold ofOctets at h hmore
  split at h
  · cases h
  · next s hs =>
    rw [Text.decode?_append hs] at hmore
    cases ht : Text.decode? more with
    | none =>
      rw [ht] at hmore
      cases hmore
    | some t =>
      rw [ht] at hmore
      exact parse_append steady (mapError_eq_ok.1 h) (mapError_eq_ok.1 hmore)

/-- The octets at the front of a record read as no other record. -/
theorem Incoming.ofOctets_prefix {octets whole : List UInt8} {r r' : Incoming}
    (hp : octets <+: whole) (hwhole : Incoming.shape.ofOctets whole = .ok r)
    (h : Incoming.shape.ofOctets octets = .ok r') : r' = r := by
  obtain ⟨more, rfl⟩ := hp
  exact (Json.Shape.ofOctets_append Incoming.shape_steady h hwhole).symm

namespace Disk

def append (disk : Disk) (loc : Location) (piece : List UInt8) : Disk :=
  match disk.find? loc with
  | some ⟨.file octets executable, _⟩ => disk.insert loc ⟨.file (octets ++ piece) executable, disk.now⟩
  | _ => disk

def Holds (disk : Disk) (loc : Location) (octets : List UInt8) : Prop :=
  ∃ executable modified, disk.find? loc = some ⟨.file octets executable, modified⟩

variable {disk disk' : Disk} {loc : Location} {octets : List UInt8}

theorem Holds.congr (h : disk.Holds loc octets) (hf : disk'.find? loc = disk.find? loc) :
    disk'.Holds loc octets := by
  obtain ⟨executable, modified, hn⟩ := h
  exact ⟨executable, modified, hf.trans hn⟩

theorem alike_put (disk : Disk) (path name : String) (octets : List UInt8) :
    Alike disk (disk.put path name octets) := by
  unfold put
  split
  · exact Alike.refl disk
  · split
    · exact Alike.refl disk
    · exact (alike_insert _ _ _).trans (alike_stamp _ _)

theorem holds_append (h : disk.Holds loc octets) (hloc : loc ≠ []) (piece : List UInt8) :
    (disk.append loc piece).Holds loc (octets ++ piece) ∧
      (disk.append loc piece).current = disk.current := by
  obtain ⟨executable, modified, hf⟩ := h
  have happend : disk.append loc piece =
      disk.insert loc ⟨.file (octets ++ piece) executable, disk.now⟩ := by
    simp only [append, hf]
  rw [happend]
  exact ⟨⟨executable, disk.now, by rw [find?_insert _ _ hloc, if_pos rfl]⟩, rfl⟩

end Disk

/-- What happens while the daemon writes a file: it appends a piece, or there is any other move. -/
inductive Stroke (ε : Type)
  | append (piece : List UInt8)
  | move (m : Move ε)

namespace Stroke

variable {ε : Type}

def toMove (loc : Location) : Stroke ε → Move ε
  | .append piece => .change (fun machine => { machine with disk := machine.disk.append loc piece })
  | .move m => m

theorem toMove_eq_poll {loc : Location} {stroke : Stroke ε} :
    stroke.toMove loc = .poll ↔ stroke = .move .poll := by
  cases stroke <;> simp [toMove]

def piece : Stroke ε → List UInt8
  | .append piece => piece
  | .move _ => []

end Stroke

namespace Gateway

variable {ε : Type} {g : Gateway ε} {m : Move ε} {moves : List (Move ε)} {name base : String}
  {names : List String} {loc : Location} {octets : List UInt8} {stroke : Stroke ε}
  {strokes earlier later : List (Stroke ε)}

def written (strokes : List (Stroke ε)) : List UInt8 := strokes.flatMap Stroke.piece

def strokeMoves (loc : Location) (strokes : List (Stroke ε)) : List (Move ε) :=
  strokes.map (Stroke.toMove loc)

theorem strokeMoves_cons (loc : Location) (stroke : Stroke ε) (strokes : List (Stroke ε)) :
    strokeMoves loc (stroke :: strokes) = stroke.toMove loc :: strokeMoves loc strokes := rfl

theorem strokeMoves_append (loc : Location) (strokes more : List (Stroke ε)) :
    strokeMoves loc (strokes ++ more) = strokeMoves loc strokes ++ strokeMoves loc more :=
  List.map_append

/-- The names of the files whose messages the looks among the moves deliver. -/
def told : List (Move ε) → Gateway ε → List String
  | [], _ => []
  | m :: moves, g =>
    (match m with
      | .poll => g.deliveries
      | _ => []) ++ told moves (g.move m)

/-- The file stays in place through the strokes that do not append to it, and the medium gives it away to
looks. As long as it is not whole, looks only have to be kept from finding the file unchanged for so long
that they move it aside. -/
def Undisturbed (g : Gateway ε) (loc : Location) (name : String) (strokes : List (Stroke ε)) : Prop :=
  ∀ earlier m later, strokes = earlier ++ .move m :: later →
    let g' := run (strokeMoves loc earlier) g
    (m = .poll → g'.disk.refuses .entry loc = none) ∧
    ((m = .poll ∧ written later ≠ [] ∧ (g'.atFile name).isStale name = false) ∨
      ((g'.move m).disk.current = g'.disk.current ∧
        ∀ octets, g'.disk.Holds loc octets → (g'.move m).disk.Holds loc octets))

/-! ### Looks and what they tell -/

theorem poll_keeps (hs : g.spool.LiesIn base) (h : (g.atFile name).isStale name = false) :
    Disk.Alike g.disk (poll g).2.disk ∧
      (poll g).2.disk.find? (name :: "inbox" :: g.disk.homeOf base) =
        g.disk.find? (name :: "inbox" :: g.disk.homeOf base) := by
  have hclears := poll_clears hs
  refine ⟨hclears.toAlike, (hclears.stayed name ?_ []).1⟩
  rintro ⟨-, -, hrejects, -⟩
  rw [hrejects.2.2] at h
  cases h

theorem notMem_deliveries (h : name ∈ g.spool.delivered) : name ∉ g.deliveries := by
  cases hr : g.disk.recordNames g.spool.inbox with
  | error e => simp [deliveries_unlisted hr]
  | ok names =>
    cases hsub : g.spool.hasSubscriber .messages with
    | false => simp [deliveries_unheard hr hsub]
    | true => exact fun hd => ((mem_deliveries hr hsub).1 hd).2.2 h

theorem told_poll (moves : List (Move ε)) (g : Gateway ε) :
    told (.poll :: moves) g = g.deliveries ++ told moves (g.move .poll) := rfl

theorem told_cons (h : m ≠ .poll) (moves : List (Move ε)) (g : Gateway ε) :
    told (m :: moves) g = told moves (g.move m) := by
  cases m with
  | poll => exact absurd rfl h
  | _ => rfl

theorem mem_told_append (more : List (Move ε)) : name ∈ told (moves ++ more) g ↔
    name ∈ told moves g ∨ name ∈ told more (run moves g) := by
  induction moves generalizing g with
  | nil => simp [told, run]
  | cons m moves ih =>
    simp only [List.cons_append, told, run, List.mem_append, ih, or_assoc]

/-- What counts as delivered after a run counted before it, or a look has told of it. -/
theorem mem_told_of_delivered (h : name ∈ (run moves g).spool.delivered)
    (hg : name ∉ g.spool.delivered) : name ∈ told moves g := by
  rcases mem_delivered_run.1 h with ⟨before, since, rfl, hd, -⟩ | ⟨hd, -⟩
  · rw [mem_told_append, told_poll]
    exact .inr (List.mem_append_left _ hd)
  · exact absurd hd hg

/-! ### A file on its way -/

theorem undisturbed_cons : Undisturbed g loc name (stroke :: strokes) ↔
    (∀ m, stroke = .move m → (m = .poll → g.disk.refuses .entry loc = none) ∧
      ((m = .poll ∧ written strokes ≠ [] ∧ (g.atFile name).isStale name = false) ∨
        ((g.move m).disk.current = g.disk.current ∧
          ∀ octets, g.disk.Holds loc octets → (g.move m).disk.Holds loc octets))) ∧
      Undisturbed (g.move (stroke.toMove loc)) loc name strokes := by
  constructor
  · intro h
    refine ⟨?_, ?_⟩
    · rintro m rfl
      exact h [] m strokes rfl
    · rintro earlier m later rfl
      exact h (stroke :: earlier) m later rfl
  · rintro ⟨hstroke, h⟩ earlier m later he
    cases earlier with
    | nil =>
      obtain ⟨rfl, rfl⟩ := List.cons.inj he
      exact hstroke m rfl
    | cons first earlier =>
      obtain ⟨rfl, rfl⟩ := List.cons.inj he
      exact h earlier m later rfl

/-- The file holds the octets that were written so far, and with those of the strokes to come it
reads as the record. -/
structure Underway (g : Gateway ε) (base name : String) (loc : Location) (octets : List UInt8)
    (strokes : List (Stroke ε)) (record : Incoming) : Prop where
  liesIn : g.spool.LiesIn base
  place : loc = name :: "inbox" :: g.disk.homeOf base
  holds : g.disk.Holds loc octets
  whole : Incoming.shape.ofOctets (octets ++ written strokes) = .ok record
  undisturbed : Undisturbed g loc name strokes

namespace Underway

variable {record : Incoming}

/-- A stroke appends its piece to the file, and nothing else happens to it. -/
theorem holds_move (h : Underway g base name loc octets (stroke :: strokes) record) :
    (g.move (stroke.toMove loc)).disk.current = g.disk.current ∧
      (g.move (stroke.toMove loc)).disk.Holds loc (octets ++ stroke.piece) := by
  cases stroke with
  | append piece =>
    have hloc : loc ≠ [] := by
      rw [h.place]
      exact List.cons_ne_nil _ _
    exact (Disk.holds_append h.holds hloc piece).symm
  | move m =>
    have hpiece : octets ++ (Stroke.move m).piece = octets := List.append_nil octets
    rw [hpiece]
    rcases ((undisturbed_cons.1 h.undisturbed).1 m rfl).2 with ⟨rfl, -, hstale⟩ | ⟨hc, hkept⟩
    · obtain ⟨ha, hf⟩ := poll_keeps h.liesIn hstale
      rw [← h.place] at hf
      exact ⟨ha.current, h.holds.congr hf⟩
    · exact ⟨hc, hkept octets h.holds⟩

theorem step (h : Underway g base name loc octets (stroke :: strokes) record) :
    Underway (g.move (stroke.toMove loc)) base name loc (octets ++ stroke.piece) strokes record := by
  obtain ⟨hc, hholds⟩ := h.holds_move
  have hplace : loc = name :: "inbox" :: (g.move (stroke.toMove loc)).disk.homeOf base := by
    rw [Disk.homeOf, Disk.origin, hc]
    exact h.place
  have hwhole : octets ++ written (stroke :: strokes) =
      (octets ++ stroke.piece) ++ written strokes := by
    rw [written, List.flatMap_cons, List.append_assoc, written]
  exact ⟨move_liesIn h.liesIn _, hplace, hholds, hwhole ▸ h.whole,
    (undisturbed_cons.1 h.undisturbed).2⟩

theorem run (h : Underway g base name loc octets (earlier ++ later) record) :
    Underway (Gateway.run (strokeMoves loc earlier) g) base name loc (octets ++ written earlier)
      later record := by
  induction earlier generalizing g octets with
  | nil =>
    rw [written, List.flatMap_nil, List.append_nil]
    exact h
  | cons stroke earlier ih =>
    have hrest := ih h.step
    rw [List.append_assoc] at hrest
    exact hrest

theorem eq_of_readIncoming (h : Underway g base name loc octets strokes record) {r : Incoming}
    (hr : (g.atFile name).readIncoming name = .ok r) : r = record := by
  obtain ⟨executable, modified, hf⟩ := h.holds
  rw [h.place] at hf
  exact Incoming.ofOctets_prefix (List.prefix_append _ _) h.whole (ofOctets_of_atFile h.liesIn hf hr)

/-- A look that succeeds lists the file. -/
theorem lists (h : Underway g base name loc octets (.move .poll :: strokes) record)
    (hname : isRecordName name = true) (hl : g.looks) : g.lists name := by
  have hshown : g.disk.refuses .entry loc = none :=
    ((undisturbed_cons.1 h.undisturbed).1 .poll rfl).1 rfl
  obtain ⟨names, hnames⟩ := looks_iff.1 hl
  obtain ⟨dir, hd, -⟩ := Disk.recordNames_ok hnames
  refine (lists_iff hnames).2 ((Disk.mem_recordNames hnames hd).2 ⟨hname, ?_⟩)
  rw [h.liesIn.inbox] at hd
  obtain ⟨rfl, -, -⟩ := Disk.locateDirectory_part Disk.isPart_inbox hd
  obtain ⟨executable, modified, hf⟩ := h.holds
  rw [Disk.shows, ← h.place, hf, hshown]
  exact ⟨rfl, rfl⟩

theorem delivered_move (h : Underway g base name loc octets (stroke :: strokes) record)
    (hname : isRecordName name = true) (hd : name ∈ g.spool.delivered) :
    name ∈ (g.move (stroke.toMove loc)).spool.delivered := by
  refine mem_delivered_move.2 (.inr ⟨hd, fun hm hl => ?_⟩)
  obtain rfl := Stroke.toMove_eq_poll.1 hm
  exact h.lists hname hl

theorem notMem_told (h : Underway g base name loc octets strokes record)
    (hname : isRecordName name = true) (hd : name ∈ g.spool.delivered) :
    name ∉ told (strokeMoves loc strokes) g := by
  induction strokes generalizing g octets with
  | nil => exact List.not_mem_nil
  | cons stroke strokes ih =>
    have hrest := ih h.step (h.delivered_move hname hd)
    rw [strokeMoves_cons]
    by_cases hm : stroke.toMove loc = .poll
    · rw [hm, told_poll, List.mem_append, not_or]
      rw [hm] at hrest
      exact ⟨notMem_deliveries hd, hrest⟩
    · rw [told_cons hm]
      exact hrest

/-- The looks tell of the file at most once. -/
theorem count_told (h : Underway g base name loc octets strokes record)
    (hname : isRecordName name = true) : (told (strokeMoves loc strokes) g).count name ≤ 1 := by
  induction strokes generalizing g octets with
  | nil => exact Nat.zero_le 1
  | cons stroke strokes ih =>
    have hrest := ih h.step
    rw [strokeMoves_cons]
    by_cases hm : stroke.toMove loc = .poll
    · rw [hm, told_poll, List.count_append]
      by_cases hd : name ∈ g.deliveries
      · have hdelivered : name ∈ (g.move (stroke.toMove loc)).spool.delivered :=
          mem_delivered_move.2 (.inl ⟨hm, hd⟩)
        have hnone := h.step.notMem_told hname hdelivered
        rw [hm] at hnone
        rw [List.count_eq_zero_of_not_mem (a := name) hnone, Nat.add_zero]
        exact List.nodup_iff_count_le_one.1 (nodup_deliveries g) name
      · rw [List.count_eq_zero_of_not_mem hd, Nat.zero_add]
        rw [hm] at hrest
        exact hrest
    · rw [told_cons hm]
      exact hrest

/-- A look that succeeds once the file is whole, that somebody waits for and that can read the file
tells of it, unless an earlier one did. -/
theorem mem_told (h : Underway g base name loc octets (.move .poll :: strokes) record)
    (hname : isRecordName name = true) (hl : g.looks)
    (hs : g.spool.hasSubscriber .messages = true) (hr : (g.atFile name).reads name) :
    name ∈ g.deliveries ∨ name ∈ g.spool.delivered := by
  obtain ⟨names, hnames⟩ := looks_iff.1 hl
  have hmem := (lists_iff hnames).1 (h.lists hname hl)
  by_cases hd : name ∈ g.spool.delivered
  · exact .inr hd
  · exact .inl ((mem_deliveries hnames hs).2 ⟨hmem, hr, hd⟩)

/-- A look by a path that never climbs can read the file once it is whole, where the medium lets
it. -/
theorem reads (h : Underway g base name loc octets strokes record) (hw : written strokes = [])
    (hl : g.looks) (hclimb : ".." ∉ Path.steps base)
    (hpermit : ∀ loc, g.disk.refuses .read loc = none) : (g.atFile name).reads name := by
  obtain ⟨names, hnames⟩ := looks_iff.1 hl
  obtain ⟨dir, hd, -⟩ := Disk.recordNames_ok hnames
  have hlocated := locate_inbox h.liesIn ⟨dir, hd⟩
  obtain ⟨executable, modified, hf⟩ := h.holds
  have hwhole := h.whole
  rw [hw, List.append_nil] at hwhole
  refine (sameFile_atFile h.liesIn hclimb name).reads.2 ⟨record, readIncoming_eq_ok_iff.2 ?_⟩
  exact ⟨_, octets, executable, modified, hlocated, by simp only [Disk.permit, hpermit],
    h.place ▸ hf, hwhole⟩

end Underway

/-- The moves by which the daemon creates a file in the inbox and then writes it, among others. -/
def writing (settings : Settings) (name : String) (loc : Location) (strokes : List (Stroke ε)) :
    List (Move ε) := (Turn.put name []).toMove settings.spoolDir :: strokeMoves loc strokes

/-- The daemon creates a file under a name of which no look has told yet, and writes it piece by piece
while the gateway looks at the inbox. What stands at the front of the file reads as its record or as
none. So every message that a look receives from the file reads back the format and the text of the
record, and its sender, but for one longer than a phone number, which reads as an overflow; the looks
tell of the file at most once; and after a look that succeeds once the file is whole, that somebody
waits for and that can read the file, one has told of it. A look can read it where the medium lets it
and the path of the spool never climbs. -/
theorem received_while_growing (machine : Machine ε) (settings : Settings) (before : List (Move ε))
    (name : String) (strokes : List (Stroke ε)) (record : Incoming)
    (hrecord : Incoming.shape.ofOctets (written strokes) = .ok record)
    (hname : isRecordName name = true)
    (hvacant : (Gateway.run before (opened machine settings)).vacant name)
    (hnew : name ∉ told before (opened machine settings))
    (hplace :
      let g := Gateway.run before (opened machine settings)
      Undisturbed (g.move ((Turn.put name []).toMove settings.spoolDir))
        (name :: "inbox" :: g.disk.homeOf settings.spoolDir) name strokes) :
    let start := Gateway.run before (opened machine settings)
    let loc := name :: "inbox" :: start.disk.homeOf settings.spoolDir
    let after : List (Stroke ε) → Gateway ε :=
      fun earlier => Gateway.run (writing settings name loc earlier) start
    (∀ octets record', octets <+: written strokes →
      Incoming.shape.ofOctets octets = .ok record' → record' = record) ∧
    (∀ earlier later, strokes = earlier ++ .move .poll :: later →
      ∀ events ref message, (poll (after earlier)).1 = .ok events → .received ref ∈ events →
        (poll (after earlier)).2.spool.received? ref = some message → message.name = name →
        (poll (after earlier)).2.spool.format ref = record.format ∧
        (poll (after earlier)).2.spool.text ref = .ok record.text ∧
        (poll (after earlier)).2.spool.sender ref =
          if numberLimit < Text.size record.sender then .error .overflow
          else .ok record.sender) ∧
    (told (writing settings name loc strokes) start).count name ≤ 1 ∧
    (∀ earlier later, strokes = earlier ++ .move .poll :: later → written later = [] →
      (after earlier).looks → (after earlier).spool.hasSubscriber .messages = true →
      (((after earlier).atFile name).reads name →
        name ∈ told (writing settings name loc (earlier ++ [.move .poll])) start) ∧
      (".." ∉ Path.steps settings.spoolDir → (∀ l, (after earlier).disk.refuses .read l = none) →
        ((after earlier).atFile name).reads name)) := by
  intro start loc after
  have hlies : start.spool.LiesIn settings.spoolDir := run_liesIn (opened_liesIn machine settings) _
  let begun := start.move ((Turn.put name []).toMove settings.spoolDir)
  have hbegun : Underway begun settings.spoolDir name loc [] strokes record := by
    have hhome : begun.disk.homeOf settings.spoolDir = start.disk.homeOf settings.spoolDir :=
      (Disk.alike_put start.disk _ name []).homeOf settings.spoolDir
    have hfile : begun.disk.Holds loc [] := by
      have hput := find?_move_put hlies hvacant []
      change begun.disk.find? (name :: "inbox" :: begun.disk.homeOf settings.spoolDir) = _ at hput
      rw [hhome] at hput
      exact ⟨false, _, hput⟩
    exact ⟨move_liesIn hlies _, by rw [hhome], hfile, hrecord, hplace⟩
  have hnone : name ∉ begun.spool.delivered :=
    fun hd => hnew (mem_told_of_delivered hd List.not_mem_nil)
  refine ⟨fun octets record' hp => Incoming.ofOctets_prefix hp hrecord, ?_, ?_, ?_⟩
  · rintro earlier later rfl events ref message hp he hm rfl
    obtain rfl := (hbegun.run).eq_of_readIncoming (readIncoming_of_received hp he hm)
    refine ⟨?_, ?_, ?_⟩
    · simp only [Spool.format, hm]
    · simp only [Spool.text, hm]
    · simp only [Spool.sender, hm]
  · exact hbegun.count_told hname
  · rintro earlier later rfl hw hl hs
    have hthen := hbegun.run
    refine ⟨fun hr => ?_, hthen.reads hw hl⟩
    -- Either this look tells of it, or it counts as delivered, and then an earlier one did.
    rw [writing, strokeMoves_append, ← List.cons_append, mem_told_append]
    rcases hthen.mem_told hname hl hs hr with hd | hd
    · exact .inr (List.mem_append_left _ hd)
    · exact .inl (mem_told_of_delivered hd (fun h => hnone h))

/-- A message that is looked at while a character of its text is cut in two is received. -/
theorem received_while_growing_cut :
    let record : Incoming := ⟨"+64211234567", none, "Grüße", .text⟩
    let octets := record.octets
    let start : Gateway Unit :=
      run [.subscribe .messages] (opened ⟨Disk.emptySpool, [], ()⟩ Settings.below)
    "1.json" ∈ told (writing Settings.below "1.json" ["1.json", "inbox", "s"]
      [.append (octets.take 44), .move .poll, .append (octets.drop 44), .move .poll]) start := by
  intro record octets start
  have hplace : Undisturbed
      (start.move ((Turn.put "1.json" []).toMove Settings.below.spoolDir))
      ("1.json" :: "inbox" :: start.disk.homeOf Settings.below.spoolDir) "1.json"
      [.append (octets.take 44), .move .poll, .append (octets.drop 44), .move .poll] := by
    refine undisturbed_cons.2 ⟨nofun, undisturbed_cons.2 ⟨?_, undisturbed_cons.2 ⟨nofun,
      undisturbed_cons.2 ⟨?_, ?_⟩⟩⟩⟩
    · rintro m ⟨⟩
      exact ⟨fun _ => by decide +kernel, .inl ⟨rfl, by decide +kernel, by decide +kernel⟩⟩
    · rintro m ⟨⟩
      exact ⟨fun _ => by decide +kernel,
        .inr ⟨by decide +kernel, fun octets' h => h.congr (by decide +kernel)⟩⟩
    · rintro earlier m later he
      simp at he
  have h := received_while_growing ⟨Disk.emptySpool, [], ()⟩ Settings.below [.subscribe .messages]
    "1.json" [.append (octets.take 44), .move .poll, .append (octets.drop 44), .move .poll] record
    (by decide +kernel) (by decide +kernel) ⟨["inbox", "s"], by decide +kernel, by decide +kernel⟩
    (by decide +kernel) hplace
  exact (h.2.2.2 [.append (octets.take 44), .move .poll, .append (octets.drop 44)] [] rfl rfl
    (by decide +kernel) (by decide +kernel)).1 (by decide +kernel)

/-- A look receives a message whose sender is longer than a phone number, and reading its sender
fails. A look that succeeds receives nothing where the medium refuses to read. -/
theorem received_while_growing_in_part :
    let record : Incoming := ⟨"+12345678901234567890", none, "hi", .text⟩
    let start : Gateway Unit :=
      run [.subscribe .messages] (opened ⟨Disk.emptySpool, [], ()⟩ Settings.below)
    let refused : Stroke Unit := .move (.change (fun machine =>
      { machine with disk := { machine.disk with
          refuses := fun access _ => if access = .read then some .permissionDenied else none } }))
    let after : List (Stroke Unit) → Gateway Unit := fun strokes =>
      run (writing Settings.below "1.json" ["1.json", "inbox", "s"] strokes) start
    let g := after [.append record.octets]
    let g' := after [.append record.octets, refused]
    Incoming.shape.ofOctets record.octets = .ok record ∧
      ((poll g).1 = .ok [.received 2] ∧
        ((poll g).2.spool.received? 2).map Received.name = some "1.json" ∧
        (poll g).2.spool.sender 2 = .error .overflow) ∧
      ((poll g').1 = .ok [] ∧ g'.spool.hasSubscriber .messages = true ∧
        (g'.atFile "1.json").isStale "1.json" = false) := by
  decide +kernel

end Gateway

end BuoyGateway
