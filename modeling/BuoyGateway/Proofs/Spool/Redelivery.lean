import BuoyGateway.Proofs.Spool.History

/-!
# Messages under names that were used before

The daemon puts each message under a name where no file is. A message that is put is received by the
next look that succeeds, unless its name is outstanding at that time: the file of an earlier message
was delivered and deleted, and no look has missed it before the new file took its name.
-/

namespace BuoyGateway

/-- Puts a file into a directory, unless something is there under its name. -/
def Disk.put (disk : Disk) (path name : String) (octets : List UInt8) : Disk :=
  match disk.locateDirectory path with
  | .error _ => disk
  | .ok dir =>
    match disk.find? (name :: dir) with
    | some _ => disk
    | none => (disk.insert (name :: dir) ⟨.file octets false, disk.now⟩).stamp dir

/-- What happens to a spool from day to day: the daemon puts files into the inbox, the gateway looks
at it, deletes messages and gives them up, time passes, and the medium changes what it refuses. -/
inductive Turn
  | put (name : String) (octets : List UInt8)
  | poll
  | delete (ref : Ref)
  | release (ref : Ref)
  | pass (now : Time.Instant) (refuses : Access → Location → Option SystemError)

def Turn.toMove {ε : Type} (base : String) : Turn → Move ε
  | .put name octets => .change (fun machine =>
      { machine with disk := machine.disk.put (Path.join base "inbox") name octets })
  | .poll => .poll
  | .delete ref => .delete ref
  | .release ref => .release ref
  | .pass now refuses => .change (fun machine =>
      { machine with disk := { machine.disk with now, refuses } })

namespace Disk

variable {disk : Disk} {base path name other : String} {dir : Location}

theorem put_vacant (hd : disk.locateDirectory path = .ok dir) (hn : disk.find? (name :: dir) = none)
    (octets : List UInt8) : disk.put path name octets =
      (disk.insert (name :: dir) ⟨.file octets false, disk.now⟩).stamp dir := by
  simp only [put, hd, hn]

/-- A file that is put leaves the surroundings and the other files of its directory. -/
theorem put_spares (disk : Disk) (base : String) (hne : name ≠ other) (octets : List UInt8) :
    Alike disk (disk.put (Path.join base "inbox") other octets) ∧
      (disk.put (Path.join base "inbox") other octets).find? (name :: "inbox" :: disk.homeOf base) =
        disk.find? (name :: "inbox" :: disk.homeOf base) := by
  unfold put
  split
  · exact ⟨Alike.refl disk, rfl⟩
  · next dir hd =>
    split
    · exact ⟨Alike.refl disk, rfl⟩
    · obtain ⟨rfl, -, -⟩ := locateDirectory_part isPart_inbox hd
      refine ⟨(alike_insert _ _ _).trans (alike_stamp _ _), ?_⟩
      rw [find?_stamp_of_ne (List.cons_ne_self _ _), find?_insert _ _ (List.cons_ne_nil _ _), if_neg]
      exact fun he => hne (List.cons.inj he).1

end Disk

namespace Gateway

variable {ε : Type} {g : Gateway ε} {t : Turn} {turns : List Turn} {base name : String}

def vacant (g : Gateway ε) (name : String) : Prop :=
  ∃ dir, g.disk.locateDirectory g.spool.inbox = .ok dir ∧ g.disk.find? (name :: dir) = none

/-- A look at the inbox raises an event for the file, and its number reads back the record. A sender
that is longer than a phone number reads as an overflow. -/
def readsBack (g : Gateway ε) (name : String) (record : Incoming) : Prop :=
  ∃ events ref message, (poll g).1 = .ok events ∧ .received ref ∈ events ∧
    (poll g).2.spool.received? ref = some message ∧ message.name = name ∧
    (poll g).2.spool.format ref = record.format ∧
    (poll g).2.spool.text ref = .ok record.text ∧
    (poll g).2.spool.sender ref =
      if numberLimit < Text.size record.sender then .error .overflow else .ok record.sender

/-! ### One turn -/

/-- Until the file is put anew or a look succeeds, a turn leaves the file or removes it. -/
theorem turn_keeps (hs : g.spool.LiesIn base) (hput : ∀ octets, t ≠ .put name octets)
    (hpoll : t = .poll → ¬ g.looks) :
    (g.move (t.toMove base)).disk.current = g.disk.current ∧
      ∀ node, (g.move (t.toMove base)).disk.find? (name :: "inbox" :: g.disk.homeOf base) = some node →
        g.disk.find? (name :: "inbox" :: g.disk.homeOf base) = some node := by
  cases t with
  | poll =>
    have hsame : g.move (Turn.poll.toMove base) = g := (poll_of_not_looks (hpoll rfl)).1
    rw [hsame]
    exact ⟨rfl, fun _ => id⟩
  | release ref => exact ⟨rfl, fun _ => id⟩
  | pass now refuses =>
    refine ⟨rfl, fun node hn => ?_⟩
    rw [Disk.find?_of_ne_nil (List.cons_ne_nil _ _)] at hn ⊢
    exact hn
  | put other octets =>
    have hne : name ≠ other := by
      rintro rfl
      exact hput octets rfl
    obtain ⟨ha, hf⟩ := Disk.put_spares g.disk base hne octets
    exact ⟨ha.current, fun node hn => hf ▸ hn⟩
  | delete ref =>
    obtain ⟨ha, hf⟩ := delete_keeps hs ref name
    exact ⟨ha.current, hf⟩

theorem turn_subscriptions (g : Gateway ε) (t : Turn) (base : String) :
    (g.move (t.toMove base)).spool.subscriptions = g.spool.subscriptions := by
  cases t with
  | poll =>
    have h : (g.move (Turn.poll.toMove base)).spool = (poll g).2.spool := rfl
    rw [h, poll_spool]
  | delete ref => exact congrArg Spool.subscriptions (delete_spool g ref)
  | put name octets => rfl
  | release ref => rfl
  | pass now refuses => rfl

/-! ### Turns -/

def turnMoves (base : String) (turns : List Turn) : List (Move ε) := turns.map (Turn.toMove base)

theorem turns_subscriptions (g : Gateway ε) (turns : List Turn) (base : String) :
    (run (turnMoves base turns) g).spool.subscriptions = g.spool.subscriptions := by
  induction turns generalizing g with
  | nil => rfl
  | cons t turns ih => exact (ih _).trans (turn_subscriptions g t base)

/-- Until the file is put anew or a look succeeds, turns leave the file or remove it. -/
theorem turns_keep (hs : g.spool.LiesIn base) (hput : ∀ octets, .put name octets ∉ turns)
    (hpoll : ∀ between after, turns = between ++ .poll :: after →
      ¬ (run (turnMoves base between) g).looks) :
    (run (turnMoves base turns) g).disk.current = g.disk.current ∧
      ∀ node, (run (turnMoves base turns) g).disk.find?
          (name :: "inbox" :: g.disk.homeOf base) = some node →
        g.disk.find? (name :: "inbox" :: g.disk.homeOf base) = some node := by
  induction turns generalizing g with
  | nil => exact ⟨rfl, fun _ => id⟩
  | cons t turns ih =>
    have hput' : ∀ octets, t ≠ .put name octets := by
      rintro octets rfl
      exact hput octets List.mem_cons_self
    have hpoll' : t = .poll → ¬ g.looks := by
      rintro rfl
      exact hpoll [] turns rfl
    obtain ⟨hc, hf⟩ := turn_keeps hs hput' hpoll'
    obtain ⟨hc', hf'⟩ := ih (move_liesIn hs (t.toMove base))
      (fun octets hm => hput octets (List.mem_cons_of_mem _ hm))
      (fun between after he => hpoll (t :: between) after (by rw [he]; rfl))
    have hhome : (g.move (t.toMove base)).disk.homeOf base = g.disk.homeOf base := by
      simp only [Disk.homeOf, Disk.origin, hc]
    rw [hhome] at hf'
    exact ⟨hc'.trans hc, fun node hn => hf node (hf' node hn)⟩

/-! ### Reading back -/

/-- What a look delivers of a file reads back what the file reads as when the look comes to it. -/
theorem readsBack_of_mem_deliveries {record : Incoming} (h : name ∈ g.deliveries)
    (hr : ∀ record', (g.atFile name).readIncoming name = .ok record' → record' = record) :
    g.readsBack name record := by
  obtain ⟨events, ref, message, hp, he, hm, rfl⟩ := mem_deliveries_iff.1 h
  obtain rfl := hr _ (readIncoming_of_received hp he hm)
  refine ⟨events, ref, message, hp, he, hm, rfl, ?_, ?_, ?_⟩
  · simp only [Spool.format, hm]
  · simp only [Spool.text, hm]
  · simp only [Spool.sender, hm]

theorem mem_deliveries_of_readsBack {record : Incoming} (h : g.readsBack name record) :
    name ∈ g.deliveries := by
  obtain ⟨events, ref, message, hp, he, hm, hname, -⟩ := h
  exact mem_deliveries_iff.2 ⟨events, ref, message, hp, he, hm, hname⟩

/-- What is read when a look comes to a file is what the file held before the look. -/
theorem ofOctets_of_atFile (hs : g.spool.LiesIn base) {octets : List UInt8} {executable : Bool}
    {modified : Time.Instant} {record : Incoming}
    (hf : g.disk.find? (name :: "inbox" :: g.disk.homeOf base) =
      some ⟨.file octets executable, modified⟩)
    (hr : (g.atFile name).readIncoming name = .ok record) :
    Incoming.shape.ofOctets octets = .ok record := by
  obtain ⟨dir, octets', executable', modified', hd, -, hf', ho⟩ := readIncoming_eq_ok_iff.1 hr
  obtain ⟨ha, hsame⟩ := atFile_spares hs name
  rw [(atFile_liesIn hs name).inbox] at hd
  obtain ⟨rfl, -, -⟩ := Disk.locateDirectory_part Disk.isPart_inbox hd
  rw [ha.homeOf base, hsame, hf] at hf'
  cases hf'
  exact ho

theorem readIncoming_atFile (hs : g.spool.LiesIn base) {octets : List UInt8} {executable : Bool}
    {modified : Time.Instant} {record : Incoming}
    (hf : g.disk.find? (name :: "inbox" :: g.disk.homeOf base) =
      some ⟨.file octets executable, modified⟩)
    (hrecord : Incoming.shape.ofOctets octets = .ok record) (record' : Incoming)
    (hr : (g.atFile name).readIncoming name = .ok record') : record' = record :=
  Except.ok.inj ((ofOctets_of_atFile hs hf hr).symm.trans hrecord)

def watching (settings : Settings) (turns : List Turn) : List (Move ε) :=
  .subscribe .messages :: turnMoves settings.spoolDir turns

def afterTurns (machine : Machine ε) (settings : Settings) (turns : List Turn) : Gateway ε :=
  run (watching settings turns) (opened machine settings)

variable {machine : Machine ε} {settings : Settings} {before since : List Turn}
  {octets : List UInt8}

theorem afterTurns_append (machine : Machine ε) (settings : Settings) (turns more : List Turn) :
    afterTurns machine settings (turns ++ more) =
      run (turnMoves settings.spoolDir more) (afterTurns machine settings turns) := by
  rw [afterTurns, watching, turnMoves, List.map_append, ← List.cons_append, run_append]
  rfl

theorem afterTurns_liesIn (machine : Machine ε) (settings : Settings) (turns : List Turn) :
    (afterTurns machine settings turns).spool.LiesIn settings.spoolDir :=
  run_liesIn (opened_liesIn machine settings) _

theorem afterTurns_hasSubscriber (machine : Machine ε) (settings : Settings) (turns : List Turn) :
    (afterTurns machine settings turns).spool.hasSubscriber .messages = true := by
  have h := turns_subscriptions ((opened machine settings).move (.subscribe .messages)) turns
    settings.spoolDir
  simp only [Spool.hasSubscriber, afterTurns, watching, run, h]
  rfl

theorem find?_move_put (hs : g.spool.LiesIn base) (hvacant : g.vacant name)
    (octets : List UInt8) :
    let put := g.move ((Turn.put name octets).toMove base)
    put.disk.find? (name :: "inbox" :: put.disk.homeOf base) =
      some ⟨.file octets false, g.disk.now⟩ := by
  intro put
  obtain ⟨dir, hd, hn⟩ := hvacant
  rw [hs.inbox] at hd
  obtain ⟨rfl, -, -⟩ := Disk.locateDirectory_part Disk.isPart_inbox hd
  have hput : put.disk = (g.disk.insert (name :: "inbox" :: g.disk.homeOf base)
      ⟨.file octets false, g.disk.now⟩).stamp ("inbox" :: g.disk.homeOf base) :=
    Disk.put_vacant hd hn octets
  have ha : Disk.Alike g.disk put.disk := by
    rw [hput]
    exact (Disk.alike_insert _ _ _).trans (Disk.alike_stamp _ _)
  rw [ha.homeOf, hput, Disk.find?_stamp_of_ne (List.cons_ne_self _ _),
    Disk.find?_insert _ _ (List.cons_ne_nil _ _), if_pos rfl]

theorem find?_of_lists (hs : g.spool.LiesIn base) (hl : g.looks) (hn : g.lists name) :
    ∃ node, g.disk.find? (name :: "inbox" :: g.disk.homeOf base) = some node := by
  obtain ⟨names, hnames⟩ := looks_iff.1 hl
  obtain ⟨dir, hd, -⟩ := Disk.recordNames_ok hnames
  obtain ⟨-, hfound, -⟩ := (Disk.mem_recordNames hnames hd).1 ((lists_iff hnames).1 hn)
  rw [hs.inbox] at hd
  obtain ⟨rfl, -, -⟩ := Disk.locateDirectory_part Disk.isPart_inbox hd
  exact Option.isSome_iff_exists.1 hfound

/-- A file that was put where nothing was, and that is still there, holds what was put. -/
theorem find?_after_put (hvacant : (afterTurns machine settings before).vacant name)
    (hput : ∀ octets', .put name octets' ∉ since)
    (hnext : ∀ between after, since = between ++ .poll :: after →
      ¬ (afterTurns machine settings (before ++ .put name octets :: between)).looks)
    (hlooks : (afterTurns machine settings (before ++ .put name octets :: since)).looks)
    (hthere : (afterTurns machine settings (before ++ .put name octets :: since)).lists name) :
    let g := afterTurns machine settings (before ++ .put name octets :: since)
    ∃ modified, g.disk.find? (name :: "inbox" :: g.disk.homeOf settings.spoolDir) =
      some ⟨.file octets false, modified⟩ := by
  intro g
  let g₀ := afterTurns machine settings before
  let g₁ := g₀.move ((Turn.put name octets).toMove settings.spoolDir)
  have hs₀ : g₀.spool.LiesIn settings.spoolDir := afterTurns_liesIn machine settings before
  have hs₁ : g₁.spool.LiesIn settings.spoolDir := move_liesIn hs₀ _
  have hg : ∀ turns, afterTurns machine settings (before ++ .put name octets :: turns) =
      run (turnMoves settings.spoolDir turns) g₁ := fun turns => afterTurns_append _ _ _ _
  have hf₁ : g₁.disk.find? (name :: "inbox" :: g₁.disk.homeOf settings.spoolDir) =
      some ⟨.file octets false, g₀.disk.now⟩ := find?_move_put hs₀ hvacant octets
  -- What comes after leaves it or removes it.
  obtain ⟨hc, hkeep⟩ := turns_keep hs₁ hput (fun between after he => hg between ▸ hnext between after he)
  rw [← hg since] at hc hkeep
  have hhome : g.disk.homeOf settings.spoolDir = g₁.disk.homeOf settings.spoolDir := by
    simp only [Disk.homeOf, Disk.origin]
    rw [hc]
  -- It is listed, so it was not removed.
  obtain ⟨node, hnode⟩ := find?_of_lists (afterTurns_liesIn machine settings _) hlooks hthere
  have hkept := hkeep node (hhome ▸ hnode)
  rw [hf₁] at hkept
  cases hkept
  exact ⟨_, hnode⟩

/-- The daemon puts a message under a name where no file is. The next look that succeeds while the
file is still there receives it if and only if its name is not outstanding and the file can be read
when the look comes to it; it can, where the medium lets it and the path of the spool never
climbs. -/
theorem received_after_put (machine : Machine ε) (settings : Settings) (before since : List Turn)
    (name : String) (octets : List UInt8) (record : Incoming)
    (hrecord : Incoming.shape.ofOctets octets = .ok record)
    (hvacant : (afterTurns machine settings before).vacant name)
    (hput : ∀ octets', .put name octets' ∉ since)
    (hnext : ∀ between after, since = between ++ .poll :: after →
      ¬ (afterTurns machine settings (before ++ .put name octets :: between)).looks)
    (hlooks : (afterTurns machine settings (before ++ .put name octets :: since)).looks)
    (hthere : (afterTurns machine settings (before ++ .put name octets :: since)).lists name) :
    let moves : List (Move ε) := watching settings (before ++ .put name octets :: since)
    let g := run moves (opened machine settings)
    (g.readsBack name record ↔
      (g.atFile name).reads name ∧ ¬ Outstanding (opened machine settings) moves name) ∧
    (".." ∉ Path.steps settings.spoolDir → (∀ loc, g.disk.refuses .read loc = none) →
      (g.atFile name).reads name) := by
  intro moves g
  have hs : g.spool.LiesIn settings.spoolDir := afterTurns_liesIn machine settings _
  obtain ⟨modified, hf⟩ := find?_after_put hvacant hput hnext hlooks hthere
  obtain ⟨names, hnames⟩ := looks_iff.1 hlooks
  have hdelivers : name ∈ g.deliveries ↔ name ∈ names ∧ (g.atFile name).reads name ∧
      name ∉ g.spool.delivered :=
    mem_deliveries hnames (afterTurns_hasSubscriber machine settings _)
  have hmem := (lists_iff hnames).1 hthere
  have hout : name ∈ g.spool.delivered ↔ Outstanding (opened machine settings) moves name :=
    mem_delivered_opened
  refine ⟨⟨?_, ?_⟩, ?_⟩
  · intro h
    obtain ⟨-, hreads, hd⟩ := hdelivers.1 (mem_deliveries_of_readsBack h)
    exact ⟨hreads, fun ho => hd (hout.2 ho)⟩
  · rintro ⟨hreads, ho⟩
    exact readsBack_of_mem_deliveries (hdelivers.2 ⟨hmem, hreads, fun hd => ho (hout.1 hd)⟩)
      (readIncoming_atFile hs hf hrecord)
  · intro hclimb hpermit
    obtain ⟨dir, hd, -⟩ := Disk.recordNames_ok hnames
    have hlocated := locate_inbox hs ⟨dir, hd⟩
    refine (sameFile_atFile hs hclimb name).reads.2 ⟨record, readIncoming_eq_ok_iff.2 ?_⟩
    exact ⟨_, octets, false, modified, hlocated, by simp only [Disk.permit, hpermit], hf, hrecord⟩

/-- A message that is put under a new name is received. -/
theorem received_after_put_first :
    let machine : Machine Unit := ⟨Disk.emptySpool, [], ()⟩
    let record : Incoming := ⟨"+64211234567", none, "REBOOT", .text⟩
    (afterTurns machine Settings.below [.put "1.json" record.octets]).readsBack "1.json" record := by
  intro machine record
  refine (received_after_put machine Settings.below [] [] "1.json" record.octets record
    (by decide +kernel) ⟨["inbox", "s"], by decide +kernel, by decide +kernel⟩ (by simp) (by simp)
    (by decide +kernel) (by decide +kernel)).1.2 ⟨by decide +kernel, ?_⟩
  rintro ⟨before, since, he, -⟩
  rcases before with _ | ⟨a, _ | ⟨b, before⟩⟩ <;>
    simp [watching, turnMoves, Turn.toMove] at he

/-- A message that takes the name of a deleted one before the next look is there and can be read, but
the look does not receive it. -/
theorem lost_after_delete :
    let machine : Machine Unit := ⟨Disk.emptySpool, [], ()⟩
    let first : Incoming := ⟨"+64211234567", none, "REBOOT", .text⟩
    let second : Incoming := ⟨"+64211234567", none, "ULPM 30", .text⟩
    let before : List Turn := [.put "1.json" first.octets, .poll, .delete 2, .release 2]
    let g := afterTurns machine Settings.below (before ++ [.put "1.json" second.octets])
    (afterTurns machine Settings.below before).vacant "1.json" ∧ g.looks ∧ g.lists "1.json" ∧
      (g.atFile "1.json").readIncoming "1.json" = .ok second ∧ (poll g).1 = .ok [] ∧
      ¬ g.readsBack "1.json" second := by
  intro machine first second before g
  refine ⟨⟨["inbox", "s"], by decide +kernel, by decide +kernel⟩, by decide +kernel,
    by decide +kernel, by decide +kernel, by decide +kernel, ?_⟩
  intro h
  exact absurd (mem_deliveries_of_readsBack h) (by decide +kernel)

end Gateway

end BuoyGateway
