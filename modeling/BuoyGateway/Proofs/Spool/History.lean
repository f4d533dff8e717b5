import BuoyGateway.Proofs.Spool.Operations
import BuoyGateway.Proofs.Spool.Undisturbed

/-!
# The history of deliveries

Anything may happen to a gateway between two looks at its inbox: operations of its modem, and changes
of its machine by others. A file is outstanding when a look has delivered it and every successful
look since then has listed it. The names that a gateway remembers are the outstanding ones, after
every history.
-/

namespace BuoyGateway

/-- What may happen to a gateway: a look at its inbox, a change of its machine, or an operation of
its modem. -/
inductive Move (ε : Type)
  | poll
  | change (f : Machine ε → Machine ε)
  | subscribe (topic : Topic)
  | unsubscribe (topic : Topic) (handle : Handle)
  | delete (ref : Ref)
  | release (ref : Ref)
  | create
  | setDestination (ref : Ref) (destination : String)
  | setText (ref : Ref) (text : String)
  | send (ref : Ref)

def Spool.afterMove {ε : Type} (spool : Spool) : Move ε → Spool
  | .subscribe topic => (spool.subscribe topic).2
  | .unsubscribe topic handle => spool.unsubscribe topic handle
  | .release ref => spool.release ref
  | .create => spool.create.2
  | .setDestination ref destination => (spool.setDestination ref destination).2
  | .setText ref text => (spool.setText ref text).2
  | .poll | .change _ | .delete _ | .send _ => spool

namespace Gateway

variable {ε : Type} {g : Gateway ε} {m : Move ε} {moves : List (Move ε)} {name base : String}

def opened (machine : Machine ε) (settings : Settings) : Gateway ε := ⟨machine, Spool.fresh settings⟩

def move (g : Gateway ε) : Move ε → Gateway ε
  | .poll => (poll g).2
  | .change f => { g with machine := f g.machine }
  | .subscribe topic => (modem.subscribe topic g).2
  | .unsubscribe topic handle => (modem.unsubscribe topic handle g).2
  | .delete ref => (modem.delete ref g).2
  | .release ref => (modem.release ref g).2
  | .create => (modem.create g).2
  | .setDestination ref destination => (modem.setDestination ref destination g).2
  | .setText ref text => (modem.setText ref text g).2
  | .send ref => (modem.send ref g).2

def run : List (Move ε) → Gateway ε → Gateway ε
  | [], g => g
  | m :: moves, g => run moves (g.move m)

def looks (g : Gateway ε) : Prop := (poll g).1.isOk = true

instance (g : Gateway ε) : Decidable g.looks := inferInstanceAs (Decidable (_ = true))

def AtLooks (p : Gateway ε → Prop) (g : Gateway ε) (moves : List (Move ε)) : Prop :=
  ∀ before after, moves = before ++ .poll :: after → p (run before g)

/-- One of the looks among the moves finds the first property, and every look after that the second
one. -/
def Since (p q : Gateway ε → Prop) (g : Gateway ε) (moves : List (Move ε)) : Prop :=
  ∃ before since, moves = before ++ .poll :: since ∧ p (run before g) ∧
    AtLooks q ((run before g).move .poll) since

/-- Every successful look among the moves lists the file. -/
def Kept (g : Gateway ε) (moves : List (Move ε)) (name : String) : Prop :=
  ∀ before after, moves = before ++ .poll :: after →
    (run before g).looks → (run before g).lists name

/-- One of the looks among the moves delivers the file, and every successful look after that lists
it. -/
def Outstanding (g : Gateway ε) (moves : List (Move ε)) (name : String) : Prop :=
  ∃ before since, moves = before ++ .poll :: since ∧ name ∈ (run before g).deliveries ∧
    Kept ((run before g).move .poll) since name

/-! ### One move -/

theorem looks_iff : g.looks ↔ ∃ names, g.disk.recordNames g.spool.inbox = .ok names := by
  constructor
  · intro h
    cases hp : (poll g).1 with
    | error why =>
      rw [looks, hp] at h
      cases h
    | ok events => exact recordNames_of_poll hp
  · rintro ⟨names, hn⟩
    cases hs : g.spool.hasSubscriber .messages with
    | false => rw [looks, poll_unheard hn hs]; rfl
    | true => rw [looks, poll_heard hn hs]; rfl

/-- A look that fails leaves the gateway as it was, and delivers nothing. -/
theorem poll_of_not_looks (h : ¬ g.looks) : (poll g).2 = g ∧ g.deliveries = [] := by
  cases hr : g.disk.recordNames g.spool.inbox with
  | ok names => exact absurd (looks_iff.2 ⟨names, hr⟩) h
  | error e => exact ⟨by rw [poll_unlisted hr], deliveries_unlisted hr⟩

/-- Every move but a look does the same to every gateway with the spool, whatever its machine. -/
theorem spool_move (h : m ≠ .poll) : (g.move m).spool = g.spool.afterMove m := by
  cases m with
  | poll => exact absurd rfl h
  | delete ref => exact delete_spool g ref
  | send ref => exact send_spool g ref
  | _ => rfl

/-- Only looks change what is remembered of the inbox, and no move changes where the spool lies. -/
theorem move_spool (h : m ≠ .poll) : (g.move m).spool =
    { g.spool with
      lastId := (g.move m).spool.lastId
      subscriptions := (g.move m).spool.subscriptions
      received := (g.move m).spool.received
      drafts := (g.move m).spool.drafts } := by
  rw [spool_move h]
  cases m with
  | setDestination ref destination => rw [Spool.afterMove, Spool.setDestination, Spool.edit_snd]
  | setText ref text => rw [Spool.afterMove, Spool.setText, Spool.edit_snd]
  | _ => rfl

theorem move_keeps (h : m ≠ .poll) : (g.move m).spool.delivered = g.spool.delivered ∧
    ∀ base, g.spool.LiesIn base → (g.move m).spool.LiesIn base := by
  rw [move_spool h]
  exact ⟨rfl, fun _ hl => ⟨hl.inbox, hl.outbox, hl.rejected⟩⟩

/-- After a move a file counts as delivered if a look has delivered it just now, or it counted
before and no look has missed it. -/
theorem mem_delivered_move : name ∈ (g.move m).spool.delivered ↔
    (m = .poll ∧ name ∈ g.deliveries) ∨
      (name ∈ g.spool.delivered ∧ (m = .poll → g.looks → g.lists name)) := by
  by_cases hm : m = .poll
  · subst hm
    simp only [true_and, forall_const]
    by_cases hl : g.looks
    · obtain ⟨names, hn⟩ := looks_iff.1 hl
      simp only [hl, forall_const, lists_iff hn]
      exact mem_delivered_poll hn
    · obtain ⟨hsame, hnone⟩ := poll_of_not_looks hl
      simp only [move, hsame, hnone, hl, List.not_mem_nil, false_or, false_imp_iff, and_true]
  · simp only [(move_keeps hm).1, hm, false_and, false_or, false_imp_iff, and_true]

/-! ### A run of moves -/

theorem run_append (moves more : List (Move ε)) (g : Gateway ε) :
    run (moves ++ more) g = run more (run moves g) := by
  induction moves generalizing g with
  | nil => rfl
  | cons m moves ih => exact ih (g.move m)

theorem atLooks_cons {p : Gateway ε → Prop} : AtLooks p g (m :: moves) ↔
    (m = .poll → p g) ∧ AtLooks p (g.move m) moves := by
  constructor
  · intro h
    refine ⟨?_, ?_⟩
    · rintro rfl
      exact h [] moves rfl
    · rintro before after rfl
      exact h (m :: before) after rfl
  · rintro ⟨hm, h⟩ before after he
    cases before with
    | nil =>
      obtain ⟨rfl, rfl⟩ := List.cons.inj he
      exact hm rfl
    | cons first before =>
      obtain ⟨rfl, rfl⟩ := List.cons.inj he
      exact h before after rfl

theorem since_cons {p q : Gateway ε → Prop} : Since p q g (m :: moves) ↔
    (m = .poll ∧ p g ∧ AtLooks q (g.move m) moves) ∨ Since p q (g.move m) moves := by
  constructor
  · rintro ⟨before, since, he, hp, hq⟩
    cases before with
    | nil =>
      obtain ⟨rfl, rfl⟩ := List.cons.inj he
      exact .inl ⟨rfl, hp, hq⟩
    | cons first before =>
      obtain ⟨rfl, rfl⟩ := List.cons.inj he
      exact .inr ⟨before, since, rfl, hp, hq⟩
  · rintro (⟨rfl, hp, hq⟩ | ⟨before, since, rfl, hp, hq⟩)
    · exact ⟨[], moves, rfl, hp, hq⟩
    · exact ⟨m :: before, since, rfl, hp, hq⟩

/-- What a look with the one property sets, and only a look without the other one clears, holds after
a run if it was set in the run, or held before, and has not been cleared since. -/
theorem latch_run (latch : Gateway ε → Prop) {p q : Gateway ε → Prop}
    (hmove : ∀ g m, latch (g.move m) ↔ (m = .poll ∧ p g) ∨ (latch g ∧ (m = .poll → q g))) :
    latch (run moves g) ↔ Since p q g moves ∨ (latch g ∧ AtLooks q g moves) := by
  induction moves generalizing g with
  | nil => simp [run, Since, AtLooks]
  | cons m moves ih =>
    rw [run, ih, since_cons, atLooks_cons, hmove]
    constructor
    · rintro (h | ⟨⟨rfl, hp⟩ | ⟨hl, hm⟩, hq⟩)
      · exact .inl (.inr h)
      · exact .inl (.inl ⟨rfl, hp, hq⟩)
      · exact .inr ⟨hl, hm, hq⟩
    · rintro ((⟨rfl, hp, hq⟩ | h) | ⟨hl, hm, hq⟩)
      · exact .inr ⟨.inl ⟨rfl, hp⟩, hq⟩
      · exact .inl h
      · exact .inr ⟨.inr ⟨hl, hm⟩, hq⟩

/-- After a run a file counts as delivered if it is outstanding, or counted before the run and was
kept all through it. -/
theorem mem_delivered_run : name ∈ (run moves g).spool.delivered ↔
    Outstanding g moves name ∨ (name ∈ g.spool.delivered ∧ Kept g moves name) :=
  latch_run (fun g => name ∈ g.spool.delivered) (fun _ _ => mem_delivered_move)

/-- The names that a gateway remembers after a history are the outstanding ones. -/
theorem mem_delivered_opened {machine : Machine ε} {settings : Settings} :
    name ∈ (run moves (opened machine settings)).spool.delivered ↔
      Outstanding (opened machine settings) moves name := by
  have hnone : name ∉ (opened machine settings).spool.delivered := List.not_mem_nil
  rw [mem_delivered_run, or_iff_left (fun h => hnone h.1)]

theorem poll_liesIn (hs : g.spool.LiesIn base) : (poll g).2.spool.LiesIn base := by
  rw [poll_spool]
  exact ⟨hs.inbox, hs.outbox, hs.rejected⟩

theorem move_liesIn (hs : g.spool.LiesIn base) (m : Move ε) : (g.move m).spool.LiesIn base := by
  by_cases hm : m = .poll
  · subst hm
    exact poll_liesIn hs
  · exact (move_keeps hm).2 base hs

theorem run_liesIn (hs : g.spool.LiesIn base) (moves : List (Move ε)) :
    (run moves g).spool.LiesIn base := by
  induction moves generalizing g with
  | nil => exact hs
  | cons m moves ih => exact ih (move_liesIn hs m)

theorem opened_liesIn (machine : Machine ε) (settings : Settings) :
    (opened machine settings).spool.LiesIn settings.spoolDir := ⟨rfl, rfl, rfl⟩

/-- After every history, a successful look that somebody waits for delivers just the listed files
that read as records and are not outstanding, each of them once. A file that is kept is therefore
delivered once. A look that fails, or that nobody waits for, delivers nothing, and one that fails
leaves the gateway as it was. Where the path of the spool never climbs, what a file reads as does
not depend on the files before it. -/
theorem deliveries_run (machine : Machine ε) (settings : Settings) (moves : List (Move ε)) :
    let start := opened machine settings
    let g := run moves start
    (g.looks → g.spool.hasSubscriber .messages = true → ∀ name, name ∈ g.deliveries ↔
      g.lists name ∧ (g.atFile name).reads name ∧ ¬ Outstanding start moves name) ∧
    (".." ∉ Path.steps settings.spoolDir → ∀ name,
      (g.atFile name).readIncoming name = g.readIncoming name) ∧
    g.deliveries.Nodup ∧
    (∀ before since name, moves = before ++ .poll :: since →
      name ∈ (run before start).deliveries → Kept ((run before start).move .poll) since name →
      name ∉ g.deliveries) ∧
    (g.spool.hasSubscriber .messages = false → g.deliveries = []) ∧
    (¬ g.looks → g.deliveries = [] ∧ (poll g).2 = g) := by
  intro start g
  have hheard : g.looks → g.spool.hasSubscriber .messages = true → ∀ name, name ∈ g.deliveries ↔
      g.lists name ∧ (g.atFile name).reads name ∧ ¬ Outstanding start moves name := by
    intro hl hs name
    obtain ⟨names, hn⟩ := looks_iff.1 hl
    rw [mem_deliveries hn hs, lists_iff hn, mem_delivered_opened]
  have hfailed : ¬ g.looks → g.deliveries = [] ∧ (poll g).2 = g :=
    fun h => (poll_of_not_looks h).symm
  have hunheard : g.spool.hasSubscriber .messages = false → g.deliveries = [] := by
    intro hs
    by_cases hl : g.looks
    · obtain ⟨names, hn⟩ := looks_iff.1 hl
      exact deliveries_unheard hn hs
    · exact (hfailed hl).1
  refine ⟨hheard, ?_, nodup_deliveries g, ?_, hunheard, hfailed⟩
  · intro hc name
    exact (sameFile_atFile (run_liesIn (opened_liesIn machine settings) moves) hc name).record
  · intro before since name he hd hk hagain
    by_cases hl : g.looks
    · cases hs : g.spool.hasSubscriber .messages with
      | false =>
        rw [hunheard hs] at hagain
        cases hagain
      | true => exact ((hheard hl hs name).1 hagain).2.2 ⟨before, since, he, hd, hk⟩
    · rw [(hfailed hl).1] at hagain
      cases hagain

end Gateway

/-! ### A file that comes back -/

def Incoming.octets (r : Incoming) : List UInt8 := Text.encode r.toJson.pretty

def Disk.emptySpool : Disk :=
  let t := Time.Instant.ofSeconds 0
  (((Disk.blank t).insert ["s"] ⟨.directory, t⟩).insert ["inbox", "s"] ⟨.directory, t⟩).insert
    ["outbox", "s"] ⟨.directory, t⟩

def Settings.below : Settings := { Settings.default with spoolDir := "s" }

def Machine.withMail (machine : Machine Unit) (name : String) (r : Incoming) : Machine Unit :=
  { machine with
    disk := machine.disk.insert (name :: ["inbox", "s"]) ⟨.file r.octets false, machine.disk.now⟩ }

def Machine.withoutMail (machine : Machine Unit) (name : String) : Machine Unit :=
  { machine with disk := machine.disk.erase (name :: ["inbox", "s"]) }

namespace Gateway

/-- A message that is delivered, taken away, missed by a look and put back is delivered again. -/
theorem deliveries_run_again :
    let r : Incoming := ⟨"+1", none, "REBOOT", .text⟩
    let machine : Machine Unit := Machine.withMail ⟨Disk.emptySpool, [], ()⟩ "1.json" r
    let moves : List (Move Unit) := [.subscribe .messages, .poll,
      .change (fun m => m.withoutMail "1.json"), .poll, .change (fun m => m.withMail "1.json" r)]
    "1.json" ∈ (run moves (opened machine Settings.below)).deliveries := by
  intro r machine moves
  refine ((deliveries_run machine Settings.below moves).1 (by decide +kernel) (by decide +kernel)
    "1.json").2 ⟨by decide +kernel, by decide +kernel, ?_⟩
  rintro ⟨before, since, he, hd, hk⟩
  rcases before with _ | ⟨a, _ | ⟨b, _ | ⟨c, _ | ⟨d, before⟩⟩⟩⟩ <;>
    simp only [moves, List.nil_append, List.cons_append, List.cons.injEq, reduceCtorEq, false_and,
      and_false, true_and] at he
  · obtain ⟨rfl, rfl⟩ := he
    -- The second look lists nothing.
    exact absurd (hk [_] [_] rfl (by decide +kernel)) (by decide +kernel)
  · obtain ⟨rfl, rfl, rfl, rfl⟩ := he
    -- The second look delivers nothing.
    exact absurd hd (by decide +kernel)
  · obtain ⟨-, -, -, -, he⟩ := he
    rcases before with _ | ⟨e, before⟩ <;> simp at he

end Gateway

end BuoyGateway
