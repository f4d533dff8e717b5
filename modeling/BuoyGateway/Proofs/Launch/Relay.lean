import BuoyGateway.Proofs.Launch.Lines
import Mathlib.Logic.Function.Basic
import Mathlib.Logic.Relation

/-!
# Lines on their way

Two threads read what a program writes, one a channel, and send each line as it ends. Another thread
hands the lines over as they come, and returns when both threads have ended and no line is on its way.
However the octets are cut and the threads take turns, the lines handed over are those that
`Output.collect` gives for some order of arrivals: the lines of both channels, each channel's in their
order.
-/

namespace BuoyGateway

namespace Arrival

def channel : Arrival → Channel
  | .piece channel _ => channel
  | .ended channel => channel

@[simp]
theorem channel_piece (channel : Channel) (octets : List UInt8) :
    (piece channel octets).channel = channel := rfl

@[simp]
theorem channel_ended (channel : Channel) : (ended channel).channel = channel := rfl

end Arrival

namespace Output

variable {channel : Channel} {arrivals : List Arrival} {readers : Readers}

/-- A list is put together from two lists, each in its order. -/
inductive Merges {α : Type} : List α → List α → List α → Prop
  | nil : Merges [] [] []
  | left {x : α} {xs ys zs : List α} : Merges xs ys zs → Merges (x :: xs) ys (x :: zs)
  | right {y : α} {xs ys zs : List α} : Merges xs ys zs → Merges xs (y :: ys) (y :: zs)

/-- The arrivals bring octets on a channel, cut into pieces anywhere, and then its end. -/
def Brings (arrivals : List Arrival) (channel : Channel) (octets : List UInt8) : Prop :=
  ∃ pieces : List (List UInt8), pieces.flatten = octets ∧
    arrivals.filter (fun a => a.channel = channel) =
      pieces.map (.piece channel) ++ [.ended channel]

def ofChannel (channel : Channel) (lines : List (Channel × String)) : List String :=
  (lines.filter (fun l => l.1 = channel)).map Prod.snd

theorem ofChannel_append (channel : Channel) (lines more : List (Channel × String)) :
    ofChannel channel (lines ++ more) = ofChannel channel lines ++ ofChannel channel more := by
  simp only [ofChannel, List.filter_append, List.map_append]

theorem ofChannel_same (channel : Channel) (lines : List String) :
    ofChannel channel (lines.map (fun l => (channel, l))) = lines := by
  induction lines with
  | nil => rfl
  | cons l lines ih => simpa [ofChannel] using ih

theorem ofChannel_other {other : Channel} (h : other ≠ channel) (lines : List String) :
    ofChannel channel (lines.map (fun l => (other, l))) = [] := by
  simp [ofChannel, h]

theorem merges_ofChannel (lines : List (Channel × String)) :
    Merges (ofChannel .output lines) (ofChannel .errors lines) (lines.map Prod.snd) := by
  induction lines with
  | nil => exact .nil
  | cons l lines ih =>
    obtain ⟨channel, l⟩ := l
    cases channel with
    | output => exact ih.left
    | errors => exact ih.right

/-! ### Arrivals -/

namespace Readers

def steps (readers : Readers) : List Arrival → List (Channel × String) × Readers
  | [] => ([], readers)
  | a :: arrivals =>
    ((readers.step a).1 ++ ((readers.step a).2.steps arrivals).1,
      ((readers.step a).2.steps arrivals).2)

theorem steps_concat (readers : Readers) (arrivals : List Arrival) (a : Arrival) :
    readers.steps (arrivals ++ [a]) =
      ((readers.steps arrivals).1 ++ ((readers.steps arrivals).2.step a).1,
        ((readers.steps arrivals).2.step a).2) := by
  induction arrivals generalizing readers with
  | nil => simp only [List.nil_append, steps, List.append_nil]
  | cons a' arrivals ih => simp only [List.cons_append, steps, ih, List.append_assoc]

@[simp]
theorem get_set (readers : Readers) (reader : LineReader) (channel : Channel) :
    (readers.set reader channel).get channel = reader := by
  cases channel <;> rfl

theorem get_set_of_ne {other : Channel} (h : other ≠ channel) (readers : Readers)
    (reader : LineReader) : (readers.set reader other).get channel = readers.get channel := by
  cases channel <;> cases other <;> first | rfl | exact absurd rfl h

theorem step_other {a : Arrival} (h : a.channel ≠ channel) (readers : Readers) :
    ofChannel channel (readers.step a).1 = [] ∧
      (readers.step a).2.get channel = readers.get channel := by
  cases a with
  | piece other octets => exact ⟨ofChannel_other h _, get_set_of_ne h _ _⟩
  | ended other => exact ⟨ofChannel_other h _, get_set_of_ne h _ _⟩

theorem steps_quiet (h : arrivals.filter (fun a => a.channel = channel) = []) (readers : Readers) :
    ofChannel channel (readers.steps arrivals).1 = [] := by
  induction arrivals generalizing readers with
  | nil => rfl
  | cons a arrivals ih =>
    have ha : a.channel ≠ channel := by
      intro ha
      rw [List.filter_cons_of_pos (by simpa using ha)] at h
      cases h
    rw [List.filter_cons_of_neg (by simpa using ha)] at h
    rw [steps, ofChannel_append, (step_other ha readers).1, ih h, List.nil_append]

/-- The arrivals of the other channel do not disturb a reader. -/
theorem steps_ofChannel {pieces : List (List UInt8)}
    (h : arrivals.filter (fun a => a.channel = channel) =
      pieces.map (.piece channel) ++ [.ended channel]) (readers : Readers) :
    ofChannel channel (readers.steps arrivals).1 =
      (readers.get channel).readOut pieces.flatten := by
  induction arrivals generalizing readers pieces with
  | nil => simp at h
  | cons a arrivals ih =>
    rw [steps, ofChannel_append]
    by_cases ha : a.channel = channel
    · rw [List.filter_cons_of_pos (by simpa using ha)] at h
      cases pieces with
      | nil =>
        obtain ⟨rfl, hrest⟩ := List.cons.inj h
        rw [steps_quiet hrest, List.append_nil]
        exact ofChannel_same _ _
      | cons piece pieces =>
        obtain ⟨rfl, hrest⟩ := List.cons.inj h
        rw [ih hrest, List.flatten_cons, LineReader.readOut_append]
        simp only [step, get_set, ofChannel_same]
    · rw [List.filter_cons_of_neg (by simpa using ha)] at h
      obtain ⟨hquiet, hget⟩ := step_other ha readers
      rw [hquiet, ih h, hget, List.nil_append]

end Readers

theorem collect_eq (arrivals : List Arrival) :
    collect arrivals = (Readers.steps {} arrivals).1 := by
  -- Lines are collected in reverse, in front of those that came before.
  let take (p : List (Channel × String) × Readers) (arrival : Arrival) :=
    ((Readers.step p.2 arrival).1.reverse ++ p.1, (Readers.step p.2 arrival).2)
  suffices h : ∀ (lines : List (Channel × String)) (readers : Readers),
      (arrivals.foldl take (lines, readers)).1 = (readers.steps arrivals).1.reverse ++ lines by
    change (arrivals.foldl take ([], {})).1.reverse = _
    rw [h, List.append_nil, List.reverse_reverse]
  induction arrivals with
  | nil => exact fun lines readers => rfl
  | cons a arrivals ih =>
    intro lines readers
    rw [List.foldl_cons, ih, Readers.steps, List.reverse_append, List.append_assoc]

/-- What is collected from arrivals is, on each channel, the lines of what they bring. -/
theorem collect_ofChannel {octets : List UInt8} (h : Brings arrivals channel octets) :
    ofChannel channel (collect arrivals) = linesOf octets := by
  obtain ⟨pieces, rfl, hfilter⟩ := h
  rw [collect_eq, Readers.steps_ofChannel hfilter, ← LineReader.readOut_new]
  cases channel <;> rfl

theorem collect_merges {written : Channel → List UInt8}
    (h : ∀ channel, Brings arrivals channel (written channel)) :
    Merges (linesOf (written .output)) (linesOf (written .errors))
      ((collect arrivals).map Prod.snd) := by
  rw [← collect_ofChannel (h .output), ← collect_ofChannel (h .errors)]
  exact merges_ofChannel _

/-! ### Threads -/

/-- A thread that reads a channel: what the channel will still bring, what came and was not read yet,
the line that was begun, and whether the thread has ended. -/
structure Thread where
  coming : List UInt8
  buffer : List UInt8 := []
  reader : LineReader := {}
  ended : Bool := false

/-- The threads that read a program, the lines on their way from them, the lines that were handed
over, and whether the run has returned. -/
structure Relay where
  threads : Channel → Thread
  queue : List (Channel × String) := []
  handed : List (Channel × String) := []
  returned : Bool := false

namespace Thread

/-- What a thread has still to do: an octet comes, is read and may end a line, and at the end a line
may be left. -/
def work (thread : Thread) : Nat :=
  3 * thread.coming.length + 2 * thread.buffer.length + if thread.ended then 0 else 2

/-- A thread has read the arrivals of its channel: they leave it its reader, and bring what came and
was read. -/
structure HasRead (thread : Thread) (octets : List UInt8) (arrivals : List Arrival)
    (channel : Channel) : Prop where
  reader : (Readers.steps {} arrivals).2.get channel = thread.reader
  brought : ∃ pieces : List (List UInt8),
    pieces.flatten ++ (thread.buffer ++ thread.coming) = octets ∧
      arrivals.filter (fun a => a.channel = channel) =
        pieces.map (.piece channel) ++ if thread.ended then [.ended channel] else []
  ended : thread.ended = true → thread.buffer = [] ∧ thread.coming = []

theorem HasRead.other {octets : List UInt8} {thread : Thread} {a : Arrival}
    (h : thread.HasRead octets arrivals channel) (ha : a.channel ≠ channel) :
    thread.HasRead octets (arrivals ++ [a]) channel where
  reader := by rw [Readers.steps_concat, (Readers.step_other ha _).2, h.reader]
  brought := by
    rw [List.filter_append, List.filter_cons_of_neg (by simpa using ha), List.filter_nil,
      List.append_nil]
    exact h.brought
  ended := h.ended

theorem HasRead.update {written : Channel → List UInt8} {threads : Channel → Thread} {thread : Thread}
    (h : thread.HasRead (written channel) arrivals channel)
    (hothers : ∀ other, other ≠ channel → (threads other).HasRead (written other) arrivals other) :
    ∀ other, (Function.update threads channel thread other).HasRead (written other) arrivals
      other :=
  (Function.forall_update_iff threads
    (fun other thread => thread.HasRead (written other) arrivals other)).2 ⟨h, hothers⟩

end Thread

namespace Relay

variable {relay relay' : Relay} {written : Channel → List UInt8}

def start (written : Channel → List UInt8) : Relay :=
  { threads := fun channel => { coming := written channel } }

inductive Step : Relay → Relay → Prop
  /-- Some octets come, as many as may be. -/
  | come (relay : Relay) (channel : Channel) {piece rest : List UInt8} (hpiece : piece ≠ [])
      (hbuffer : (relay.threads channel).buffer = [])
      (hcoming : (relay.threads channel).coming = piece ++ rest) :
      Step relay { relay with
        threads := Function.update relay.threads channel
          { relay.threads channel with coming := rest, buffer := piece } }
  /-- An octet is read, and the line that it ends is sent. -/
  | read (relay : Relay) (channel : Channel) {b : UInt8} {rest : List UInt8}
      (hbuffer : (relay.threads channel).buffer = b :: rest) :
      Step relay { relay with
        threads := Function.update relay.threads channel
          { relay.threads channel with
            buffer := rest, reader := ((relay.threads channel).reader.feed [b]).2 }
        queue := relay.queue ++
          ((relay.threads channel).reader.feed [b]).1.map (fun l => (channel, l)) }
  /-- A channel ends. The line that was begun is sent, and its thread ends. -/
  | close (relay : Relay) (channel : Channel) (hbuffer : (relay.threads channel).buffer = [])
      (hcoming : (relay.threads channel).coming = [])
      (hended : (relay.threads channel).ended = false) :
      Step relay { relay with
        threads := Function.update relay.threads channel
          { relay.threads channel with reader := {}, ended := true }
        queue := relay.queue ++
          (relay.threads channel).reader.finish.map (fun l => (channel, l)) }
  /-- The line that was sent first is handed over. -/
  | hand (relay : Relay) {line : Channel × String} {rest : List (Channel × String)}
      (hqueue : relay.queue = line :: rest) :
      Step relay { relay with queue := rest, handed := relay.handed ++ [line] }
  /-- No line is on its way, and none will be. -/
  | finish (relay : Relay) (hqueue : relay.queue = [])
      (hended : ∀ channel, (relay.threads channel).ended = true)
      (hreturned : relay.returned = false) :
      Step relay { relay with returned := true }

/-- The relay is reached while a program runs that writes these octets. -/
def Reached (written : Channel → List UInt8) : Relay → Prop :=
  Relation.ReflTransGen Step (start written)

/-- All threads have read the arrivals, and the lines that these complete were sent. A relay that has
returned has nothing left to do. -/
structure Follows (written : Channel → List UInt8) (arrivals : List Arrival) (relay : Relay) :
    Prop where
  sent : (Readers.steps {} arrivals).1 = relay.handed ++ relay.queue
  threads : ∀ channel, (relay.threads channel).HasRead (written channel) arrivals channel
  returned : relay.returned = true →
    relay.queue = [] ∧ ∀ channel, (relay.threads channel).ended = true

theorem start_follows (written : Channel → List UInt8) : Follows written [] (start written) where
  sent := rfl
  threads channel := ⟨by cases channel <;> rfl, ⟨[], rfl, rfl⟩, fun h => by cases h⟩
  returned h := by cases h

theorem Follows.come (h : Follows written arrivals relay) {piece rest : List UInt8}
    (hpiece : piece ≠ []) (hbuffer : (relay.threads channel).buffer = [])
    (hcoming : (relay.threads channel).coming = piece ++ rest) :
    Follows written arrivals { relay with
      threads := Function.update relay.threads channel
        { relay.threads channel with coming := rest, buffer := piece } } := by
  have hopen : (relay.threads channel).ended ≠ true := by
    intro hended
    have hnil := ((h.threads channel).ended hended).2
    rw [hcoming, List.append_eq_nil_iff] at hnil
    exact hpiece hnil.1
  obtain ⟨hreader, ⟨pieces, hoctets, hfilter⟩, -⟩ := h.threads channel
  refine ⟨h.sent, ?_, fun hreturned => absurd ((h.returned hreturned).2 channel) hopen⟩
  refine Thread.HasRead.update ⟨hreader, ⟨pieces, ?_, hfilter⟩, fun hended => absurd hended hopen⟩
    (fun other _ => h.threads other)
  rw [← hoctets, hbuffer, hcoming, List.nil_append]

theorem Follows.read (h : Follows written arrivals relay) {b : UInt8} {rest : List UInt8}
    (hbuffer : (relay.threads channel).buffer = b :: rest) :
    Follows written (arrivals ++ [.piece channel [b]]) { relay with
      threads := Function.update relay.threads channel
        { relay.threads channel with
          buffer := rest, reader := ((relay.threads channel).reader.feed [b]).2 }
      queue := relay.queue ++
        ((relay.threads channel).reader.feed [b]).1.map (fun l => (channel, l)) } := by
  have hopen : (relay.threads channel).ended ≠ true := by
    intro hended
    have hnil := ((h.threads channel).ended hended).1
    rw [hbuffer] at hnil
    cases hnil
  obtain ⟨hreader, ⟨pieces, hoctets, hfilter⟩, -⟩ := h.threads channel
  rw [if_neg hopen, List.append_nil] at hfilter
  refine ⟨?_, ?_, fun hreturned => absurd ((h.returned hreturned).2 channel) hopen⟩
  · simp only [Readers.steps_concat, Readers.step, hreader, h.sent, List.append_assoc]
  · refine Thread.HasRead.update ⟨?_, ⟨pieces ++ [[b]], ?_, ?_⟩, fun hended => absurd hended hopen⟩
      (fun other hother => (h.threads other).other
        (show (Arrival.piece channel [b]).channel ≠ other from Ne.symm hother))
    · simp only [Readers.steps_concat, Readers.step, Readers.get_set, hreader]
    · rw [← hoctets, hbuffer]
      simp
    · simp [hfilter, hopen]

theorem Follows.close (h : Follows written arrivals relay)
    (hbuffer : (relay.threads channel).buffer = [])
    (hcoming : (relay.threads channel).coming = [])
    (hended : (relay.threads channel).ended = false) :
    Follows written (arrivals ++ [.ended channel]) { relay with
      threads := Function.update relay.threads channel
        { relay.threads channel with reader := {}, ended := true }
      queue := relay.queue ++
        (relay.threads channel).reader.finish.map (fun l => (channel, l)) } := by
  have hopen : (relay.threads channel).ended ≠ true := Bool.eq_false_iff.1 hended
  obtain ⟨hreader, ⟨pieces, hoctets, hfilter⟩, -⟩ := h.threads channel
  rw [if_neg hopen, List.append_nil] at hfilter
  refine ⟨?_, ?_, fun hreturned => absurd ((h.returned hreturned).2 channel) hopen⟩
  · simp only [Readers.steps_concat, Readers.step, hreader, h.sent, List.append_assoc]
  · refine Thread.HasRead.update ⟨?_, ⟨pieces, hoctets, ?_⟩, fun _ => ⟨hbuffer, hcoming⟩⟩
      (fun other hother => (h.threads other).other
        (show (Arrival.ended channel).channel ≠ other from Ne.symm hother))
    · simp only [Readers.steps_concat, Readers.step, Readers.get_set]
    · simp [hfilter]

/-- Whatever a thread does, the relay goes on to follow some arrivals. -/
theorem Follows.step (h : Follows written arrivals relay) (hstep : Step relay relay') :
    ∃ arrivals', Follows written arrivals' relay' := by
  cases hstep with
  | come channel hpiece hbuffer hcoming => exact ⟨_, h.come hpiece hbuffer hcoming⟩
  | read channel hbuffer => exact ⟨_, h.read hbuffer⟩
  | close channel hbuffer hcoming hended => exact ⟨_, h.close hbuffer hcoming hended⟩
  | hand hqueue =>
    refine ⟨arrivals, ?_, h.threads, fun hreturned => ?_⟩
    · rw [h.sent, hqueue, List.append_assoc, List.singleton_append]
    · have hnil := (h.returned hreturned).1
      rw [hqueue] at hnil
      cases hnil
  | finish hqueue hended hreturned => exact ⟨arrivals, h.sent, h.threads, fun _ => ⟨hqueue, hended⟩⟩

theorem Reached.follows (h : Reached written relay) : ∃ arrivals, Follows written arrivals relay := by
  induction h with
  | refl => exact ⟨[], start_follows written⟩
  | tail _ hstep ih =>
    obtain ⟨arrivals, hfollows⟩ := ih
    exact hfollows.step hstep

/-- What a relay that has returned handed over is what `collect` gives. -/
theorem Reached.collect (h : Reached written relay) (hreturned : relay.returned = true) :
    ∃ arrivals, (∀ channel, Brings arrivals channel (written channel)) ∧
      relay.handed = Output.collect arrivals := by
  obtain ⟨arrivals, hsent, hthreads, hreturn⟩ := h.follows
  obtain ⟨hqueue, hended⟩ := hreturn hreturned
  refine ⟨arrivals, fun channel => ?_, ?_⟩
  · obtain ⟨-, ⟨pieces, hoctets, hfilter⟩, hnil⟩ := hthreads channel
    obtain ⟨hbuffer, hcoming⟩ := hnil (hended channel)
    rw [hbuffer, hcoming, List.append_nil, List.append_nil] at hoctets
    rw [if_pos (hended channel)] at hfilter
    exact ⟨pieces, hoctets, hfilter⟩
  · rw [collect_eq, hsent, hqueue, List.append_nil]

/-! ### Returning -/

/-- What is still to do until the run returns. -/
def work (relay : Relay) : Nat :=
  (relay.threads .output).work + (relay.threads .errors).work + relay.queue.length +
    if relay.returned then 0 else 1

theorem update_work_lt {thread : Thread} {queue : List (Channel × String)}
    (h : thread.work + queue.length < (relay.threads channel).work + relay.queue.length) :
    work { relay with
      threads := Function.update relay.threads channel thread, queue := queue } < relay.work := by
  cases channel with
  | output =>
    simp only [work, Function.update_self,
      Function.update_of_ne (show Channel.errors ≠ .output by decide)]
    omega
  | errors =>
    simp only [work, Function.update_self,
      Function.update_of_ne (show Channel.output ≠ .errors by decide)]
    omega

theorem feed_length_le (reader : LineReader) (b : UInt8) : (reader.feed [b]).1.length ≤ 1 := by
  simp only [LineReader.feed]
  split <;> simp

theorem finish_length_le (reader : LineReader) : reader.finish.length ≤ 1 := by
  unfold LineReader.finish
  split <;> simp

/-- Every step leaves less to do, so no run goes on for ever. -/
theorem Step.work_lt (h : Step relay relay') : relay'.work < relay.work := by
  cases h with
  | come channel hpiece hbuffer hcoming =>
    refine update_work_lt ?_
    have hlength := List.length_pos_iff.2 hpiece
    simp only [Thread.work, hbuffer, hcoming, List.length_append, List.length_nil]
    omega
  | @read channel b rest hbuffer =>
    refine update_work_lt ?_
    have hlength := feed_length_le (relay.threads channel).reader b
    simp only [Thread.work, hbuffer, List.length_append, List.length_map, List.length_cons]
    omega
  | close channel hbuffer hcoming hended =>
    refine update_work_lt ?_
    have hlength := finish_length_le (relay.threads channel).reader
    simp only [Thread.work, hended, List.length_append, List.length_map, if_true,
      Bool.false_eq_true, if_false]
    omega
  | hand hqueue =>
    simp only [work, hqueue, List.length_cons]
    omega
  | finish hqueue hended hreturned =>
    simp only [work, hreturned, if_true, Bool.false_eq_true, if_false]
    omega

/-- Until the run returns some thread can go on. -/
theorem exists_step (h : relay.returned = false) : ∃ relay', Step relay relay' := by
  by_cases hended : ∀ channel, (relay.threads channel).ended = true
  · cases hqueue : relay.queue with
    | nil => exact ⟨_, .finish relay hqueue hended h⟩
    | cons line rest => exact ⟨_, .hand relay hqueue⟩
  · obtain ⟨channel, hopen⟩ := not_forall.1 hended
    cases hbuffer : (relay.threads channel).buffer with
    | cons b rest => exact ⟨_, .read relay channel hbuffer⟩
    | nil =>
      cases hcoming : (relay.threads channel).coming with
      | nil => exact ⟨_, .close relay channel hbuffer hcoming (Bool.eq_false_iff.2 hopen)⟩
      | cons b rest => exact ⟨_, .come relay channel (List.cons_ne_nil b rest) hbuffer
          (hcoming.trans (List.append_nil _).symm)⟩

end Relay

/-! ### All that a program writes -/

/-- However the octets that a program writes on its channels are cut, and however the threads take
turns, the lines handed over are those of both channels, each channel's in their order, and all of
them have been handed over when the run returns. Until then some thread can go on, and every step
leaves less to do. -/
theorem lines_handed_over (written : Channel → List UInt8) :
    (∀ arrivals ending, (∀ channel, Brings arrivals channel (written channel)) →
      Merges (linesOf (written .output)) (linesOf (written .errors))
        (Report.ofArrivals arrivals ending).lines) ∧
    ∀ relay, Relay.Reached written relay →
      (relay.returned = true →
        Merges (linesOf (written .output)) (linesOf (written .errors))
            (relay.handed.map Prod.snd) ∧
          ∃ arrivals, (∀ channel, Brings arrivals channel (written channel)) ∧
            ∀ ending, (Report.ofArrivals arrivals ending).lines = relay.handed.map Prod.snd) ∧
      (relay.returned = false → ∃ relay', Relay.Step relay relay') ∧
      ∀ relay', Relay.Step relay relay' → relay'.work < relay.work := by
  refine ⟨fun arrivals ending h => collect_merges h, fun relay hreached =>
    ⟨fun hreturned => ?_, Relay.exists_step, fun relay' hstep => hstep.work_lt⟩⟩
  obtain ⟨arrivals, hbrings, hhanded⟩ := hreached.collect hreturned
  refine ⟨?_, arrivals, hbrings, fun ending => ?_⟩
  · rw [hhanded]
    exact collect_merges hbrings
  · rw [hhanded]
    rfl

def torn : Channel → List UInt8
  | .output => [0xE9, newline]
  | .errors => [0x42]

open Relay.Step in
theorem torn_reached : ∃ relay, Relay.Reached torn relay ∧ relay.returned = true ∧
    relay.handed.map Prod.snd = ["B", "\uFFFD"] := by
  have hread := (((((Relation.ReflTransGen.refl (a := Relay.start torn)).tail
    (@come _ .errors [0x42] [] (by decide) rfl rfl)).tail
    (read _ .errors rfl)).tail
    (@come _ .output [0xE9] [newline] (by decide) rfl rfl)).tail
    (close _ .errors rfl rfl rfl)).tail
    (read _ .output rfl)
  have hsent := ((hread.tail
    (@come _ .output [newline] [] (by decide) rfl rfl)).tail
    (read _ .output rfl)).tail
    (close _ .output rfl rfl rfl)
  have hhanded := (hsent.tail (hand _ rfl)).tail (hand _ rfl)
  exact ⟨_, hhanded.tail (finish _ rfl (fun channel => by cases channel <;> rfl) rfl), rfl,
    by decide +kernel⟩

/-- A line that ends within a character ends with the replacement character. -/
theorem lines_handed_over_torn :
    let arrivals := [.piece .errors [0x42], .piece .output [0xE9], .ended .errors,
      .piece .output [newline], .ended .output]
    (∀ channel, Brings arrivals channel (torn channel)) ∧
      Merges ["\uFFFD"] ["B"] (Report.ofArrivals arrivals (.exited 0)).lines ∧
      ∃ relay, Relay.Reached torn relay ∧ relay.returned = true ∧
        relay.handed.map Prod.snd = ["B", "\uFFFD"] ∧
        Merges ["\uFFFD"] ["B"] (relay.handed.map Prod.snd) := by
  intro arrivals
  have hbrings : ∀ channel, Brings arrivals channel (torn channel) := by
    intro channel
    cases channel with
    | output => exact ⟨[[0xE9], [newline]], rfl, rfl⟩
    | errors => exact ⟨[[0x42]], rfl, rfl⟩
  obtain ⟨hcollected, hrelayed⟩ := lines_handed_over torn
  have hlines : linesOf (torn .output) = ["\uFFFD"] ∧ linesOf (torn .errors) = ["B"] := by
    decide +kernel
  rw [hlines.1, hlines.2] at hcollected hrelayed
  obtain ⟨relay, hreached, hreturned, hhanded⟩ := torn_reached
  exact ⟨hbrings, hcollected arrivals (.exited 0) hbrings, relay, hreached, hreturned, hhanded,
    ((hrelayed relay hreached).1 hreturned).1⟩

end Output

end BuoyGateway
