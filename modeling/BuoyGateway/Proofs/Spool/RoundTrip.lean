import BuoyGateway.Proofs.Json.Keeping
import BuoyGateway.Proofs.Spool.Records
import BuoyGateway.Proofs.Time.Reading
import BuoyGateway.Settings

/-!
# Every record survives writing and reading

Messages, settings and invocations are read back from their written forms, with and without blanks.
-/

namespace BuoyGateway

open Json (Layout takes_text takes_number takes_list parse_written)

variable {layout : Layout}

theorem Invocation.takes (i : Invocation) :
    Invocation.shape.reader.Takes (i.toJson.written layout) i := by
  have hargs : (Json.string .string).TakesAll layout.inside.inside (i.args.map .string) i.args :=
    List.forall₂_map_left_iff.2 (List.forall₂_same.2 (fun arg _ => takes_text .string arg))
  refine Json.Shape.takes_object ?_
  exact .member rfl (by simp) ((takes_text .path _).map _)
    (.member rfl (by simp) ((takes_list hargs).map _) (.done rfl))

theorem Settings.takes (s : Settings) : Settings.shape.reader.Takes (s.toJson.written layout) s := by
  refine Json.Shape.takes_object ?_
  exact .member rfl (by simp) ((takes_text .path _).map _)
    (.member rfl (by simp) (s.bootCommand.takes.map _)
    (.member rfl (by simp) ((takes_text .path _).map _)
    (.member rfl (by simp) ((takes_text .path _).map _)
    (.member rfl (by simp) ((takes_text .path _).map _)
    (.member rfl (by simp) ((takes_text .path _).map _)
    (.member rfl (by simp) ((takes_text .path _).map _)
    (.member rfl (by simp) ((takes_text .path _).map _)
    (.member rfl (by simp) ((takes_number .size _).map _)
    (.member rfl (by simp) ((takes_number .word _).map _) (.done rfl))))))))))

/-- A text that is read as a message for the outbox names an instant of a clock. -/
theorem Outgoing.isOnClock_of_parse {text : List Char} {r : Outgoing}
    (h : Outgoing.shape.reader.parse text = .ok r) : r.queuedAt.IsOnClock := by
  have hkeeps : Outgoing.shape.Keeps (fun r => r.queuedAt.IsOnClock) := by
    intro field hfield a ha s b rest hread
    simp only [Outgoing.shape, List.mem_cons, List.not_mem_nil, or_false] at hfield
    rcases hfield with rfl | rfl | rfl
    · obtain ⟨_, -, rfl⟩ := Json.Reader.eq_of_map hread
      exact ha
    · obtain ⟨_, -, rfl⟩ := Json.Reader.eq_of_map hread
      exact ha
    · obtain ⟨t, ht, rfl⟩ := Json.Reader.eq_of_map hread
      obtain ⟨_, -, hparse⟩ := Json.Reader.eq_of_refine ht
      exact Time.Rfc3339.isOnClock_of_parse (mapError_eq_ok.1 hparse)
  exact Json.Shape.keeps_parse hkeeps (.inl (by decide)) h

namespace Json

variable {α : Type}

/-- The value that is written is read from either form. -/
def ReadsBack (reader : Reader α) (written : Value) (a : α) : Prop :=
  reader.parse written.compact = .ok a ∧ reader.parse written.pretty = .ok a

/-- What is read from a text, written and read again is what was read first. -/
def Rereads (reader : Reader α) (toJson : α → Value) (text : List Char) : Prop :=
  ∀ a, reader.parse text = .ok a → ReadsBack reader (toJson a) a

end Json

/-- Messages of the inbox, messages of the outbox in years of four digits, settings, invocations and
formats survive writing and reading. -/
theorem records_read_back :
    (∀ r : Incoming, Json.ReadsBack Incoming.shape.reader r.toJson r) ∧
    (∀ r : Outgoing, r.queuedAt.IsReading → Json.ReadsBack Outgoing.shape.reader r.toJson r ∧
      Outgoing.shape.ofOctets r.octets = .ok r) ∧
    (∀ s : Settings, Json.ReadsBack Settings.shape.reader s.toJson s) ∧
    (∀ i : Invocation, Json.ReadsBack Invocation.shape.reader i.toJson i) ∧
    (∀ format : MessageFormat, Json.ReadsBack MessageFormat.reader format.toJson format) ∧
    ∀ text, Json.Rereads Incoming.shape.reader Incoming.toJson text ∧
      (∀ r, Outgoing.shape.reader.parse text = .ok r → 0 ≤ r.queuedAt.toMoment.date.year →
        r.queuedAt.toMoment.date.year ≤ 9999 → Json.ReadsBack Outgoing.shape.reader r.toJson r) ∧
      Json.Rereads Settings.shape.reader Settings.toJson text ∧
      Json.Rereads Invocation.shape.reader Invocation.toJson text ∧
      Json.Rereads MessageFormat.reader MessageFormat.toJson text := by
  have hincoming (r : Incoming) : Json.ReadsBack Incoming.shape.reader r.toJson r :=
    parse_written (fun _ => r.takes)
  have houtgoing {r : Outgoing} (h : r.queuedAt.IsReading) :
      Json.ReadsBack Outgoing.shape.reader r.toJson r := parse_written (fun _ => r.takes h)
  have hsettings (s : Settings) : Json.ReadsBack Settings.shape.reader s.toJson s :=
    parse_written (fun _ => s.takes)
  have hinvocation (i : Invocation) : Json.ReadsBack Invocation.shape.reader i.toJson i :=
    parse_written (fun _ => i.takes)
  have hformat (format : MessageFormat) :
      Json.ReadsBack MessageFormat.reader format.toJson format :=
    parse_written (fun _ => format.takes)
  refine ⟨hincoming, fun r h => ⟨houtgoing h, Outgoing.ofOctets_octets h⟩, hsettings, hinvocation,
    hformat, fun text => ⟨fun r _ => hincoming r, fun r hparse hfirst hlast => ?_,
      fun s _ => hsettings s, fun i _ => hinvocation i, fun format _ => hformat format⟩⟩
  exact houtgoing ⟨Outgoing.isOnClock_of_parse hparse, hfirst, hlast⟩

def Outgoing.leaping : Outgoing := ⟨"+64211234567", "\"é\\\u0001😀", ⟨1483228799, 1999999999⟩⟩

theorem records_read_back_leaping : Outgoing.leaping.queuedAt.IsReading ∧
    Outgoing.shape.ofOctets Outgoing.leaping.octets = .ok .leaping ∧
    Json.ReadsBack Outgoing.shape.reader Outgoing.leaping.toJson .leaping := by
  have hclock : Outgoing.leaping.queuedAt.IsReading := by decide
  obtain ⟨-, houtgoing, -, -, -, hagain⟩ := records_read_back
  have hback := houtgoing .leaping hclock
  exact ⟨hclock, hback.2, (hagain _).2.1 .leaping hback.1.1 (by decide) (by decide)⟩

end BuoyGateway
