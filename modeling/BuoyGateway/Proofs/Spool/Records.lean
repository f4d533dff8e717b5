import BuoyGateway.Proofs.Json.Layout
import BuoyGateway.Proofs.Text.Utf8
import BuoyGateway.Proofs.Time.Rfc3339
import BuoyGateway.Spool.Outbox

/-!
# Records are read back

Both forms in which a record of the spool is written are JSON that its own reader takes for the record,
and the octets of a file in the outbox are such a text in UTF-8.
-/

namespace BuoyGateway

open Json (Layout takes_text takes_orNull takes_variant)

variable {layout : Layout}

theorem Json.takes_instant {t : Time.Instant} (h : t.IsReading) :
    instant.Takes ((Value.string (String.ofList (Time.Rfc3339.write t))).written layout) t :=
  (takes_text .time _).refine (by rw [String.toList_ofList, Time.Rfc3339.parse_write h]; rfl)

theorem MessageFormat.takes (format : MessageFormat) :
    MessageFormat.reader.Takes (format.toJson.written layout) format := by
  cases format <;> exact takes_variant rfl

theorem Incoming.takes (r : Incoming) : Incoming.shape.reader.Takes (r.toJson.written layout) r := by
  refine Json.Shape.takes_object ?_
  obtain ⟨sender, timestamp, text, format⟩ := r
  cases timestamp with
  | none =>
    exact .member rfl (by simp) ((takes_text .string _).map _)
      (.member rfl (by simp) ((takes_text .string _).map _)
        (.member rfl (by simp) (format.takes.map _) (.done rfl)))
  | some timestamp =>
    exact .member rfl (by simp) ((takes_text .string _).map _)
      (.member rfl (by simp) ((takes_orNull .string _).map _)
        (.member rfl (by simp) ((takes_text .string _).map _)
          (.member rfl (by simp) (format.takes.map _) (.done rfl))))

theorem Outgoing.takes {r : Outgoing} (h : r.queuedAt.IsReading) :
    Outgoing.shape.reader.Takes (r.toJson.written layout) r := by
  refine Json.Shape.takes_object ?_
  exact .member rfl (by simp) ((takes_text .string _).map _)
    (.member rfl (by simp) ((takes_text .string _).map _)
      (.member rfl (by simp) ((Json.takes_instant h).map _) (.done rfl)))

theorem Outgoing.ofOctets_octets {r : Outgoing} (h : r.queuedAt.IsReading) :
    Outgoing.shape.ofOctets r.octets = .ok r := by
  have hparse := (Json.parse_written (fun _ => Outgoing.takes h)).2
  rw [Json.Shape.ofOctets, Outgoing.octets, Text.decode?_encode]
  simp only [hparse]
  rfl

end BuoyGateway
