import BuoyGateway.Proofs.Sms.Handling
import BuoyGateway.Proofs.Spool.Queueing
import BuoyGateway.Proofs.Spool.Reachable
import BuoyGateway.Proofs.Text.Clip

/-!
# Replies fit one message

A reply is cut to the length of one message, and an unknown text that it repeats is cut before it is
put in. The first cut leaves more of the text than the second keeps, so the reply is the whole one, cut
once. It is accepted as the text of a message: a reply is lost only where its destination cannot be
dialled or the outbox cannot be written.
-/

namespace BuoyGateway

namespace Command

def wholeReply : Command → String
  | upgrade _ => "Upgrade started"
  | reboot => "Rebooting FX30"
  | sleep seconds => "Going into ULPM for " ++ Decimal.text seconds ++ " seconds"
  | unknown text => "Unknown command '" ++ text ++ "'"

theorem wholeReply_unknown (text : String) :
    (unknown text).wholeReply = "Unknown command '" ++ text ++ "'" := rfl

/-- The reply to an unknown text is as long as the text and eighteen octets. -/
theorem size_wholeReply_unknown (text : String) :
    Text.size (unknown text).wholeReply = 17 + Text.size text + 1 := by
  simp only [wholeReply_unknown, Text.size, String.toList_append, Text.octets_append]
  rfl

theorem reply_eq_clip (command : Command) :
    command.reply = Text.clip command.wholeReply textLimit := by
  cases command with
  | unknown text =>
    have hfront : Text.octets "Unknown command '".toList ≤ textLimit := by decide
    rw [← String.toList_inj, reply, Text.toList_clip, Text.toList_clip, wholeReply_unknown]
    simp only [String.toList_append, Text.toList_clip, List.append_assoc]
    -- Behind the words in front, 143 octets are left, and the echo was cut to 160.
    rw [Text.fit_append_of_le hfront, Text.fit_append_of_le hfront, Text.fit_fit_append (by decide)]
  | upgrade | reboot | sleep => rfl

theorem utf8ByteSize_reply_le (command : Command) : command.reply.utf8ByteSize ≤ 160 := by
  rw [Text.utf8ByteSize_eq]
  exact command.size_reply

/-- The octets of the reply are octets at the front of the whole one, cut between two characters. -/
theorem decode?_take_wholeReply (command : Command) :
    Text.decode? ((Text.encode command.wholeReply.toList).take command.reply.utf8ByteSize) =
      some command.reply.toList := by
  rw [Text.utf8ByteSize_eq, Text.size, reply_eq_clip, Text.toList_clip, ← Text.encode_fit,
    Text.decode?_encode]

theorem reply_unknown_eq_iff (text : String) :
    (unknown text).reply = (unknown text).wholeReply ↔ text.utf8ByteSize ≤ 142 := by
  rw [reply_eq_clip, Text.clip_eq_self_iff, size_wholeReply_unknown, Text.utf8ByteSize_eq, textLimit]
  omega

end Command

theorem Spool.setText_ok {spool : Spool} {ref : Ref} {draft : Draft} {text : String}
    (hd : spool.draft? ref = some draft) (ht : Text.size text ≤ textLimit) :
    (spool.setText ref text).1 = .ok () := by
  simp only [setText, edit, hd, if_neg (Nat.not_lt.2 ht)]

namespace Gateway

variable {ε : Type} {g : Gateway ε}

/-- Sending a reply fails where it cannot be dialled or not be queued, and nowhere else. -/
theorem sendReply_eq (launch : Action → StateM (Machine ε) Report) (h : g.Reachable)
    (destination : String) (command : Command) :
    ((station launch).sendReply (Reply.compose destination command.reply) g).1 =
      if isDialable destination then
        (g.disk.queue g.spool.outbox (g.spool.lastId + 1)
          ⟨destination, command.reply, g.disk.now⟩).1.mapError (fun _ => .sending .general)
      else .error (.destination .badParameter) := by
  obtain ⟨log, hsend⟩ := (leads_sent launch h.bounded destination command.reply).run
  rw [Reply.compose_reply, Station.sendReply, hsend, sent]
  cases hd : isDialable destination with
  | false => rfl
  | true =>
    have ht : ¬ textLimit < Text.size command.reply := Nat.not_lt.2 command.size_reply
    rw [if_neg (by decide), if_neg ht, if_pos rfl]
    match g.disk.queue g.spool.outbox (g.spool.lastId + 1)
        ⟨destination, command.reply, g.disk.now⟩ with
    | (.ok (), disk) => rfl
    | (.error why, disk) => rfl

/-- Every reply is text of one message's length, cut at most once and between characters; the reply to
an unknown text is cut only if the text is longer than 142 octets. It goes out as it was composed: the
spool accepts it as the text of any message that was begun, and sending it fails only at the
destination or at the write. -/
theorem reply_cut_once :
    (∀ command : Command, command.reply.utf8ByteSize ≤ 160 ∧
      Text.decode? ((Text.encode command.wholeReply.toList).take command.reply.utf8ByteSize) =
        some command.reply.toList) ∧
    (∀ text, (Command.unknown text).reply = Text.clip ("Unknown command '" ++ text ++ "'") 160 ∧
      ((Command.unknown text).reply = "Unknown command '" ++ text ++ "'" ↔
        text.utf8ByteSize ≤ 142)) ∧
    (∀ destination (command : Command),
      Reply.compose destination command.reply = ⟨destination, command.reply⟩) ∧
    (∀ (spool : Spool) ref draft body, spool.draft? ref = some draft →
      (spool.setText ref (Command.parse body).reply).1 = .ok ()) ∧
    ∀ (ε : Type) (launch : Action → StateM (Machine ε) Report) (g : Gateway ε)
      (destination body : String), g.Reachable →
      let reply := Reply.compose destination (Command.parse body).reply
      ((station launch).sendReply reply g).1 =
        if isDialable destination then
          (g.disk.queue g.spool.outbox (g.spool.lastId + 1)
            ⟨destination, reply.text, g.disk.now⟩).1.mapError (fun _ => .sending .general)
        else .error (.destination .badParameter) := by
  refine ⟨fun command => ⟨command.utf8ByteSize_reply_le, command.decode?_take_wholeReply⟩,
    fun text => ⟨Command.reply_eq_clip _, Command.reply_unknown_eq_iff text⟩, Reply.compose_reply,
    fun spool ref draft body hd => Spool.setText_ok hd (Command.size_reply _), ?_⟩
  intro ε launch g destination body h
  dsimp only
  rw [sendReply_eq launch h, Reply.compose_reply]

/-- A text of 81 characters of two octets is cut behind the seventy-first: the first cut takes the last
character, and the second leaves one octet of the message free. -/
theorem reply_cut_once_odd :
    let body := String.ofList (List.replicate 81 'é')
    let g : Gateway Unit := opened ⟨Disk.emptySpool, [], ()⟩ Settings.below
    let reply := Reply.compose "+1" (Command.parse body).reply
    g.spool.create.2.draft? 1 = some {} ∧
      (g.spool.create.2.setText 1 (Command.parse body).reply).1 = .ok () ∧
      (Command.parse body).reply =
        "Unknown command '" ++ String.ofList (List.replicate 71 'é') ∧
      ((station (fun _ => pure ⟨[], .ok (.exited 0)⟩)).sendReply reply g).1 = .ok () := by
  intro body g reply
  obtain ⟨-, hunknown, -, htext, hsend⟩ := reply_cut_once
  have hc : Command.parse body = .unknown body := by
    rw [Command.parse, if_neg]
    rw [Text.size, String.toList_ofList]
    decide +kernel
  have hreply : (Command.parse body).reply =
      "Unknown command '" ++ String.ofList (List.replicate 71 'é') := by
    rw [hc, (hunknown body).1, ← String.toList_inj, Text.toList_clip]
    simp only [body, String.toList_append, String.toList_ofList]
    decide +kernel
  have hd : g.spool.create.2.draft? 1 = some {} := rfl
  refine ⟨hd, htext _ 1 _ body hd, hreply,
    (hsend Unit (fun _ => pure ⟨[], .ok (.exited 0)⟩) g "+1" body (.opened _ _)).trans ?_⟩
  have hdir : g.disk.locateDirectory g.spool.outbox = .ok ["outbox", "s"] := by decide +kernel
  have hfree : g.disk.isDirectory (Outgoing.fileName ⟨"+1", reply.text, g.disk.now⟩
      (g.spool.lastId + 1) :: ["outbox", "s"]) = false := by decide +kernel
  obtain ⟨disk, hq, -⟩ := Disk.queue_of_free (fun _ _ => rfl) hdir hfree
  rw [if_pos (by decide), hq]
  rfl

end Gateway

end BuoyGateway
