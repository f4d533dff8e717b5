import BuoyGateway.Sms.Handling
import BuoyGateway.Proofs.Spool.Operations

/-!
# Sending from the spool

Sending takes the next number of the spool for a message, and gives the message up at the end. A
destination that cannot be dialled uses up a number; a message that can be sent is queued under it.
`Leads` says where an operation leads a gateway whatever the log is, so that what is logged on the
way is left out of account.
-/

namespace BuoyGateway

namespace Spool

variable {spool : Spool} {draft : Draft}

/-- Every number in use has been given. -/
structure Bounded (spool : Spool) : Prop where
  received : ∀ entry ∈ spool.received, entry.1 ≤ spool.lastId
  drafts : ∀ entry ∈ spool.drafts, entry.1 ≤ spool.lastId

def withDraft (spool : Spool) (draft : Draft) : Spool :=
  { spool with
    lastId := spool.lastId + 1
    drafts := (spool.lastId + 1, draft) :: spool.drafts }

theorem filter_of_bounded {α : Type} {entries : List (Ref × α)} {last : Nat}
    (h : ∀ entry ∈ entries, entry.1 ≤ last) :
    entries.filter (fun entry => entry.1 != last + 1) = entries := by
  rw [List.filter_eq_self]
  intro entry he
  rw [bne_iff_ne]
  intro hn
  have hle := h entry he
  rw [hn] at hle
  exact Nat.not_succ_le_self last hle

theorem edit_withDraft (hb : spool.Bounded) (change : Draft → Except Fault Draft) :
    (spool.withDraft draft).edit (spool.lastId + 1) change =
      match change draft with
      | .error fault => (.error fault, spool.withDraft draft)
      | .ok draft => (.ok (), spool.withDraft draft) := by
  have hd : (spool.withDraft draft).draft? (spool.lastId + 1) = some draft := by
    simp [draft?, withDraft]
  have hf := filter_of_bounded hb.drafts
  simp only [edit, hd]
  cases change draft with
  | error fault => rfl
  | ok draft => simp [withDraft, hf]

theorem setDestination_withDraft (hb : spool.Bounded) {destination : String}
    (hd : isDialable destination = true) :
    (spool.withDraft draft).setDestination (spool.lastId + 1) destination =
      (.ok (), spool.withDraft { draft with destination := some destination }) := by
  rw [setDestination, edit_withDraft hb]
  simp only [hd, ↓reduceIte]

theorem setDestination_withDraft_of_not_dialable (hb : spool.Bounded) {destination : String}
    (hd : isDialable destination = false) :
    (spool.withDraft draft).setDestination (spool.lastId + 1) destination =
      (.error .badParameter, spool.withDraft draft) := by
  rw [setDestination, edit_withDraft hb]
  simp only [hd, Bool.false_eq_true, ↓reduceIte]

theorem setText_withDraft (hb : spool.Bounded) {text : String} (ht : Text.size text ≤ textLimit) :
    (spool.withDraft draft).setText (spool.lastId + 1) text =
      (.ok (), spool.withDraft { draft with text := some text }) := by
  rw [setText, edit_withDraft hb]
  simp only [Nat.not_lt.2 ht, ↓reduceIte]

theorem setText_withDraft_of_overflow (hb : spool.Bounded) {text : String}
    (ht : textLimit < Text.size text) :
    (spool.withDraft draft).setText (spool.lastId + 1) text =
      (.error .overflow, spool.withDraft draft) := by
  rw [setText, edit_withDraft hb]
  simp only [ht, ↓reduceIte]

theorem release_withDraft (hb : spool.Bounded) :
    (spool.withDraft draft).release (spool.lastId + 1) =
      { spool with lastId := spool.lastId + 1 } := by
  simp [release, withDraft, filter_of_bounded hb.received, filter_of_bounded hb.drafts]

theorem finished_withDraft (spool : Spool) (destination text : String) :
    (spool.withDraft ⟨some destination, some text⟩).finished (spool.lastId + 1) =
      .ok (destination, text) := by
  simp [finished, draft?, withDraft]

end Spool

namespace Gateway

variable {ε α β : Type} {g g' g'' : Gateway ε} {ref : Ref}

def logged (g : Gateway ε) (log : List LogEntry) : Gateway ε :=
  { g with machine := { g.machine with log } }

/-- Whatever the log is, the operation leads from one gateway to the other, but for the log. -/
def Leads (m : StateM (Gateway ε) α) (g : Gateway ε) (a : α) (g' : Gateway ε) : Prop :=
  ∀ log, ∃ log', m (g.logged log) = (a, g'.logged log')

theorem Leads.run {m : StateM (Gateway ε) α} {a : α} (h : Leads m g a g') :
    ∃ log, m g = (a, g'.logged log) := h g.machine.log

theorem leads_pure (a : α) (g : Gateway ε) : Leads (pure a) g a g := fun log => ⟨log, rfl⟩

theorem Leads.bind {m : StateM (Gateway ε) α} {f : α → StateM (Gateway ε) β} {a : α} {b : β}
    (hm : Leads m g a g') (hf : Leads (f a) g' b g'') : Leads (m >>= f) g b g'' := by
  intro log
  obtain ⟨log', hm⟩ := hm log
  obtain ⟨log'', hf⟩ := hf log'
  exact ⟨log'', (bind_of_eq hm).trans hf⟩

theorem leads_onSpool {f : Spool → α × Spool} {a : α} {spool : Spool} (h : f g.spool = (a, spool)) :
    Leads (onSpool f) g a { g with spool } := by
  intro log
  refine ⟨log, ?_⟩
  change ((f g.spool).1, ({ g with spool := (f g.spool).2 } : Gateway ε).logged log) = _
  rw [h]

variable (launch : Action → StateM (Machine ε) Report)

theorem leads_info (text : String) (g : Gateway ε) : Leads ((station launch).info text) g () g :=
  fun log => ⟨log ++ [⟨.info, text⟩], rfl⟩

theorem leads_warn (text : String) (g : Gateway ε) : Leads ((station launch).warn text) g () g :=
  fun log => ⟨log ++ [⟨.warning, text⟩], rfl⟩

theorem leads_error (text : String) (g : Gateway ε) : Leads ((station launch).error text) g () g :=
  fun log => ⟨log ++ [⟨.error, text⟩], rfl⟩

theorem leads_readPart (operation : String) (shown : String → String)
    (answer : Except Fault String) (g : Gateway ε) :
    Leads ((station launch).readPart operation shown answer) g answer.toOption g := by
  cases answer with
  | ok value => exact (leads_info launch _ g).bind (leads_pure _ g)
  | error fault => exact (leads_error launch _ g).bind (leads_pure _ g)

theorem leads_check (step : String) (failure : Fault → SendFailure) (answer : Except Fault Unit)
    (g : Gateway ε) :
    Leads ((station launch).check step failure answer) g (answer.mapError failure) g := by
  cases answer with
  | ok _ => exact leads_pure _ g
  | error fault => exact (leads_error launch _ g).bind (leads_pure _ g)

/-! ### Sending -/

theorem leads_create (g : Gateway ε) : Leads (station launch).modem.create g
    (some (g.spool.lastId + 1)) { g with spool := g.spool.withDraft {} } := fun log => ⟨log, rfl⟩

theorem leads_release (ref : Ref) (g : Gateway ε) :
    Leads ((station launch).modem.release ref) g () { g with spool := g.spool.release ref } :=
  fun log => ⟨log, rfl⟩

theorem leads_setDestination {destination : String} {answer : Except Fault Unit} {spool : Spool}
    (h : g.spool.setDestination ref destination = (answer, spool)) :
    Leads ((station launch).modem.setDestination ref destination) g answer { g with spool } :=
  leads_onSpool (f := fun spool => spool.setDestination ref destination) h

theorem leads_setText {text : String} {answer : Except Fault Unit} {spool : Spool}
    (h : g.spool.setText ref text = (answer, spool)) :
    Leads ((station launch).modem.setText ref text) g answer { g with spool } :=
  leads_onSpool (f := fun spool => spool.setText ref text) h

theorem leads_send {destination text : String} {disk : Disk}
    (hf : g.spool.finished ref = .ok (destination, text))
    (hq : g.disk.queue g.spool.outbox ref ⟨destination, text, g.disk.now⟩ = (.ok (), disk)) :
    Leads ((station launch).modem.send ref) g (.ok ()) (g.withDisk disk) := by
  intro log
  refine ⟨log, ?_⟩
  have hf' : (g.logged log).spool.finished ref = .ok (destination, text) := hf
  have hq' : (g.logged log).disk.queue (g.logged log).spool.outbox ref
      ⟨destination, text, (g.logged log).disk.now⟩ = (.ok (), disk) := hq
  change send ref (g.logged log) = _
  rw [send_eq]
  simp only [hf', hq']
  rfl

theorem leads_send_of_unqueued {destination text : String} {why : SystemError} {disk : Disk}
    (hf : g.spool.finished ref = .ok (destination, text))
    (hq : g.disk.queue g.spool.outbox ref ⟨destination, text, g.disk.now⟩ = (.error why, disk)) :
    Leads ((station launch).modem.send ref) g (.error .general) (g.withDisk disk) := by
  intro log
  refine ⟨log ++ [⟨.warning, "Could not queue message ref." ++ toString ref ++ ": " ++
    (Failure.system why).message⟩], ?_⟩
  have hf' : (g.logged log).spool.finished ref = .ok (destination, text) := hf
  have hq' : (g.logged log).disk.queue (g.logged log).spool.outbox ref
      ⟨destination, text, (g.logged log).disk.now⟩ = (.error why, disk) := hq
  change send ref (g.logged log) = _
  rw [send_eq]
  simp only [hf', hq']
  rfl

/-- Where a destination cannot be dialled, a number is used up and nothing else happens. -/
theorem leads_sendMessage_of_not_dialable {destination : String} (hb : g.spool.Bounded)
    (hd : isDialable destination = false) (text : String) :
    Leads ((station launch).sendMessage destination text) g (.error (.destination .badParameter))
      { g with spool := { g.spool with lastId := g.spool.lastId + 1 } } := by
  have hset := leads_setDestination launch (g := { g with spool := g.spool.withDraft {} })
    (Spool.setDestination_withDraft_of_not_dialable hb hd)
  have hrelease := leads_release launch (g.spool.lastId + 1)
    { g with spool := g.spool.withDraft {} }
  simp only [Spool.release_withDraft hb] at hrelease
  refine (leads_create launch g).bind (Leads.bind ?_ (hrelease.bind (leads_pure _ _)))
  exact hset.bind ((leads_check launch _ _ _ _).bind (leads_pure _ _))

/-- Where a text does not fit, a number is used up and nothing else happens. -/
theorem leads_sendMessage_of_overflow {destination text : String} (hb : g.spool.Bounded)
    (hd : isDialable destination = true) (ht : textLimit < Text.size text) :
    Leads ((station launch).sendMessage destination text) g (.error (.text .overflow))
      { g with spool := { g.spool with lastId := g.spool.lastId + 1 } } := by
  have hdestination := leads_setDestination launch (g := { g with spool := g.spool.withDraft {} })
    (Spool.setDestination_withDraft hb hd)
  have htext := leads_setText launch
    (g := { g with spool := g.spool.withDraft ⟨some destination, none⟩ })
    (Spool.setText_withDraft_of_overflow hb ht)
  have hrelease := leads_release launch (g.spool.lastId + 1)
    { g with spool := g.spool.withDraft ⟨some destination, none⟩ }
  simp only [Spool.release_withDraft hb] at hrelease
  refine (leads_create launch g).bind (Leads.bind ?_ (hrelease.bind (leads_pure _ _)))
  refine hdestination.bind ((leads_check launch _ _ _ _).bind ?_)
  exact htext.bind ((leads_check launch _ _ _ _).bind (leads_pure _ _))

/-- A message that can be dialled, and fits, is handed to the outbox under the next number; the
answer is what comes of it there. -/
theorem leads_sendMessage_queue {destination text : String} {answer : Except Fault Unit}
    {disk : Disk} (hb : g.spool.Bounded) (hd : isDialable destination = true)
    (ht : Text.size text ≤ textLimit)
    (hsend : Leads ((station launch).modem.send (g.spool.lastId + 1))
      { g with spool := g.spool.withDraft ⟨some destination, some text⟩ } answer
      { g.withDisk disk with spool := g.spool.withDraft ⟨some destination, some text⟩ }) :
    Leads ((station launch).sendMessage destination text) g (answer.mapError .sending)
      { g.withDisk disk with spool := { g.spool with lastId := g.spool.lastId + 1 } } := by
  have hdestination := leads_setDestination launch (g := { g with spool := g.spool.withDraft {} })
    (Spool.setDestination_withDraft hb hd)
  have htext := leads_setText launch
    (g := { g with spool := g.spool.withDraft ⟨some destination, none⟩ })
    (Spool.setText_withDraft hb ht)
  have hrelease := leads_release launch (g.spool.lastId + 1)
    { g.withDisk disk with spool := g.spool.withDraft ⟨some destination, some text⟩ }
  simp only [Spool.release_withDraft hb] at hrelease
  refine (leads_create launch g).bind (Leads.bind ?_ (hrelease.bind (leads_pure _ _)))
  refine hdestination.bind ((leads_check launch _ _ _ _).bind ?_)
  refine htext.bind ((leads_check launch _ _ _ _).bind ?_)
  refine hsend.bind ((leads_check launch _ _ _ _).bind ?_)
  cases answer with
  | ok _ => exact (leads_info launch _ _).bind (leads_pure _ _)
  | error fault => exact leads_pure _ _

/-- A message that can be dialled, and fits, is queued under the next number. -/
theorem leads_sendMessage {destination text : String} {disk : Disk} (hb : g.spool.Bounded)
    (hd : isDialable destination = true) (ht : Text.size text ≤ textLimit)
    (hq : g.disk.queue g.spool.outbox (g.spool.lastId + 1) ⟨destination, text, g.disk.now⟩ =
      (.ok (), disk)) :
    Leads ((station launch).sendMessage destination text) g (.ok ())
      { g.withDisk disk with spool := { g.spool with lastId := g.spool.lastId + 1 } } := by
  exact leads_sendMessage_queue launch hb hd ht (leads_send launch
    (g := { g with spool := g.spool.withDraft ⟨some destination, some text⟩ })
    (Spool.finished_withDraft g.spool destination text) hq)

/-- What a call to send a message answers, and the disk after it. The first step that fails is the
answer. -/
def sent (g : Gateway ε) (destination text : String) : Except SendFailure Unit × Disk :=
  if isDialable destination = false then (.error (.destination .badParameter), g.disk)
  else if textLimit < Text.size text then (.error (.text .overflow), g.disk)
  else
    match g.disk.queue g.spool.outbox (g.spool.lastId + 1) ⟨destination, text, g.disk.now⟩ with
    | (.ok (), disk) => (.ok (), disk)
    | (.error _, disk) => (.error (.sending .general), disk)

theorem leads_sent (hb : g.spool.Bounded) (destination text : String) :
    Leads ((station launch).sendMessage destination text) g (g.sent destination text).1
      { g.withDisk (g.sent destination text).2 with
        spool := { g.spool with lastId := g.spool.lastId + 1 } } := by
  unfold sent
  by_cases hd : isDialable destination = false
  · rw [if_pos hd]
    exact leads_sendMessage_of_not_dialable launch hb hd text
  rw [if_neg hd]
  rw [Bool.not_eq_false] at hd
  by_cases ht : textLimit < Text.size text
  · rw [if_pos ht]
    exact leads_sendMessage_of_overflow launch hb hd ht
  rw [if_neg ht]
  match hq : g.disk.queue g.spool.outbox (g.spool.lastId + 1) ⟨destination, text, g.disk.now⟩ with
  | (.ok (), disk) => exact leads_sendMessage launch hb hd (Nat.not_lt.1 ht) hq
  | (.error why, disk) =>
    exact leads_sendMessage_queue launch hb hd (Nat.not_lt.1 ht) (leads_send_of_unqueued launch
      (g := { g with spool := g.spool.withDraft ⟨some destination, some text⟩ })
      (Spool.finished_withDraft g.spool destination text) hq)

end Gateway

end BuoyGateway
