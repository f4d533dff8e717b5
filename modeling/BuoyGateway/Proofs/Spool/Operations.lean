import BuoyGateway.Proofs.Disk.Changes
import BuoyGateway.Proofs.Spool.Home
import BuoyGateway.Spool.Modem

/-!
# The operations of a spool's modem

Deleting and sending touch the disk and the log only; an edit touches the drafts only. A deletion
removes one entry of the inbox or nothing.
-/

namespace BuoyGateway

theorem Spool.edit_snd (spool : Spool) (ref : Ref) (change : Draft → Except Fault Draft) :
    (spool.edit ref change).2 = { spool with drafts := (spool.edit ref change).2.drafts } := by
  unfold edit
  split
  · rfl
  · split <;> rfl

namespace Gateway

variable {ε : Type} {g : Gateway ε} {base name : String}

theorem delete_eq (g : Gateway ε) (ref : Ref) : delete ref g =
    match g.spool.received? ref with
    | none => (.error .notFound, g)
    | some message =>
      match (g.disk.locateDirectory g.spool.inbox).bind
          (fun dir => g.disk.removeAt (message.name :: dir)) with
      | .ok disk => (.ok (), g.withDisk disk)
      | .error e => (.error .general, g.note .warning
          ("Could not remove " ++ g.spool.inboxPath message.name ++ ": " ++ e.message)) := by
  cases hr : g.spool.received? ref with
  | none =>
    simp only [delete, bind, StateT.bind, get, getThe, MonadStateOf.get, StateT.get, pure, hr]
    rfl
  | some message =>
    cases hd : (g.disk.locateDirectory g.spool.inbox).bind
        (fun dir => g.disk.removeAt (message.name :: dir)) <;>
    · simp only [delete, bind, StateT.bind, get, getThe, MonadStateOf.get, StateT.get, pure, hr, hd]
      rfl

theorem send_eq (g : Gateway ε) (ref : Ref) : send ref g =
    match g.spool.finished ref with
    | .error fault => (.error fault, g)
    | .ok (destination, text) =>
      match g.disk.queue g.spool.outbox ref ⟨destination, text, g.disk.now⟩ with
      | (.ok (), disk) => (.ok (), g.withDisk disk)
      | (.error e, disk) => (.error .general, (g.withDisk disk).note .warning
          ("Could not queue message ref." ++ toString ref ++ ": " ++ (Failure.system e).message)) := by
  match hf : g.spool.finished ref with
  | .error fault =>
    simp only [send, bind, StateT.bind, get, getThe, MonadStateOf.get, StateT.get, pure, hf]
    rfl
  | .ok (destination, text) =>
    match hq : g.disk.queue g.spool.outbox ref ⟨destination, text, g.disk.now⟩ with
    | (.ok (), disk) =>
      simp only [send, bind, StateT.bind, get, getThe, MonadStateOf.get, StateT.get, pure, hf, hq]
      rfl
    | (.error e, disk) =>
      simp only [send, bind, StateT.bind, get, getThe, MonadStateOf.get, StateT.get, pure, hf, hq]
      rfl

theorem delete_spool (g : Gateway ε) (ref : Ref) : (delete ref g).2.spool = g.spool := by
  rw [delete_eq]
  split
  · rfl
  · split <;> rfl

theorem send_spool (g : Gateway ε) (ref : Ref) : (send ref g).2.spool = g.spool := by
  rw [send_eq]
  split
  · rfl
  · split <;> rfl

theorem delete_keeps (hs : g.spool.LiesIn base) (ref : Ref) (name : String) :
    Disk.Alike g.disk (delete ref g).2.disk ∧
      ∀ node, (delete ref g).2.disk.find? (name :: "inbox" :: g.disk.homeOf base) = some node →
        g.disk.find? (name :: "inbox" :: g.disk.homeOf base) = some node := by
  rw [delete_eq]
  split
  · exact ⟨Disk.Alike.refl _, fun _ => id⟩
  · next message hr =>
    split
    · next disk hd =>
      obtain ⟨dir, hdir, hremove⟩ := bind_eq_ok.1 hd
      rw [hs.inbox] at hdir
      obtain ⟨rfl, -, -⟩ := Disk.locateDirectory_part Disk.isPart_inbox hdir
      obtain ⟨-, rfl⟩ := Disk.removeAt_ok hremove
      refine ⟨(Disk.alike_erase _ _).trans (Disk.alike_stamp _ _), fun node hn => ?_⟩
      have hfind : ((g.disk.erase (message.name :: "inbox" :: g.disk.homeOf base)).stamp
          ("inbox" :: g.disk.homeOf base)).find? (name :: "inbox" :: g.disk.homeOf base) =
          some node := hn
      rw [Disk.find?_stamp_of_ne (List.cons_ne_self _ _),
        Disk.find?_erase _ (List.cons_ne_nil _ _)] at hfind
      exact (Option.ite_none_left_eq_some.1 hfind).2
    · exact ⟨Disk.Alike.refl _, fun _ => id⟩

end Gateway

end BuoyGateway
