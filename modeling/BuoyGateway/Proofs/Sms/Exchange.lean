import BuoyGateway.Sms.Handling

/-!
# Recorded stations

A recorded station does what its station does and keeps a list of the calls that were made on its
modem and its launcher, each with the answer it got. `Station.Performs` says of an operation what
it calls from every state, and that the recording changes nothing else; operations are put together
by `Performs.bind`.
-/

namespace BuoyGateway

inductive Exchange
  | subscribe (topic : Topic) (answer : Option Handle)
  | unsubscribe (topic : Topic) (handle : Handle)
  | format (ref : Ref) (answer : MessageFormat)
  | sender (ref : Ref) (answer : Except Fault String)
  | timestamp (ref : Ref) (answer : Except Fault String)
  | text (ref : Ref) (answer : Except Fault String)
  | delete (ref : Ref) (answer : Except Fault Unit)
  | release (ref : Ref)
  | create (answer : Option Ref)
  | setDestination (ref : Ref) (destination : String) (answer : Except Fault Unit)
  | setText (ref : Ref) (text : String) (answer : Except Fault Unit)
  | send (ref : Ref) (answer : Except Fault Unit)
  | launch (action : Action)

namespace Station

variable {σ α β : Type}

def noted (call : α → Exchange) (m : StateM σ α) : StateM (σ × List Exchange) α := fun s =>
  ((m s.1).1, (m s.1).2, s.2 ++ [call (m s.1).1])

theorem noted_of_eq {call : α → Exchange} {m : StateM σ α} {s s' : σ} {a : α} (h : m s = (a, s'))
    (past : List Exchange) : noted call m (s, past) = (a, s', past ++ [call a]) := by
  rw [noted, h]

def unnoted (m : StateM σ α) : StateM (σ × List Exchange) α := fun s =>
  ((m s.1).1, (m s.1).2, s.2)

/-- The station with a list of the calls made. Log entries are no calls. -/
def recorded (st : Station σ) : Station (σ × List Exchange) where
  launch action := noted (fun _ => .launch action) (st.launch action)
  log entry := unnoted (st.log entry)
  modem :=
    { subscribe := fun topic => noted (.subscribe topic) (st.modem.subscribe topic)
      unsubscribe := fun topic handle =>
        noted (fun _ => .unsubscribe topic handle) (st.modem.unsubscribe topic handle)
      format := fun ref => noted (.format ref) (st.modem.format ref)
      sender := fun ref => noted (.sender ref) (st.modem.sender ref)
      timestamp := fun ref => noted (.timestamp ref) (st.modem.timestamp ref)
      text := fun ref => noted (.text ref) (st.modem.text ref)
      delete := fun ref => noted (.delete ref) (st.modem.delete ref)
      release := fun ref => noted (fun _ => .release ref) (st.modem.release ref)
      create := noted .create st.modem.create
      setDestination := fun ref destination =>
        noted (.setDestination ref destination) (st.modem.setDestination ref destination)
      setText := fun ref text => noted (.setText ref text) (st.modem.setText ref text)
      send := fun ref => noted (.send ref) (st.modem.send ref) }

/-- From every state, the recorded operation `m` does what `n` does, and what it calls and returns
satisfies `calls`. -/
def Performs (m : StateM (σ × List Exchange) α) (n : StateM σ α)
    (calls : List Exchange → α → Prop) : Prop :=
  ∀ (s : σ) (past : List Exchange), ∃ made,
    m (s, past) = ((n s).1, (n s).2, past ++ made) ∧ calls made (n s).1

theorem performs_pure {a : α} {calls : List Exchange → α → Prop} (h : calls [] a) :
    Performs (pure a) (pure a : StateM σ α) calls := by
  intro s past
  refine ⟨[], ?_, h⟩
  rw [List.append_nil]
  rfl

theorem performs_noted (call : α → Exchange) (m : StateM σ α) :
    Performs (noted call m) m (fun made a => made = [call a]) :=
  fun s _ => ⟨[call (m s).1], rfl, rfl⟩

theorem performs_unnoted (m : StateM σ α) :
    Performs (unnoted m) m (fun made _ => made = []) := by
  intro s past
  refine ⟨[], ?_, rfl⟩
  rw [List.append_nil]
  rfl

theorem Performs.mono {m : StateM (σ × List Exchange) α} {n : StateM σ α}
    {calls calls' : List Exchange → α → Prop} (h : Performs m n calls)
    (hc : ∀ made a, calls made a → calls' made a) : Performs m n calls' := by
  intro s past
  obtain ⟨made, hm, hmade⟩ := h s past
  exact ⟨made, hm, hc _ _ hmade⟩

/-- What is left to call after a first operation decides whether both call as they should. -/
theorem Performs.bind {m : StateM (σ × List Exchange) α} {n : StateM σ α}
    {f : α → StateM (σ × List Exchange) β} {g : α → StateM σ β}
    {first : List Exchange → α → Prop} {calls : List Exchange → β → Prop}
    (hm : Performs m n first)
    (hf : ∀ made a, first made a → Performs (f a) (g a) (fun more b => calls (made ++ more) b)) :
    Performs (m >>= f) (n >>= g) calls := by
  intro s past
  obtain ⟨made, hmade, h₁⟩ := hm s past
  obtain ⟨more, hmore, h₂⟩ := hf made (n s).1 h₁ (n s).2 (past ++ made)
  refine ⟨made ++ more, ?_, h₂⟩
  change f (m (s, past)).1 (m (s, past)).2 = _
  rw [hmade, hmore, List.append_assoc]
  rfl

theorem performs_info (st : Station σ) (text : String) :
    Performs (st.recorded.info text) (st.info text) (fun made _ => made = []) :=
  performs_unnoted _

theorem performs_warn (st : Station σ) (text : String) :
    Performs (st.recorded.warn text) (st.warn text) (fun made _ => made = []) :=
  performs_unnoted _

theorem performs_error (st : Station σ) (text : String) :
    Performs (st.recorded.error text) (st.error text) (fun made _ => made = []) :=
  performs_unnoted _

theorem performs_release (st : Station σ) (ref : Ref) :
    Performs (st.recorded.modem.release ref) (st.modem.release ref)
      (fun made _ => made = [.release ref]) :=
  performs_noted (fun _ => .release ref) _

theorem performs_lines (st : Station σ) (lines : List String) :
    Performs (lines.forM (fun line => st.recorded.info ("script output: '" ++ line ++ "'")))
      (lines.forM (fun line => st.info ("script output: '" ++ line ++ "'")))
      (fun made _ => made = []) := by
  induction lines with
  | nil => exact performs_pure rfl
  | cons line lines ih =>
    refine (performs_info st _).bind ?_
    rintro made a rfl
    exact ih

end Station

end BuoyGateway
