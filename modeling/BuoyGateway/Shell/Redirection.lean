import BuoyGateway.Shell.Expansion
import BuoyGateway.Shell.Stream

/-!
# Redirections

First the targets of all redirections are worked out, then they are made one after the other; if one
of them cannot be made, those before it are taken back. A document is worked out when it is its
turn.
-/

namespace BuoyGateway.Shell

inductive Redirected
  | file (descriptor : Nat) (opening : Opening) (path : String)
  | copy (descriptor : Nat) (source : Option Nat)
  | document (descriptor : Nat) (text : List Piece)

namespace Redirected

def descriptor : Redirected → Nat
  | .file d _ _ | .copy d _ | .document d _ => d

def openingFault (opening : Opening) (path : String) (e : SystemError) : String :=
  let isReading := opening == .reading
  let why := match e with
    | .notFound | .notDirectory => if isReading then "No such file" else "Directory nonexistent"
    | e => e.wording
  (if isReading then "cannot open " else "cannot create ") ++ path ++ ": " ++ why

variable (capture : Script → StateM Process (List Char))

/-- Complains about a descriptor that is none, which shows when the line of the command was read. -/
def badDescriptor {α : Type} : Expansion α := do
  modify (fun p => { p with line := p.readTo })
  Expansion.giveUp "Syntax error: Bad fd number"

def prepare : Redirection → Expansion Redirected
  | .file d opening path => do pure (.file d opening (← Expansion.text capture .front path))
  | .document d text => pure (.document d text)
  | .copy d source => do
    match (← Expansion.text capture .front source).toList with
    | ['-'] => pure (.copy d none)
    | [c] =>
      if c.isDigit then pure (.copy d (some (c.toNat - 48)))
      else badDescriptor
    | _ => badDescriptor

def make (r : Redirected) : StateM Process Bool := do
  let p ← get
  let fail (text : String) : StateM Process Bool := do
    modify (fun p => p.complain text)
    pure false
  match r with
  | .file d opening path =>
    match p.openPath opening path with
    | .ok (.inl stream, p) =>
      set (p.connect d (some stream))
      pure true
    | .ok (.inr stream, p) =>
      set (p.openStream d stream)
      pure true
    | .error e => fail (openingFault opening path e)
  | .copy d none =>
    set (p.connect d none)
    pure true
  | .copy d (some source) =>
    match p.descriptors.lookup source with
    | some stream =>
      set (p.connect d (some stream))
      pure true
    | none => fail (Signal.numeral source ++ ": Bad file descriptor")
  | .document d text =>
    match ← (Expansion.text capture .none text).run with
    | .error _ => pure false
    | .ok text =>
      modify (fun p => p.openStream d (.pipe [⟨p.clock, text.toList⟩] []))
      pure true

/-- Makes descriptors lead again where they led before; streams that were opened since then and that
nothing leads to are gone. -/
def takeBack (before : Process) (changed : List Nat) (p : Process) : Process :=
  let opened := (changed.filterMap (fun d => p.descriptors.lookup d)).filter
    (fun n => before.world.lastStream < n)
  let p := changed.foldl
    (fun (p : Process) d => p.connect d (before.descriptors.lookup d)) p
  let isLeft (n : Nat) : Bool := p.descriptors.any (fun entry => entry.2 = n)
  (opened.filter (fun n => !isLeft n)).foldl Process.dropStream p

def makeAll (rs : List Redirected) : StateM Process Bool := do
  let before ← get
  let isMade ← rs.foldlM (fun isMade r => if isMade then make capture r else pure false) true
  if !isMade then
    modify (fun p => { takeBack before (rs.map descriptor) p with status := 2 })
  pure isMade

end Redirected

end BuoyGateway.Shell
