import BuoyGateway.Shell.Rules.Value
import Std.Data.HashMap

/-!
# Tables

A table holds values under keys, which are texts. Keys are kept in chains: one is in the chain that
its hash says, and a key that is a whole number may be in a chain of numbers beside that. A key that
is looked for goes to the front of its chain. The order of the chains is the order in which a loop
goes through the keys.
-/

namespace BuoyGateway.Shell.Rules

inductive Key
  | number (n : Int)
  | text (s : String)

structure Table where
  values : Std.HashMap String Value := {}
  chains : Std.HashMap Nat (List String) := {}
  /-- The keys that are whole numbers, by what is left of them when they are divided. -/
  numbers : Std.HashMap Nat (List Int) := {}
  width : Nat := 64
  hashed : Bool := false

namespace Table

def textOf : Key → String
  | .number n => Decimal.text n
  | .text s => s

def hashOf (key : String) : Nat :=
  (key.toList.foldl
    (fun (h : UInt32) (c : Char) => (h ^^^ UInt32.ofNat c.toNat) * 16777619) 2166136261).toNat

def size (t : Table) : Nat := t.values.size

def slot (t : Table) (key : String) : Nat := hashOf key % t.width

def numberSlot (t : Table) (n : Int) : Nat := (n % t.width).toNat

def toFront (t : Table) (key : String) : Table :=
  let slot := t.slot key
  { t with
    hashed := true
    chains := t.chains.insert slot (key :: ((t.chains.getD slot []).erase key)) }

def numberToFront (t : Table) (n : Int) : Table :=
  let slot := t.numberSlot n
  { t with numbers := t.numbers.insert slot (n :: ((t.numbers.getD slot []).erase n)) }

def withHashes (t : Table) : Table :=
  let numbers := (List.range t.width).flatMap (fun slot => t.numbers.getD slot [])
  let step (t : Table) (n : Int) : Table :=
    let key := Decimal.text n
    if (t.chains.getD (t.slot key) []).contains key then t else t.toFront key
  if t.hashed then t else { numbers.foldl step t with hashed := true }

/-- Makes room for one more key: there are twice as many chains when they get too long. -/
def grown (t : Table) : Table :=
  if t.size < 12 * t.width then t
  else
    let wide : Table := { values := t.values, width := 2 * t.width, hashed := t.hashed }
    let keys := (List.range t.width).flatMap (fun slot => t.chains.getD slot [])
    let numbers := (List.range t.width).flatMap (fun slot => t.numbers.getD slot [])
    let wide := numbers.reverse.foldl numberToFront wide
    { keys.reverse.foldl toFront wide with hashed := t.hashed }

/-- The table after a key was looked for by its text, and whether it is there; one that is wanted is
put in. -/
def lookUpText (t : Table) (key : String) (wanted : Bool) : Table × Bool :=
  let t := t.withHashes
  if t.values.contains key then (t.toFront key, true)
  else if wanted then
    let t := t.grown
    ({ t with values := t.values.insert key .missing }.toFront key, true)
  else (t, false)

/-- The table after a key was looked for, and whether it is there; one that is wanted is put in. -/
def lookUp (t : Table) (key : Key) (wanted : Bool) : Table × Bool :=
  match key with
  | .text s => t.lookUpText s wanted
  | .number n =>
    if (t.numbers.getD (t.numberSlot n) []).contains n then (t.numberToFront n, true)
    else if t.hashed then
      let (t, found) := t.lookUpText (Decimal.text n) wanted
      (if found then t.numberToFront n else t, found)
    else if wanted then
      let t := t.grown
      ({ t with values := t.values.insert (Decimal.text n) .missing }.numberToFront n, true)
    else (t, false)

def get (t : Table) (key : Key) : Value := t.values.getD (textOf key) .missing

def set (t : Table) (key : Key) (v : Value) : Table :=
  let (t, _) := t.lookUp key true
  { t with values := t.values.insert (textOf key) v }

def erase (t : Table) (key : Key) : Table :=
  let s := textOf key
  let (t, found) := t.lookUp key false
  if !found then t
  else
    let rest := t.values.erase s
    if rest.isEmpty then {}
    else
      let slot := t.slot s
      let t := { t with values := rest, chains := t.chains.modify slot (fun l => l.erase s) }
      match s.toInt? with
      | some n =>
        { t with numbers := t.numbers.modify (t.numberSlot n) (fun l => l.erase n) }
      | none => t

/-- The table before a loop goes through its keys, and the keys in their order. -/
def keys (t : Table) : Table × List String :=
  let t := t.withHashes
  (t, (List.range t.width).flatMap (fun slot => t.chains.getD slot []))

def ofList (values : List Value) : Table :=
  values.zipIdx.foldl (fun (t : Table) (v : Value × Nat) => t.set (.number (v.2 + 1)) v.1) {}

end Table

end BuoyGateway.Shell.Rules
