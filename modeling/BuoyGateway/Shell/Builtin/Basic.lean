import BuoyGateway.Shell.Condition
import BuoyGateway.Shell.Stream

/-!
# What commands of the shell have in common

A command of the shell changes the process that runs the script. `Flow` is how the script goes on
after a command; `Builtin` is a command as a function of its arguments. Options stand in front of
the other arguments, as letters after a dash.
-/

namespace BuoyGateway.Shell

inductive Flow
  | next
  | leave
  | failed
  | back
  | stop (levels : Nat)
  /-- So many loops but one end, and that one takes its next turn. -/
  | again (levels : Nat)
  | killed (signal : Nat)
  deriving DecidableEq, Repr

abbrev Builtin := List String → StateM Process Flow

namespace Builtin

def done (code : Nat) : StateM Process Flow := do
  modify (fun p => { p with status := code })
  pure .next

def abort (text : String) : StateM Process Flow := do
  modify (fun p => { p.complain text with status := 2 })
  pure .failed

def warn (text : String) (code : Nat) : StateM Process Flow := do
  modify (fun p => p.complain text)
  done code

def emit (text : List Char) (code : Nat) : StateM Process Flow := do
  let p ← get
  match p.write 1 text with
  | .ok p =>
    set p
    done code
  | .error _ => warn ((p.context.getD "") ++ ": I/O error") (code ||| 1)

/-- The number that an argument spells, if it is one that the shell counts with. -/
def number? (s : String) : Option Nat :=
  match Condition.integer? s with
  | some n => if 0 ≤ n && n ≤ 2147483647 then some n.toNat else none
  | none => none

def withNumber (s : String) (f : Nat → StateM Process Flow) : StateM Process Flow :=
  match number? s with
  | some n => f n
  | none => abort ("Illegal number: " ++ s)

/-- The options at the front of some arguments, each with its own argument if it takes one, and the
other arguments. `letters` names the options; a colon follows those that take an argument. -/
def options (letters : List Char) : List (Char × String) → List String →
    Except String (List (Char × String) × List String)
  | found, [] => .ok (found.reverse, [])
  | found, word :: rest =>
    match word.toList with
    | ['-', '-'] => .ok (found.reverse, rest)
    | '-' :: c :: s =>
      let rec cluster : List (Char × String) → List Char →
          Except String (List (Char × String) × Option (Char × List Char))
        | found, [] => .ok (found, none)
        | found, c :: s =>
          match letters.dropWhile (fun d => d != c) with
          | [] => .error ("Illegal option -" ++ String.singleton c)
          | _ :: ':' :: _ => .ok (found, some (c, s))
          | _ => cluster ((c, "") :: found) s
      match cluster found (c :: s) with
      | .error e => .error e
      | .ok (found, none) => options letters found rest
      | .ok (found, some (c, s)) =>
        if s.isEmpty then
          match rest with
          | [] => .error ("No arg for -" ++ String.singleton c ++ " option")
          | a :: rest => options letters ((c, a) :: found) rest
        else options letters ((c, String.ofList s) :: found) rest
    | _ => .ok (found.reverse, word :: rest)

def withOptions (letters : String) (arguments : List String)
    (f : List (Char × String) → List String → StateM Process Flow) : StateM Process Flow :=
  match options letters.toList [] arguments with
  | .ok (found, rest) => f found rest
  | .error e => abort e

/-- Text in quotes that the shell reads as itself: what is no quote between single quotes, and
single quotes between double ones. Each step takes at least one character. -/
def quotedFrom : Nat → List Char → List Char
  | 0, _ => []
  | fuel + 1, s =>
    let plain := s.takeWhile (fun c => c != '\'')
    let rest := s.drop plain.length
    let quotes := rest.takeWhile (fun c => c = '\'')
    let after := rest.drop quotes.length
    '\'' :: plain ++ '\'' ::
      (if quotes.isEmpty then []
       else '"' :: quotes ++ '"' :: (if after.isEmpty then [] else quotedFrom fuel after))

def quoted (s : String) : String := String.ofList (quotedFrom (s.length + 1) s.toList)

end Builtin

end BuoyGateway.Shell
