import BuoyGateway.Shell.Rules.Evaluation
import BuoyGateway.Shell.Rules.Grammar

/-!
# Rules for records, as a utility

`awk` is given a program of rules and files, whose records it goes through.
-/

namespace BuoyGateway.Shell.Utility

open Rules

structure RuleCall where
  paths : List String := []
  separator : Option String := none
  values : List (String × String) := []
  version : Bool := false
  others : List String := []

def ruleAssignment? (word : String) : Option (String × String) :=
  let name := word.toList.takeWhile (fun c => c != '=')
  match name with
  | c :: _ =>
    if (c.isAlpha || c = '_') && name.all Token.isNamePart && name.length < word.length then
      some (String.ofList name, String.ofList (word.toList.drop (name.length + 1)))
    else none
  | [] => none

def ruleOptions (found : RuleCall) : List String → Except String RuleCall
  | [] => .ok found
  | word :: rest =>
    let take (c : Char) (value : String) : Except String RuleCall :=
      match c with
      | 'f' => .ok { found with paths := found.paths ++ [value] }
      | 'F' => .ok { found with separator := some value }
      | _ =>
        match ruleAssignment? value with
        | some v => .ok { found with values := found.values ++ [v] }
        | none => .error ("improper assignment: -v " ++ value)
    match word.toList with
    | ['-', '-'] => .ok { found with others := rest }
    | '-' :: c :: value =>
      if c = 'f' || c = 'F' || c = 'v' then
        match value, rest with
        | [], v :: rest => (take c v).bind (fun found => ruleOptions found rest)
        | [], [] => .error ("option -" ++ String.singleton c ++ " lacks argument")
        | value, rest =>
          (take c (String.ofList value)).bind (fun found => ruleOptions found rest)
      else if word = "--version" || word = "-Wversion" then .ok { found with version := true }
      else if c = 'W' && value.isEmpty && rest.head? = some "version" then
        .ok { found with version := true }
      else .error ("not an option: " ++ word)
    | _ => .ok { found with others := word :: rest }

def ruleMachine (p : Process) (name : String) (operands : List String) : Machine :=
  let settings : List (String × Value) :=
    [("FS", .text [' ']), ("OFS", .text [' ']), ("RS", .text ['\n']), ("ORS", .text ['\n']),
     ("SUBSEP", .text ['\x1c']), ("CONVFMT", .text "%.6g".toList), ("OFMT", .text "%.6g".toList),
     ("NR", .ofNat 0), ("FNR", .ofNat 0), ("RSTART", .ofNat 0), ("RLENGTH", .number (-1.0)),
     ("FILENAME", .text []), ("ARGC", .ofNat (operands.length + 1))]
  let m : Machine := settings.foldl (fun m s => m.setGlobal s.1 s.2) { process := p }
  let arguments := (name :: operands).zipIdx.foldl
    (fun (t : Table) (a : String × Nat) => t.set (.number a.2) (.input a.1.toList)) {}
  let visible := p.bindings.foldl
    (fun (t : Table) (b : String × Variable) => match b.2.value with
      | some v => t.set (.text b.1) (.input v.toList)
      | none => t) {}
  (m.setContent "ARGV" (.table arguments)).setContent "ENVIRON" (.table visible)

def runRules (call : Call) (c : Context) (program : Program) (m : Machine) :
    StateM Process Outcome := do
  let finish (m : Machine) : Except Halt Unit × Machine := (finishAll c).run.run m
  let say (text : String) (m : Machine) : Machine :=
    { m with process := m.process.say 2 (call.name ++ ": " ++ text).toList }
  let closing (m : Machine) (code : Nat) : Machine × Outcome :=
    match finish m with
    | (.error (.failed text), m) => ((Machine.release.run.run (say (text ++ "\n") m)).2, .exited 2)
    | (_, m) => (m, .exited code)
  let (result, m) := (program.carryOut c).run.run m
  let (m, outcome) := match result with
    | .error (.fault text) =>
      closing (say ("run time error: " ++ text ++ "\n" ++ m.whereabouts) m) 2
    | .error (.failed text) => closing (say (text ++ "\n") m) 2
    | .error .endless => (m, Outcome.killed Signal.watchdog)
    | _ => closing m m.code
  set m.process
  pure outcome

def awk : Utility := fun run call => do
  match ruleOptions {} call.arguments with
  | .error e => fail call e 2
  | .ok given =>
    if given.version then emit call "mawk 1.3.4 20240123\n".toList 0
    else
      let step (acc : Except String (List Char)) (path : String) :
          StateM Process (Except String (List Char)) := do
        match acc with
        | .error e => pure (.error e)
        | .ok text =>
          match ← readFile path with
          | .ok more => pure (.ok (text ++ more))
          | .error e => pure (.error ("cannot open \"" ++ path ++ "\" (" ++ e.wording ++ ")"))
      let named ← given.paths.foldlM step (.ok [])
      let (text, operands) : Except String (List Char) × List String :=
        match given.paths, given.others with
        | [], program :: operands => (.ok program.toList, operands)
        | _, operands => (named, operands)
      match text with
      | .error e => fail call e 2
      | .ok text =>
        let front := match given.paths with
          | [] => ""
          | path :: _ => path ++ ": "
        match Program.read text with
        | .error faults =>
          for e in faults do
            complain call (front ++ e)
          exited 2
        | .ok program =>
          let c : Context := ⟨run, program.functions⟩
          let m := ruleMachine (← get) call.name operands
          let start : Act Unit := do
            match given.separator with
            | some s => assignText "FS" s
            | none => pure ()
            for v in given.values do
              assignText v.1 v.2
          let (_, m) := start.run.run m
          runRules call c program m

end BuoyGateway.Shell.Utility
