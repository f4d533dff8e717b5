import BuoyGateway.Shell.Builtin.Basic

/-!
# Commands that lead the script

They end loops, functions and the script, drop arguments and turn switches.
-/

namespace BuoyGateway.Shell.Builtin

def exit : Builtin := fun arguments => do
  match arguments with
  | [] =>
    modify (fun p => { p with status := p.savedStatus.getD p.status })
    pure .leave
  | a :: _ => withNumber a (fun n => do
    modify (fun p => { p with status := n })
    pure .leave)

def return' : Builtin := fun arguments => do
  match arguments with
  | [] => pure .back
  | a :: _ => withNumber a (fun n => do
    modify (fun p => { p with status := n })
    pure .back)

def leaveLoops (flow : Nat → Flow) : Builtin := fun arguments =>
  let a := arguments.headD "1"
  withNumber a (fun n => do
    if n = 0 then abort ("Illegal number: " ++ a)
    else
      let loops := (← get).loops
      modify (fun p => { p with status := 0 })
      pure (if loops = 0 then .next else flow (min n loops)))

def break' : Builtin := leaveLoops .stop

def continue' : Builtin := leaveLoops .again

def shift : Builtin := fun arguments =>
  withNumber (arguments.headD "1") (fun n => do
    if (← get).arguments.length < n then abort "can't shift that many"
    else
      modify (fun p => { p with arguments := p.arguments.drop n, optionPlace := (1, none) })
      done 0)

/-- Turns the switches that letters stand for. The letter `o` takes the name of a switch from the
arguments that follow, or says which switches are on if there are none. -/
def turnLetters (commandLine on : Bool) : Process → List Char → List String →
    Except (String × Process) (Process × List String)
  | p, [], rest => .ok (p, rest)
  | p, 'o' :: s, [] =>
    let text := if on then Switch.listing p.switches else Switch.commands p.switches
    turnLetters commandLine on (p.say 1 text.toList) s []
  | p, 'o' :: s, name :: rest =>
    match Switch.ofName? name with
    | some switch => turnLetters commandLine on (p.turn switch on) s rest
    | none => .error ("Illegal option -o " ++ name, p)
  | p, c :: s, rest =>
    match Switch.ofLetter? c with
    | some switch => turnLetters commandLine on (p.turn switch on) s rest
    | none =>
      if commandLine && c = 'c' then turnLetters commandLine on p s rest
      else .error ("Illegal option -" ++ String.singleton c, p)

/-- The switches that arguments turn, and what is left of the arguments: none if there is nothing to
put in the place of the arguments of the script. Each step takes at least one argument. -/
def switchesFrom (commandLine : Bool) : Nat → Process → List String →
    Except (String × Process) (Process × Option (List String))
  | 0, p, _ | _, p, [] => .ok (p, none)
  | steps + 1, p, word :: rest =>
    let clustered (on : Bool) (s : List Char) :
        Except (String × Process) (Process × Option (List String)) := do
      let (p, rest) ← turnLetters commandLine on p s rest
      switchesFrom commandLine steps p rest
    match word.toList with
    | ['-'] =>
      let p := if commandLine then p else (p.turn .trace false).turn .verbose false
      .ok (p, if rest.isEmpty && !commandLine then none else some rest)
    | ['-', '-'] => .ok (p, some rest)
    | '-' :: s => clustered true s
    | '+' :: s => clustered false s
    | _ => .ok (p, some (word :: rest))

def switches (commandLine : Bool) (p : Process) (arguments : List String) :
    Except (String × Process) (Process × Option (List String)) :=
  switchesFrom commandLine arguments.length p arguments

/-- The variables, or those that are `wanted`, as commands that make them what they are. -/
def variableListing (p : Process) (lead : String) (wanted : Variable → Bool) : String :=
  let all := (p.bindings.filter (fun v => wanted v.2)).mergeSort (fun a b => decide (a.1 ≤ b.1))
  String.join (all.map (fun (name, v) =>
    lead ++ name ++ (match v.value with
      | some value => "=" ++ quoted value
      | none => "") ++ "\n"))

def set' : Builtin := fun arguments => do
  let p ← get
  if arguments.isEmpty then
    emit (variableListing p "" (fun v => v.value.isSome)).toList 0
  else
    match switches false p arguments with
    | .error (e, p) =>
      set p
      abort e
    | .ok (p, rest) =>
      set (match rest with
        | some arguments => { p with arguments := arguments, optionPlace := (1, none) }
        | none => p)
      done 0

def times : Builtin := fun _ =>
  emit "0m0.000000s 0m0.000000s\n0m0.000000s 0m0.000000s\n".toList 0

end BuoyGateway.Shell.Builtin
