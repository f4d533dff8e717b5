import BuoyGateway.Shell.Arithmetic
import BuoyGateway.Shell.Builtin.Variables

/-!
# Commands for the directory and for rights

The shell knows its directory by the path that led there, on which a step up takes the last name
away. What new files may be used for is limited by a mask.
-/

namespace BuoyGateway.Shell.Builtin

/-- The steps of a path taken from others, without those that stay in place or go back. -/
def joinSteps (steps : List String) (path : String) : List String :=
  (path.splitOn "/").foldl
    (fun steps step =>
      if step = "" || step = "." then steps
      else if step = ".." then steps.dropLast
      else steps ++ [step])
    steps

/-- A path as seen from a directory. Two slashes at the front stay two. -/
def pathFrom (here path : String) : String :=
  let twice (s : String) : Bool := s.startsWith "//" && !s.startsWith "///"
  let absolute := path.startsWith "/"
  let root := if twice (if absolute then path else here) then "//" else "/"
  let start := if absolute then [] else joinSteps [] here
  root ++ String.intercalate "/" (joinSteps start path)

/-- Goes to a directory, by the steps that the path has when they are taken one by one or not. -/
def enter (physical : Bool) (path : String) : StateM Process Bool := do
  let p ← get
  let target := if physical then path else pathFrom p.here path
  match p.locateDirectory target with
  | .error _ => pure false
  | .ok loc =>
    let here := if physical then Process.pathOfLocation loc else target
    let before := p.here
    let p := { p with disk := { p.disk with current := loc }, here := here }
    let keep (p : Process) (name value : String) : Process :=
      (p.assign name value).changeVariable name (fun v => { v with exported := true })
    set (keep (keep p "OLDPWD" before) "PWD" here)
    pure true

def isPhysical (found : List (Char × String)) : Bool := (found.getLast?.map Prod.fst) = some 'P'

def startsNear (path : String) : Bool :=
  let first := (path.splitOn "/").headD ""
  first = "." || first = ".."

/-- Goes to a directory, which is looked for in some places unless its path says where it is. -/
def cd : Builtin := fun arguments =>
  withOptions "LP" arguments (fun found rest => do
    let physical := isPhysical found
    let p ← get
    let target := match rest with
      | [] => (p.value? "HOME").getD ""
      | "-" :: _ => (p.value? "OLDPWD").getD ""
      | a :: _ => a
    let told := rest.head? = some "-"
    let searched := !target.startsWith "/" && !startsNear target
    let dest := if target = "" then "." else target
    let bases := match p.value? "CDPATH" with
      | some s => if searched then s.splitOn ":" else []
      | none => []
    let paths := bases.map (fun base => (base, if base = "" then dest else base ++ "/" ++ dest))
    let isThere (entry : String × String) : Bool := (p.locateDirectory entry.2).toOption.isSome
    let (path, told) := match paths.find? isThere with
      | some (base, path) => (path, told || base != "")
      | none => (dest, told)
    if ← enter physical path then
      if told then emit ((← get).here ++ "\n").toList 0 else done 0
    else abort ("can't cd to " ++ target))

def pwd : Builtin := fun arguments =>
  withOptions "LP" arguments (fun found _ => do
    let p ← get
    let path := if isPhysical found then Process.pathOfLocation p.disk.current else p.here
    emit (path ++ "\n").toList 0)

/-! ### Rights -/

/-- The rights of one kind of users that letters name. Letters for kinds of users mean what these
have in `whole`. -/
def rightsOf (whole : Nat) (letters : List Char) : Nat :=
  letters.foldl
    (fun n c =>
      n ||| (match c with
        | 'r' => 4
        | 'w' => 2
        | 'x' => 1
        | 'X' => if whole &&& 0o111 != 0 then 1 else 0
        | 'u' => whole / 64 % 8
        | 'g' => whole / 8 % 8
        | 'o' => whole % 8
        | _ => 0))
    0

/-- The rights after a change that is written in letters; nothing if it is not well written. Each
step takes at least one character. -/
def changeRights (whole : Nat) : Nat → Nat → Nat → List Char → Option Nat
  | _, _, now, [] => some now
  | 0, _, _, _ => none
  | fuel + 1, users, now, s =>
    let kinds := s.takeWhile (fun c => c ∈ ['u', 'g', 'o', 'a'])
    let users := kinds.foldl
      (fun n c => n ||| (match c with
        | 'u' => 0o100
        | 'g' => 0o010
        | 'o' => 0o001
        | _ => 0o111))
      users
    let users := if users = 0 then 0o111 else users
    match s.drop kinds.length with
    | op :: rest =>
      if op ∈ ['=', '+', '-'] then
        let letters := rest.takeWhile (fun c => c ∈ ['r', 'w', 'x', 'u', 'g', 'o', 'X', 's'])
        let value := rightsOf whole letters * users
        let now :=
          if op = '-' then now &&& (0o777 ^^^ value)
          else if op = '+' then now ||| value
          else value ||| (now &&& (0o777 ^^^ (users * 7)))
        match rest.drop letters.length with
        | [] => some now
        | ',' :: more => changeRights whole fuel 0 now more
        | more =>
          if more.head?.any (fun c => c ∈ ['=', '+', '-']) then
            changeRights whole fuel users now more
          else none
      else none
    | [] => none

def rightLetters (n : Nat) : String :=
  (if n &&& 4 != 0 then "r" else "") ++ (if n &&& 2 != 0 then "w" else "") ++
    (if n &&& 1 != 0 then "x" else "")

def umask : Builtin := fun arguments =>
  withOptions "S" arguments (fun found rest => do
    let p ← get
    let whole := 0o777 ^^^ p.mask
    match rest with
    | [] =>
      if found.isEmpty then
        emit ((Nat.toDigits 8 p.mask).leftpad 4 '0' ++ ['\n']) 0
      else
        emit ("u=" ++ rightLetters (whole / 64 % 8) ++ ",g=" ++ rightLetters (whole / 8 % 8) ++
          ",o=" ++ rightLetters (whole % 8) ++ "\n").toList 0
    | a :: _ =>
      let s := a.toList
      if (s.head?.map Char.isDigit).getD false then
        if s.all (fun c => '0' ≤ c && c ≤ '7') then
          set { p with mask := (Arithmetic.digits 8 0 s).1 % 512 }
          done 0
        else abort ("Illegal number: " ++ a)
      else
        match changeRights whole (s.length + 1) 0 whole s with
        | some now =>
          set { p with mask := 0o777 ^^^ now }
          done 0
        | none => abort ("Illegal mode: " ++ a))

/-- Says how much of something a process may use, which is not limited, or limits it, which is not
noticed. -/
def ulimit : Builtin := fun arguments =>
  withOptions "HSacdfklmnprstuvw" arguments (fun found rest => do
    match rest with
    | [] =>
      let text := if found.any (fun o => o.1 = 'c') then "0\n" else "unlimited\n"
      emit text.toList 0
    | a :: _ =>
      if a = "unlimited" || (a != "" && a.toList.all Char.isDigit) then done 0
      else abort "bad number")

end BuoyGateway.Shell.Builtin
