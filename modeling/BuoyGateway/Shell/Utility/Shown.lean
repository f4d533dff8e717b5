import BuoyGateway.Decimal.Numeral

/-!
# How messages show words

Words that came from outside stand between single quotes in messages. The names of files are shown
in a form that the shell would read back; some messages leave out the quotes where the shell would
need none. Characters that cannot be seen are shown by signs.
-/

namespace BuoyGateway.Shell.Utility

def controlLetter? : Char → Option Char
  | '\x07' => some 'a'
  | '\x08' => some 'b'
  | '\t' => some 't'
  | '\n' => some 'n'
  | '\x0b' => some 'v'
  | '\x0c' => some 'f'
  | '\r' => some 'r'
  | _ => none

def isVisible (c : Char) : Bool := ' ' ≤ c && c ≤ '~'

def hiddenSign (c : Char) : List Char :=
  match controlLetter? c with
  | some letter => ['\\', letter]
  | none => '\\' :: (Nat.toDigits 8 c.toNat).leftpad 3 '0'

def quote (s : String) : String :=
  let sign (c : Char) : List Char :=
    if c = '\'' || c = '\\' then ['\\', c]
    else if isVisible c then [c]
    else hiddenSign c
  String.ofList ('\'' :: s.toList.flatMap sign ++ ['\''])

def meaningful : List Char := " !\"$&'()*;<=>?[\\^\x60|".toList

def runsOf : List Char → List (Bool × List Char)
  | [] => []
  | c :: s =>
    match runsOf s with
    | (visible, run) :: runs =>
      if visible = isVisible c then (visible, c :: run) :: runs
      else (isVisible c, [c]) :: (visible, run) :: runs
    | [] => [(isVisible c, [c])]

def quoteName (s : String) : String :=
  let chars := s.toList
  let isSafe (e : Char × Nat) : Bool :=
    let c := e.1
    isVisible c && (c = ' ' || c = '\'' || !meaningful.contains c) &&
      (c != '\x7b' && c != '\x7d' || chars.length = 1) && !((c = '#' || c = '~') && e.2 != 0)
  if chars.contains '\'' && chars.zipIdx.all isSafe then
    "\"" ++ s ++ "\""
  else
    let run (atEnd : Bool) (r : Bool × List Char) : List Char :=
      if r.1 then r.2.flatMap (fun c => if c = '\'' then "'\\''".toList else [c])
      else "'$'".toList ++ r.2.flatMap hiddenSign ++ (if atEnd then [] else "''".toList)
    let runs := runsOf chars
    let body := (runs.zipIdx.map (fun e => run (e.2 + 1 = runs.length) e.1)).flatten
    String.ofList ('\'' :: body ++ ['\''])

/-- A name, between quotes only if it has characters that the shell would not take as they are. -/
def showName (s : String) : String :=
  let chars := s.toList
  let isPlain (c : Char) : Bool := isVisible c && c != ':' && !meaningful.contains c
  let isOdd := match chars with
    | [] => true
    | c :: rest => c = '#' || c = '~' || ((c = '\x7b' || c = '\x7d') && rest.isEmpty)
  if isOdd || !chars.all isPlain then quoteName s else s

end BuoyGateway.Shell.Utility
