import BuoyGateway.Shell.Regex
import BuoyGateway.Shell.Utility.Basic

/-!
# Calculating with words

Each argument is a number, a text or an operator. Operators bind as usual; which values are compared
as numbers is seen from how they are written. What has no effect on the result is read, but its
faults do not count.
-/

namespace BuoyGateway.Shell.Utility.Calculation

/-- A step of a calculation: a value and the words that are left, or what is wrong. -/
abbrev Step := Except String (String × List String)

def integer? (s : String) : Option Int :=
  match s.toList with
  | '-' :: digits =>
    if !digits.isEmpty && digits.all Char.isDigit then some (-(Decimal.ofDigits digits : Int))
    else none
  | digits =>
    if !digits.isEmpty && digits.all Char.isDigit then some (Decimal.ofDigits digits : Int)
    else none

def isNothing (s : String) : Bool :=
  let digits := match s.toList with
    | '-' :: rest => if rest.isEmpty then ['-'] else rest
    | rest => rest
  digits.all (fun c => c = '0')

def ofBool (b : Bool) : String := if b then "1" else "0"

def missingAfter (last : String) : String := "syntax error: missing argument after " ++ quote last

def compares (operator : String) (a b : String) : Bool :=
  let order : Ordering := match integer? a, integer? b with
    | some m, some n => compare m n
    | _, _ => compareTexts a.toList b.toList
  match operator with
  | "<" => order == .lt
  | "<=" => order != .gt
  | "=" | "==" => order == .eq
  | "!=" => order != .eq
  | ">=" => order != .lt
  | _ => order == .gt

def arithmetic (operator : String) (a b : String) : Except String String :=
  match integer? a, integer? b with
  | some m, some n =>
    let show' (n : Int) : Except String String := .ok (Decimal.text n)
    match operator with
    | "+" => show' (m + n)
    | "-" => show' (m - n)
    | "*" => show' (m * n)
    | _ =>
      if n = 0 then .error "division by zero"
      else show' (if operator = "/" then m.tdiv n else m.tmod n)
  | _, _ => .error "non-integer argument"

/-- What an expression matches at the front of a text: what its first group has matched, or how many
characters. -/
def matched (s pattern : String) : Except String String :=
  match Regex.read false true pattern.toList with
  | .error e => .error e
  | .ok r =>
    let hasGroup := r.lastGroup != 0
    match r.matchAt false { before := none, rest := s.toList } with
    | none => .ok (if hasGroup then "" else "0")
    | some spot =>
      .ok (if hasGroup then String.ofList ((spot.groups.lookup 1).getD [])
        else numeral spot.taken)

def placeOf (s chars : String) : Nat :=
  match s.toList.findIdx? (fun c => chars.contains c) with
  | some i => i + 1
  | none => 0

def part (s start length : String) : String :=
  match integer? start, integer? length with
  | some a, some n =>
    if a ≤ 0 || n ≤ 0 then ""
    else String.ofList ((s.toList.drop (a.toNat - 1)).take n.toNat)
  | _, _ => ""

def levels : List (List String) :=
  [["|"], ["&"], ["<", "<=", "=", "==", "!=", ">=", ">"], ["+", "-"], ["*", "/", "%"], [":"]]

mutual

/-- Values that operators of a level, and of those that bind tighter, are between. `counts` says
that faults count. -/
def level : Nat → List (List String) → Bool → String → List String → Step
  | 0, _, _, _, _ => .error "syntax error"
  | fuel + 1, [], counts, last, words => single fuel counts last words
  | fuel + 1, operators :: tighter, counts, last, words => do
    let (a, rest) ← level fuel tighter counts last words
    goOn fuel operators tighter counts a rest

def goOn : Nat → List String → List (List String) → Bool → String → List String → Step
  | 0, _, _, _, _, _ => .error "syntax error"
  | _ + 1, _, _, _, a, [] => .ok (a, [])
  | fuel + 1, operators, tighter, counts, a, operator :: rest => do
    if !operators.contains operator then pure (a, operator :: rest)
    else
      let rightCounts := counts && (match operator with
        | "|" => isNothing a
        | "&" => !isNothing a
        | _ => true)
      let (b, rest) ← level fuel tighter rightCounts operator rest
      let result ← match operator with
        | "|" => pure (if !isNothing a then a else if isNothing b then "0" else b)
        | "&" => pure (if isNothing a || isNothing b then "0" else a)
        | ":" => if counts then matched a b else pure "0"
        | operator =>
          if operators.contains "<" then pure (ofBool (compares operator a b))
          else if counts then arithmetic operator a b
          else pure "0"
      goOn fuel operators tighter counts result rest

/-- One value: a word, something in parentheses, or what a word asks for. -/
def single : Nat → Bool → String → List String → Step
  | 0, _, _, _ => .error "syntax error"
  | _ + 1, _, last, [] => .error (missingAfter last)
  | fuel + 1, counts, _, word :: rest => do
    match word with
    | "+" =>
      match rest with
      | [] => throw (missingAfter "+")
      | w :: rest => pure (w, rest)
    | "length" =>
      let (s, rest) ← single fuel counts word rest
      pure (numeral s.length, rest)
    | "match" =>
      let (s, rest') ← single fuel counts word rest
      let (pattern, rest'') ← single fuel counts (rest.headD word) rest'
      let result ← if counts then matched s pattern else pure "0"
      pure (result, rest'')
    | "index" =>
      let (s, rest') ← single fuel counts word rest
      let (chars, rest'') ← single fuel counts (rest.headD word) rest'
      pure (numeral (placeOf s chars), rest'')
    | "substr" =>
      let (s, rest') ← single fuel counts word rest
      let (start, rest'') ← single fuel counts (rest.headD word) rest'
      let (length, rest''') ← single fuel counts (rest'.headD word) rest''
      pure (part s start length, rest''')
    | "(" =>
      let (value, after) ← level fuel levels counts word rest
      match after with
      | ")" :: after => pure (value, after)
      | [] => throw ("syntax error: expecting ')' after " ++ quote (rest.getLastD word))
      | w :: _ => throw ("syntax error: expecting ')' instead of " ++ quote w)
    | ")" => throw "syntax error: unexpected ')'"
    | w => pure (w, rest)

end

def value (words : List String) : Except String String := do
  let (a, rest) ← level (16 * words.length + 16) levels true "" words
  match rest with
  | [] => pure a
  | w :: _ => throw ("syntax error: unexpected argument " ++ quote w)

end Calculation

def expr : Utility := fun _ call =>
  let words := match call.arguments with
    | "--" :: rest => rest
    | words => words
  if words.isEmpty then misuse call "missing operand" 2
  else
    match Calculation.value words with
    | .error e => fail call e 2
    | .ok a => emit call (a ++ "\n").toList (if Calculation.isNothing a then 1 else 0)

/-! ### Factors -/

/-- The prime factors of a number, the least first; no prime below `d` divides it. -/
def factors : Nat → Nat → Nat → List Nat
  | 0, _, n => if n ≤ 1 then [] else [n]
  | fuel + 1, d, n =>
    if n < d * d then if n ≤ 1 then [] else [n]
    else if n % d = 0 then d :: factors fuel d (n / d)
    else factors fuel (d + 1) n

def divisorLimit : Nat := 5000000

def factor : Utility := fun _ call =>
  withFlags call [{ letter := 'h', word := "exponents" }] true 1 (fun given => do
    let texts : List String ←
      if given.others.isEmpty then do
        let text := (← readFile "-").toOption.getD []
        pure ((words text).map String.ofList)
      else pure given.others
    let write (code : Nat) (s : String) : StateM Process Nat := do
      match nat? s with
      | some n =>
        let shown := (factors divisorLimit 2 n).map (fun f => " " ++ numeral f)
        put (numeral n ++ ":" ++ String.join shown ++ "\n").toList
        pure code
      | none =>
        complain call (quote s ++ " is not a valid positive integer")
        pure 1
    exited (← texts.foldlM write 0))

end BuoyGateway.Shell.Utility
