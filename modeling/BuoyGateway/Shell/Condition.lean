import BuoyGateway.Shell.Place

/-!
# Conditions

What `test` finds out: conditions on texts, on whole numbers and on files, joined by operators. A
word is an operator where it can be one; which word that is depends on how many follow it.
-/

namespace BuoyGateway.Shell.Condition

/-- A whole number of 64 bits in decimal, with white space around it, if the text is one. -/
def integer? (s : String) : Option Int :=
  let body := s.toList.dropWhile Char.isWhitespace
  let body := (body.reverse.dropWhile Char.isWhitespace).reverse
  let (negative, digits) := match body with
    | '-' :: rest => (true, rest)
    | '+' :: rest => (false, rest)
    | _ => (false, body)
  if digits.isEmpty || !digits.all Char.isDigit then none
  else
    let n : Int := Decimal.ofDigits digits
    let n := if negative then -n else n
    if -9223372036854775808 ≤ n && n ≤ 9223372036854775807 then some n else none

def integer (s : String) : Except String Int :=
  match integer? s with
  | some n => .ok n
  | none => .error ("Illegal number: " ++ s)

def unary? (p : Process) (operator : String) : Option (String → Except String Bool) :=
  let node (test : Location → Node → Bool) : Option (String → Except String Bool) :=
    some (fun path => .ok (match p.locateNode path true with
      | .ok (loc, node) => test loc node
      | .error _ => false))
  let mode (bit : Nat) : Option (String → Except String Bool) :=
    node (fun loc n => p.modeAt loc n &&& bit != 0)
  match operator with
  | "-n" => some (fun s => .ok (s != ""))
  | "-z" => some (fun s => .ok (s == ""))
  | "-e" | "-r" | "-w" | "-O" | "-G" => node (fun _ _ => true)
  | "-f" => node (fun loc n => !n.isDirectory && (Device.at? loc).isNone)
  | "-d" => node (fun _ n => n.isDirectory)
  | "-x" => node (fun loc n => n.isDirectory || p.modeAt loc n &&& 0o111 != 0)
  | "-s" => node (fun _ n => match n.content with
      | .file octets _ => !octets.isEmpty
      | .directory => true)
  | "-c" => node (fun loc _ => (Device.at? loc).isSome)
  | "-b" | "-p" | "-S" => node (fun _ _ => false)
  | "-u" => mode 0o4000
  | "-g" => mode 0o2000
  | "-k" => mode 0o1000
  | "-h" | "-L" => some (fun path => .ok (p.isLink path))
  | "-t" => some (fun s => (integer s).map (fun _ => false))
  | _ => none

def binary? (p : Process) (operator : String) : Option (String → String → Except String Bool) :=
  let number (test : Int → Int → Bool) : Option (String → String → Except String Bool) :=
    some (fun a b => do pure (test (← integer a) (← integer b)))
  let nodes (test : Location × Node → Location × Node → Bool) :
      Option (String → String → Except String Bool) :=
    some (fun a b => .ok (match p.locateNode a true, p.locateNode b true with
      | .ok a, .ok b => test a b
      | _, _ => false))
  let later (a b : Time.Instant) : Bool :=
    decide (b.seconds < a.seconds ∨ (b.seconds = a.seconds ∧ b.nanos < a.nanos))
  match operator with
  | "=" => some (fun a b => .ok (a == b))
  | "!=" => some (fun a b => .ok (a != b))
  | "<" => some (fun a b => .ok (a < b))
  | ">" => some (fun a b => .ok (b < a))
  | "-eq" => number (fun a b => a == b)
  | "-ne" => number (fun a b => a != b)
  | "-lt" => number (fun a b => a < b)
  | "-le" => number (fun a b => a ≤ b)
  | "-gt" => number (fun a b => b < a)
  | "-ge" => number (fun a b => b ≤ a)
  | "-nt" => nodes (fun a b => later a.2.modified b.2.modified)
  | "-ot" => nodes (fun a b => later b.2.modified a.2.modified)
  | "-ef" => nodes (fun a b => a.1 == b.1)
  | _ => none

inductive Role
  | missing
  | operand
  | unary
  | binary
  | negation
  | conjunction
  | disjunction
  | opening
  | closing
  deriving DecidableEq, Repr

def roleOf (p : Process) (word : String) : Role :=
  match word with
  | "!" => .negation
  | "-a" => .conjunction
  | "-o" => .disjunction
  | "(" => .opening
  | ")" => .closing
  | _ =>
    if (unary? p word).isSome then .unary else if (binary? p word).isSome then .binary else .operand

/-- What the first of some words is. An operator for one text is none where nothing follows it, or
where an operator for two texts does. -/
def role (p : Process) : List String → Role
  | [] => .missing
  | [word] => if [.unary, .opening].contains (roleOf p word) then .operand else roleOf p word
  | [word, _] => roleOf p word
  | word :: second :: _ =>
    if roleOf p word = .unary && roleOf p second = .binary then .operand else roleOf p word

mutual

/-- Conditions one of which has to hold; all functions here give the words from the last one that
they have used. -/
def anyOf (p : Process) : Nat → Role → List String → Except String (Bool × List String)
  | 0, _, _ => .error "too deeply nested"
  | fuel + 1, first, words => do
    let (a, words) ← allOf p fuel first words
    if role p (words.drop 1) = .disjunction then
      let rest := words.drop 2
      let (b, words) ← anyOf p fuel (role p rest) rest
      pure (a || b, words)
    else pure (a, words)

def allOf (p : Process) : Nat → Role → List String → Except String (Bool × List String)
  | 0, _, _ => .error "too deeply nested"
  | fuel + 1, first, words => do
    let (a, words) ← negated p fuel first words
    if role p (words.drop 1) = .conjunction then
      let rest := words.drop 2
      let (b, words) ← allOf p fuel (role p rest) rest
      pure (a && b, words)
    else pure (a, words)

def negated (p : Process) : Nat → Role → List String → Except String (Bool × List String)
  | 0, _, _ => .error "too deeply nested"
  | fuel + 1, first, words => do
    if first = .negation then
      let rest := words.drop 1
      let second := role p rest
      let (b, words) ← negated p fuel second (if second = .missing then words else rest)
      pure (!b, words)
    else single p fuel first words

def single (p : Process) : Nat → Role → List String → Except String (Bool × List String)
  | 0, _, _ => .error "too deeply nested"
  | fuel + 1, first, words => do
    match first, words with
    | .missing, _ | _, [] => pure (false, words)
    | .opening, _ :: rest =>
      let second := role p rest
      if second = .closing then pure (false, rest)
      else
        let (b, words) ← anyOf p fuel second rest
        if role p (words.drop 1) = .closing then pure (b, words.drop 1)
        else .error "closing paren expected"
    | .unary, operator :: rest =>
      match unary? p operator, rest with
      | some test, text :: _ => do pure (← test text, rest)
      | _, _ => .error (operator ++ ": argument expected")
    | _, text :: rest =>
      match role p rest, rest with
      | .binary, operator :: others =>
        match binary? p operator, others with
        | some test, other :: _ => do pure (← test text other, others)
        | _, _ => .error (operator ++ ": argument expected")
      | _, _ => pure (text != "", words)

end

/-- The truth of a condition, looked at so many times without a word in front. With three words, the
one in the middle is an operator if it can be one. -/
def truth (p : Process) : Nat → List String → Except String Bool
  | 0, words => whole p (role p words) words
  | _ + 1, [] => .ok false
  | fuel + 1, words =>
    let middle := words[1]?.map (roleOf p)
    if words.length = 3 && middle = some .binary then whole p .operand words
    else if words.length = 3 || words.length = 4 then
      if words.head? = some "(" && words.getLast? = some ")" then
        let inner := (words.drop 1).dropLast
        whole p (role p inner) inner
      else if words.head? = some "!" then (truth p fuel (words.drop 1)).map (fun b => !b)
      else whole p (role p words) words
    else whole p (role p words) words
where
  whole (p : Process) (first : Role) (words : List String) : Except String Bool :=
    match anyOf p (4 * words.length + 4) first words with
    | .error e => .error e
    | .ok (_, last :: _ :: _) =>
      .error (if last = "" then "unexpected operator" else last ++ ": unexpected operator")
    | .ok (b, _) => .ok b

def holds (p : Process) (words : List String) : Except String Bool := truth p 4 words

end BuoyGateway.Shell.Condition
