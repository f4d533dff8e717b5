import BuoyGateway.Decimal.Numeral
import BuoyGateway.Shell.Script

/-!
# Arithmetic of scripts

Expressions over integers of 64 bits, with the operators and the assignments of scripts. What is
not evaluated, such as the second operand of a settled `||`, assigns nothing and fails at nothing
but its form. Numerals that are too large stand for the largest integer.
-/

namespace BuoyGateway.Shell.Arithmetic

def wrap (n : Int) : Int := Int.bmod n UInt64.size

def largest : Int := 9223372036854775807

def smallest : Int := -9223372036854775808

def saturate (n : Int) : Int := max smallest (min largest n)

/-! ### Numerals -/

def digit? (base : Nat) (c : Char) : Option Nat :=
  let v :=
    if c.isDigit then c.toNat - 48
    else if 'a' ≤ c && c ≤ 'f' then c.toNat - 87
    else if 'A' ≤ c && c ≤ 'F' then c.toNat - 55
    else base
  if v < base then some v else none

/-- The digits of a base at the front of a text, their value, and the text after them. -/
def digits (base : Nat) : Nat → List Char → Nat × List Char
  | n, [] => (n, [])
  | n, c :: s =>
    match digit? base c with
    | some d => digits base (base * n + d) s
    | none => (n, c :: s)

/-- A numeral without a sign: decimal, octal after a zero, hexadecimal, or binary. -/
def numeral (s : List Char) : Nat × List Char :=
  match s with
  | '0' :: x :: d :: rest =>
    if (x = 'x' || x = 'X') && (digit? 16 d).isSome then digits 16 0 (d :: rest)
    else if (x = 'b' || x = 'B') && (digit? 2 d).isSome then digits 2 0 (d :: rest)
    else digits 8 0 s
  | '0' :: _ => digits 8 0 s
  | _ => digits 10 0 s

/-- A numeral with white space and a sign in front of it, if there is one, and the text after it. -/
def signed? (s : List Char) : Option (Int × List Char) :=
  let s := s.dropWhile Char.isWhitespace
  let (negative, s) := match s with
    | '-' :: rest => (true, rest)
    | '+' :: rest => (false, rest)
    | _ => (false, s)
  if (s.head?.map Char.isDigit).getD false then
    let (n, rest) := numeral s
    some (if negative then -(n : Int) else n, rest)
  else none

/-- The integer that the value of a variable spells. Nothing but white space spells zero. -/
def valueOf? (s : List Char) : Option Int :=
  if s.all Char.isWhitespace then some 0
  else
    match signed? s with
    | some (n, rest) =>
      if rest.all Char.isWhitespace && saturate n = n then some n else none
    | none => none

/-! ### Tokens -/

inductive Token
  | number (n : Int)
  | name (s : String)
  | assign (operator : String)
  | operator (s : String)
  | strange
  deriving DecidableEq, Repr

def operators : List String :=
  ["||", "&&", "==", "!=", "<=", ">=", "<<", ">>", "|", "^", "&", "<", ">", "+", "-", "*", "/", "%",
   "!", "~", "(", ")", "?", ":"]

def assignments : List (String × String) :=
  [("<<=", "<<"), (">>=", ">>"), ("+=", "+"), ("-=", "-"), ("*=", "*"), ("/=", "/"), ("%=", "%"),
   ("&=", "&"), ("^=", "^"), ("|=", "|"), ("=", "")]

def tokensFrom : Nat → List Char → List Token
  | 0, _ | _, [] => []
  | fuel + 1, c :: s =>
    if c = ' ' || c = '\t' || c = '\n' then tokensFrom fuel s
    else if c.isDigit then
      let (n, rest) := numeral (c :: s)
      .number (saturate n) :: tokensFrom fuel rest
    else if isNameStart c then
      let name := c :: s.takeWhile isNamePart
      .name (String.ofList name) :: tokensFrom fuel ((c :: s).drop name.length)
    else
      let text := c :: s
      let isComparison := ['=', '='].isPrefixOf text
      match assignments.find? (fun a => !isComparison && a.1.toList.isPrefixOf text) with
      | some (sign, operator) => .assign operator :: tokensFrom fuel (text.drop sign.length)
      | none =>
        match operators.find? (fun o => o.toList.isPrefixOf text) with
        | some o => .operator o :: tokensFrom fuel (text.drop o.length)
        | none => [.strange]

def tokens (s : List Char) : List Token := tokensFrom s.length s

/-! ### Evaluation -/

inductive Fault
  | wrong (text : String)
  | overflow
  deriving DecidableEq, Repr

structure Names where
  value? : String → Option String
  isFixed : String → Bool

structure Progress where
  tokens : List Token
  assigned : List (String × Int) := []

abbrev Calculation (α : Type) := StateT Progress (Except Fault) α

def truth (b : Bool) : Int := if b then 1 else 0

def divide (f : Int → Int → Int) (a b : Int) : Except Fault Int :=
  if b = 0 then .error (.wrong "division by zero")
  else if a = smallest && b = -1 then .error .overflow
  else .ok (f a b)

def apply (operator : String) (a b : Int) : Except Fault Int :=
  match operator with
  | "+" => .ok (wrap (a + b))
  | "-" => .ok (wrap (a - b))
  | "*" => .ok (wrap (a * b))
  | "/" => divide Int.tdiv a b
  | "%" => divide Int.tmod a b
  | "<<" => .ok (wrap (a * Nat.pow 2 (b % 64).toNat))
  | ">>" => .ok (a / Nat.pow 2 (b % 64).toNat)
  | "<" => .ok (truth (a < b))
  | ">" => .ok (truth (b < a))
  | "<=" => .ok (truth (a ≤ b))
  | ">=" => .ok (truth (b ≤ a))
  | "==" => .ok (truth (a = b))
  | "!=" => .ok (truth (a ≠ b))
  | "&" => .ok ((Int64.ofInt a &&& Int64.ofInt b).toInt)
  | "|" => .ok ((Int64.ofInt a ||| Int64.ofInt b).toInt)
  | "^" => .ok ((Int64.ofInt a ^^^ Int64.ofInt b).toInt)
  | _ => .ok b

/-- The operators with two operands that are always evaluated, and how strongly they bind. -/
def strength? : String → Option Nat
  | "|" => some 3
  | "^" => some 4
  | "&" => some 5
  | "==" | "!=" => some 6
  | "<" | ">" | "<=" | ">=" => some 7
  | "<<" | ">>" => some 8
  | "+" | "-" => some 9
  | "*" | "/" | "%" => some 10
  | _ => none

def expecting {α : Type} (what : String) : Calculation α := throw (.wrong ("expecting " ++ what))

def next? : Calculation (Option Token) := do pure (← get).tokens.head?

def advance : Calculation Unit := modify (fun p => { p with tokens := p.tokens.drop 1 })

def valueOf (names : Names) (name : String) : Calculation Int := do
  match (← get).assigned.lookup name with
  | some n => pure n
  | none =>
    let value := (names.value? name).getD ""
    match valueOf? value.toList with
    | some n => pure n
    | none => throw (.wrong ("Illegal number: " ++ value))

def tooDeep {α : Type} : Calculation α := throw (.wrong "too deeply nested")

mutual

def expression (names : Names) : Nat → Bool → Calculation Int
  | 0, _ => tooDeep
  | fuel + 1, live => do
    match (← get).tokens with
    | .name name :: .assign operator :: _ =>
      advance
      advance
      let b ← expression names fuel live
      if !live then pure b
      else
        let a ← if operator = "" then pure 0 else valueOf names name
        let n ← apply operator a b
        if names.isFixed name then throw (.wrong (name ++ ": is read only"))
        modify (fun p => { p with assigned := (name, n) :: p.assigned })
        pure n
    | _ => conditional names fuel live

def conditional (names : Names) : Nat → Bool → Calculation Int
  | 0, _ => tooDeep
  | fuel + 1, live => do
    let test ← either names fuel live
    match ← next? with
    | some (.operator "?") =>
      advance
      let yes ← expression names fuel (live && test ≠ 0)
      match ← next? with
      | some (.operator ":") =>
        advance
        let no ← conditional names fuel (live && test = 0)
        pure (if test ≠ 0 then yes else no)
      | _ => expecting "':'"
    | _ => pure test

def either (names : Names) : Nat → Bool → Calculation Int
  | 0, _ => tooDeep
  | fuel + 1, live => do
    let a ← both names fuel live
    match ← next? with
    | some (.operator "||") =>
      advance
      let b ← either names fuel (live && a = 0)
      pure (truth (a ≠ 0 || b ≠ 0))
    | _ => pure a

def both (names : Names) : Nat → Bool → Calculation Int
  | 0, _ => tooDeep
  | fuel + 1, live => do
    let first ← operand names fuel live
    let a ← operations names fuel live 0 first
    match ← next? with
    | some (.operator "&&") =>
      advance
      let b ← both names fuel (live && a ≠ 0)
      pure (truth (a ≠ 0 && b ≠ 0))
    | _ => pure a

/-- The operators, as far as they bind strongly enough, after a first operand. -/
def operations (names : Names) : Nat → Bool → Nat → Int → Calculation Int
  | 0, _, _, _ => tooDeep
  | fuel + 1, live, least, a => do
    match ← next? with
    | some (.operator o) =>
      match strength? o with
      | none => pure a
      | some strength =>
        if strength < least then pure a
        else
          advance
          let first ← operand names fuel live
          let b ← operations names fuel live (strength + 1) first
          let n ← if live then apply o a b else pure b
          operations names fuel live least n
    | _ => pure a

def operand (names : Names) : Nat → Bool → Calculation Int
  | 0, _ => tooDeep
  | fuel + 1, live => do
    match ← next? with
    | some (.number n) =>
      advance
      pure n
    | some (.name name) =>
      advance
      if live then valueOf names name else pure 0
    | some (.operator "(") =>
      advance
      let n ← expression names fuel live
      match ← next? with
      | some (.operator ")") =>
        advance
        pure n
      | _ => expecting "')'"
    | some (.operator "+") =>
      advance
      operand names fuel live
    | some (.operator "-") =>
      advance
      let n ← operand names fuel live
      pure (wrap (-n))
    | some (.operator "!") =>
      advance
      let n ← operand names fuel live
      pure (truth (n = 0))
    | some (.operator "~") =>
      advance
      let n ← operand names fuel live
      pure (wrap (-n - 1))
    | _ => expecting "primary"

end

/-- The value of an expression, and the values that it assigns, in their order. What is wrong with
the expression itself is said together with its text. -/
def evaluate (names : Names) (text : List Char) : Except Fault (Int × List (String × Int)) :=
  let list := tokens text
  match (do
    let n ← expression names (8 * list.length + 8) true
    if (← next?).isSome then expecting "EOF"
    pure n : Calculation Int).run { tokens := list } with
  | .ok (n, p) => .ok (n, p.assigned.reverse)
  | .error (.wrong e) =>
    if e.startsWith "Illegal" || e.endsWith "read only" then .error (.wrong e)
    else .error (.wrong ("arithmetic expression: " ++ e ++ ": \"" ++ String.ofList text ++ "\""))
  | .error .overflow => .error .overflow

end BuoyGateway.Shell.Arithmetic
