import BuoyGateway.Shell.Rules.Text

/-!
# The grammar of a program of rules

Reading goes from left to right and looks at the next token only. From the weakest on, signs bind in
this order: assignments and choices, `||`, `&&`, `in`, `~`, comparisons, values next to each other,
sums, products, signs in front of a value, powers, steps, and the sign of a field. All functions
take an amount of fuel that bounds how deep they go.
-/

namespace BuoyGateway.Shell.Rules

abbrev Reading := StateT (List Lexeme) (Except (List String))

namespace Reading

def next : Reading Lexeme := do
  pure ((← get).headD ⟨.finish, 1⟩)

def peek : Reading Token := do
  pure (← next).token

def skip : Reading Unit := modify (fun all => match all with
  | _ :: second :: rest => second :: rest
  | all => all)

def fault {α : Type} (line : Nat) (text : String) : Reading α :=
  throw ["line " ++ String.ofList (Decimal.digits line) ++ ": " ++ text]

def wrong {α : Type} : Reading α := do
  let found ← next
  fault found.line ("syntax error at or near " ++ found.token.shown)

def missing {α : Type} (what : String) : Reading α := do
  let found ← next
  fault found.line ("missing " ++ what ++ " near " ++ found.token.shown)

def accept (s : String) : Reading Bool := do
  if (← peek).isSign s then
    skip
    pure true
  else pure false

def acceptWord (s : String) : Reading Bool := do
  if (← peek).isWord s then
    skip
    pure true
  else pure false

def expect (s : String) : Reading Unit := do
  if !(← accept s) then
    match s, ← peek with
    | ")", .newline => missing ")"
    | ")", .sign "\x7d" => missing ")"
    | _, _ => wrong

def skipLines : Reading Unit := modify (fun all =>
  all.dropWhile (fun l => match l.token with
    | .newline => true
    | _ => false))

def name : Reading String := do
  match ← peek with
  | .name s =>
    skip
    pure s
  | _ => wrong

def beginsValue : Token → Bool
  | .number .. | .text _ | .pattern _ | .name _ | .function _ | .builtIn _ => true
  | .sign s => ["(", "$", "!", "++", "--"].contains s
  | _ => false

/-- What a sign between two values makes of them, at a strength. In what is printed, `>` says where,
so that `=` cannot follow it. -/
def between? (strength : Nat) (printed : Bool) :
    Token → Option (Expression → Expression → Expression)
  | .sign s =>
    match strength, s with
    | 1, "||" => some .either
    | 2, "&&" => some .both
    | 4, "~" => some (.fits true)
    | 4, "!~" => some (.fits false)
    | 5, "<" => some (.compare .less)
    | 5, "<=" => some (.compare .lessEqual)
    | 5, "==" => some (.compare .equal)
    | 5, "!=" => some (.compare .unequal)
    | 5, ">" => if printed then none else some (.compare .greater)
    | 5, ">=" => if printed then none else some (.compare .greaterEqual)
    | 7, "+" => some (.reckon .add)
    | 7, "-" => some (.reckon .subtract)
    | 8, "*" => some (.reckon .multiply)
    | 8, "/" => some (.reckon .divide)
    | 8, "%" => some (.reckon .remainder)
    | _, _ => none
  | _ => none

/-- What a sign of an assignment does before it assigns; the outer part is missing for other
tokens. -/
def assignment? : Token → Option (Option Reckoning)
  | .sign "=" => some none
  | .sign "+=" => some (some .add)
  | .sign "-=" => some (some .subtract)
  | .sign "*=" => some (some .multiply)
  | .sign "/=" => some (some .divide)
  | .sign "%=" => some (some .remainder)
  | .sign "^=" => some (some .power)
  | _ => none

/-- How many arguments a function that every program has takes, at least and at most. -/
def arity (name : String) : Nat × Nat :=
  match name with
  | "length" | "srand" | "fflush" => (0, 1)
  | "rand" => (0, 0)
  | "index" | "atan2" | "match" => (2, 2)
  | "substr" | "split" | "sub" | "gsub" => (2, 3)
  | "sprintf" => (1, 1000)
  | _ => (1, 1)

mutual

def expression : Nat → Bool → Reading Expression
  | 0, _ => wrong
  | fuel + 1, printed => do
    let a ← level fuel 1 printed
    if ← accept "?" then
      skipLines
      let yes ← expression fuel printed
      skipLines
      expect ":"
      skipLines
      let no ← expression fuel printed
      pure (.choice a yes no)
    else pure a

def level : Nat → Nat → Bool → Reading Expression
  | 0, _, _ => wrong
  | fuel + 1, strength, printed => do
    if 8 < strength then signed fuel printed
    else
      let a ← level fuel (strength + 1) printed
      levelFrom fuel strength printed a

def levelFrom : Nat → Nat → Bool → Expression → Reading Expression
  | 0, _, _, _ => wrong
  | fuel + 1, strength, printed, a => do
    let token ← peek
    if strength = 3 then
      if token.isWord "in" then
        skip
        let keys := match a with
          | .group parts => parts
          | a => [a]
        let table ← name
        levelFrom fuel strength printed (.isKey keys table)
      else pure a
    else if strength = 6 then
      if beginsValue token then
        let b ← level fuel 7 printed
        levelFrom fuel strength printed (.joined a b)
      else pure a
    else
      match between? strength printed token with
      | some make =>
        skip
        if strength ≤ 2 then skipLines
        let b ← level fuel (strength + 1) printed
        levelFrom fuel strength printed (make a b)
      | none => pure a

def signed : Nat → Bool → Reading Expression
  | 0, _ => wrong
  | fuel + 1, printed => do
    if ← accept "!" then pure (.not (← signed fuel printed))
    else if ← accept "-" then pure (.negative (← signed fuel printed))
    else if ← accept "+" then pure (.positive (← signed fuel printed))
    else
      let a ← power fuel printed
      piped fuel a

def piped : Nat → Expression → Reading Expression
  | 0, _ => wrong
  | fuel + 1, a => do
    match ← get with
    | ⟨.sign "|", _⟩ :: ⟨.word "getline", _⟩ :: rest =>
      set rest
      let target ← place? fuel
      piped fuel (.commandRecord target a)
    | _ => pure a

def place? : Nat → Reading (Option Expression)
  | 0 => wrong
  | fuel + 1 => do
    let token ← peek
    let begins := match token with
      | .name _ => true
      | token => token.isSign "$"
    if begins then
      let a ← value fuel
      pure (some a)
    else pure none

def power : Nat → Bool → Reading Expression
  | 0, _ => wrong
  | fuel + 1, printed => do
    let a ← stepped fuel printed
    if ← accept "^" then
      let token ← peek
      let b ← if token.isSign "-" || token.isSign "+" || token.isSign "!" then signed fuel printed
        else power fuel printed
      pure (.reckon .power a b)
    else pure a

/-- A value with a step in front of it or after it, or one that is assigned. -/
def stepped : Nat → Bool → Reading Expression
  | 0, _ => wrong
  | fuel + 1, printed => do
    let token ← peek
    if token.isSign "++" || token.isSign "--" then
      skip
      match ← place? fuel with
      | some a => if a.isPlace then pure (.step a (token.isSign "++") false) else wrong
      | none => wrong
    else
      let a ← value fuel
      let token ← peek
      let target := match a with
        | .group [.field index] => .field index
        | a => a
      if !target.isPlace then pure a
      else if token.isSign "++" || token.isSign "--" then
        skip
        pure (.step target (token.isSign "++") true)
      else
        match assignment? token with
        | some how =>
          skip
          let b ← expression fuel printed
          pure (.assign target how b)
        | none => pure a

def value : Nat → Reading Expression
  | 0 => wrong
  | fuel + 1 => do
    match ← peek with
    | .number x _ =>
      skip
      pure (.number x)
    | .text s =>
      skip
      pure (.text s)
    | .pattern s =>
      skip
      pure (.pattern s)
    | .sign "$" =>
      skip
      let token ← peek
      if token.isSign "++" || token.isSign "--" then pure (.field (← stepped fuel false))
      else if token.isSign "-" || token.isSign "+" || token.isSign "!" then
        pure (.field (← signed fuel false))
      else pure (.field (← value fuel))
    | .sign "(" =>
      skip
      let parts ← expressions fuel false
      expect ")"
      pure (.group parts)
    | .name s =>
      skip
      if ← accept "[" then
        let keys ← expressions fuel false
        expect "]"
        pure (.entry s keys)
      else pure (.variable s)
    | .function s =>
      skip
      expect "("
      let arguments ← argumentsOf fuel
      pure (.call s arguments)
    | .builtIn s =>
      skip
      if ← accept "(" then
        let line := (← next).line
        let arguments ← if s = "length" then
            if ← accept ")" then pure []
            else
              let a ← expression fuel false
              expect ")"
              pure [a]
          else argumentsOf fuel
        if arguments.length < (arity s).1 || (arity s).2 < arguments.length then
          fault line ("wrong number of arguments in call to " ++ s)
        else pure (.builtIn s arguments)
      else if s = "length" then pure (.builtIn s [])
      else wrong
    | .word "getline" =>
      skip
      let target ← place? fuel
      if ← accept "<" then
        let path ← stepped fuel false
        pure (.fileRecord target path)
      else pure (.nextRecord target)
    | .sign "-" | .sign "+" | .sign "!" => signed fuel false
    | _ => wrong

def expressions : Nat → Bool → Reading (List Expression)
  | 0, _ => wrong
  | fuel + 1, printed => do
    let a ← expression fuel printed
    if ← accept "," then
      skipLines
      let others ← expressions fuel printed
      pure (a :: others)
    else pure [a]

def argumentsOf : Nat → Reading (List Expression)
  | 0 => wrong
  | fuel + 1 => do
    if ← accept ")" then pure []
    else
      let arguments ← expressions fuel false
      expect ")"
      pure arguments

end

def target? (fuel : Nat) : Reading (Option (Target × Expression)) := do
  let found ← next
  if found.token.isSign ">=" then fault found.line "syntax error at or near ="
  else if ← accept ">" then pure (some (.file, ← expression fuel true))
  else if ← accept ">>" then pure (some (.fileEnd, ← expression fuel true))
  else if ← accept "|" then pure (some (.command, ← expression fuel true))
  else pure none

def printedValues (fuel : Nat) : Reading (List Expression) := do
  let ends := match ← peek with
    | .newline | .finish => true
    | .sign s => [";", "\x7d", ">", ">>", "|"].contains s
    | _ => false
  if ends then pure []
  else
    match ← expressions fuel true with
    | [.group parts] => pure parts
    | values => pure values

def simple (fuel : Nat) : Reading Statement := do
  let optional : Reading (Option Expression) := do
    match ← peek with
    | .newline | .finish | .sign ";" | .sign "\x7d" => pure none
    | _ => pure (some (← expression fuel false))
  match ← peek with
  | .word "print" =>
    skip
    let values ← printedValues fuel
    pure (.print values (← target? fuel))
  | .word "printf" =>
    skip
    let line := (← next).line
    let values ← printedValues fuel
    if values.isEmpty then fault line "no arguments in call to printf"
    pure (.format values (← target? fuel))
  | .word "next" =>
    skip
    pure .nextRecord
  | .word "nextfile" =>
    skip
    pure .nextFile
  | .word "break" =>
    skip
    pure .leave
  | .word "continue" =>
    skip
    pure .again
  | .word "exit" =>
    skip
    pure (.exit (← optional))
  | .word "return" =>
    skip
    pure (.giveBack (← optional))
  | .word "delete" =>
    skip
    let table ← name
    if ← accept "[" then
      let keys ← expressions fuel false
      expect "]"
      pure (.delete table (some keys))
    else pure (.delete table none)
  | _ => pure (.expression (← expression fuel false))

def ending : Reading Unit := do
  match ← peek with
  | .newline => skipLines
  | .sign ";" =>
    skip
    skipLines
  | .sign "\x7d" => pure ()
  | .finish => missing "\x7d"
  | _ => wrong

def keysOf? : Reading (Option (String × String)) := do
  match ← get with
  | ⟨.name key, _⟩ :: ⟨.word "in", _⟩ :: ⟨.name table, _⟩ :: ⟨.sign ")", _⟩ :: rest =>
    set rest
    pure (some (key, table))
  | _ => pure none

mutual

def statement : Nat → Reading Statement
  | 0 => wrong
  | fuel + 1 => do
    match ← peek with
    | .sign "\x7b" =>
      skip
      let parts ← statements fuel
      skipLines
      pure (.block parts)
    | .sign ";" =>
      skip
      skipLines
      pure (.block [])
    | .word "if" =>
      skip
      expect "("
      let condition ← expression fuel false
      expect ")"
      skipLines
      let yes ← statement fuel
      if ← acceptWord "else" then
        skipLines
        let no ← statement fuel
        pure (.choice condition yes (some no))
      else pure (.choice condition yes none)
    | .word "while" =>
      skip
      expect "("
      let condition ← expression fuel false
      expect ")"
      if ← accept ";" then
        skipLines
        pure (.whileDo condition (.block []))
      else
        skipLines
        pure (.whileDo condition (← statement fuel))
    | .word "do" =>
      skip
      skipLines
      let body ← statement fuel
      if !(← acceptWord "while") then wrong
      expect "("
      let condition ← expression fuel false
      expect ")"
      ending
      pure (.doWhile body condition)
    | .word "for" =>
      skip
      expect "("
      match ← keysOf? with
      | some (key, table) =>
        skipLines
        pure (.forKeys key table (← statement fuel))
      | none =>
        let first ← if (← peek).isSign ";" then pure none else pure (some (← simple fuel))
        expect ";"
        skipLines
        let condition ← if (← peek).isSign ";" then pure none
          else pure (some (← expression fuel false))
        expect ";"
        skipLines
        let last ← if (← peek).isSign ")" then pure none else pure (some (← simple fuel))
        expect ")"
        if ← accept ";" then
          skipLines
          pure (.forDo first condition last (.block []))
        else
          skipLines
          pure (.forDo first condition last (← statement fuel))
    | _ =>
      let s ← simple fuel
      ending
      pure s

def statements : Nat → Reading (List Statement)
  | 0 => wrong
  | fuel + 1 => do
    skipLines
    if ← accept "\x7d" then pure []
    else
      match ← peek with
      | .finish => missing "\x7d"
      | _ =>
        let s ← statement fuel
        let others ← statements fuel
        pure (s :: others)

end

def body? (fuel : Nat) : Reading (Option (List Statement)) := do
  if ← accept "\x7b" then pure (some (← statements fuel)) else pure none

def body (fuel : Nat) : Reading (List Statement) := do
  match ← body? fuel with
  | some parts => pure parts
  | none => wrong

def ruleEnd (hasBody : Bool) : Reading Unit := do
  match ← peek with
  | .newline => skipLines
  | .sign ";" =>
    skip
    skipLines
  | .finish => pure ()
  | _ => if hasBody then pure () else wrong

def names : Nat → Reading (List String)
  | 0 => wrong
  | fuel + 1 => do
    let first ← name
    if ← accept "," then
      skipLines
      pure (first :: (← names fuel))
    else pure [first]

def item (fuel : Nat) (p : Program) : Reading Program := do
  let withRule (trigger : Trigger) (parts : Option (List Statement)) : Program :=
    { p with rules := p.rules ++ [⟨trigger, parts⟩] }
  match ← peek with
  | .word "BEGIN" =>
    skip
    let parts ← body fuel
    ruleEnd true
    pure (withRule .start (some parts))
  | .word "END" =>
    skip
    let parts ← body fuel
    ruleEnd true
    pure (withRule .finish (some parts))
  | .word "function" =>
    skip
    let title ← match ← peek with
      | .name s | .function s =>
        skip
        pure s
      | _ => wrong
    expect "("
    let parameters ← if (← peek).isSign ")" then pure [] else names fuel
    expect ")"
    skipLines
    let parts ← body fuel
    ruleEnd true
    pure { p with functions := p.functions ++ [⟨title, parameters, parts⟩] }
  | .sign "\x7b" =>
    let parts ← body fuel
    ruleEnd true
    pure (withRule .always (some parts))
  | .sign "\x7d" =>
    let line := (← next).line
    skip
    tryCatch wrong (fun e => tryCatch (fault line "extra '\x7d'") (fun first => throw (first ++ e)))
  | _ =>
    let first ← expression fuel false
    let trigger ← if ← accept "," then
        skipLines
        pure (Trigger.between first (← expression fuel false))
      else pure (Trigger.fits first)
    let parts ← body? fuel
    ruleEnd parts.isSome
    pure (withRule trigger parts)

def items (fuel : Nat) : Nat → Program → Reading Program
  | 0, p => pure p
  | n + 1, p => do
    match ← peek with
    | .finish => pure p
    | _ => items fuel n (← item fuel p)

end Reading

/-- What is wrong with a program beyond its form: a regular expression, or a function that is called
and that there is none of. -/
def Program.fault? (p : Program) (all : List Lexeme) : Option String :=
  let line (n : Nat) (text : String) : String :=
    "line " ++ String.ofList (Decimal.digits n) ++ ": " ++ text
  let expression := all.findSome? (fun l => match l.token with
    | .pattern s =>
      match expressionOf s with
      | .ok _ => none
      | .error e =>
        some (line l.line ("regular expression compile failed (" ++ e ++ ")\n" ++ String.ofList s))
    | _ => none)
  let last := (all.getLast?.map Lexeme.line).getD 1
  let function := all.findSome? (fun l => match l.token with
    | .function s =>
      if p.functions.any (fun f => f.name = s) then none
      else some (line last ("function " ++ s ++ " never defined"))
    | _ => none)
  expression.or function

def Program.read (s : List Char) : Except (List String) Program := do
  let all ← (Token.readAll (s.length + 1) 1 false s).mapError (fun e => [e])
  let fuel := 20 * all.length + 20
  let reading : Reading Program := do
    Reading.skipLines
    Reading.items fuel (all.length + 1) {}
  let (p, _) ← reading.run all
  match p.fault? all with
  | some e => .error [e]
  | none => pure p

end BuoyGateway.Shell.Rules
