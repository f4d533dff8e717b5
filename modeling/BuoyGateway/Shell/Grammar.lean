import BuoyGateway.Shell.Source

/-!
# The grammar of scripts

A script is read line by line: `nextLine` takes the commands up to the end of a line, with all that
they hold. Quotes, parameters and nested scripts are read inside the words where they stand.
-/

namespace BuoyGateway.Shell.Grammar

open Reading

/-! ### Characters -/

def isDelimiter (c : Char) : Bool := c ∈ [' ', '\t', '\n', ';', '&', '|', '<', '>', '(', ')']

def isSpecialParameter (c : Char) : Bool := c ∈ ['@', '*', '#', '?', '-', '$', '!']

def reserved : List String :=
  ["!", "case", "do", "done", "elif", "else", "esac", "fi", "for", "if", "in", "then", "until",
   "while", "\x7b", "\x7d"]

def leading : List String :=
  ["!", "do", "elif", "else", "if", "then", "until", "while", "\x7b"]

/-- The commands of the shell that no function can take the name of. -/
def guarded : List String :=
  [".", ":", "break", "continue", "eval", "exec", "exit", "export", "readonly", "return", "set",
   "shift", "times", "trap", "unset", "local"]

/-! ### Where a piece of a word stands -/

inductive Site
  | word
  | quotes (inBraces : Bool)
  | braces (quoted : Bool)
  | arithmetic (depth : Nat)
  | document
  deriving DecidableEq, Repr

namespace Site

def isQuoted : Site → Bool
  | .word | .braces false => false
  | _ => true

def hasQuotes : Site → Bool
  | .word | .braces _ => true
  | _ => false

def isEnd : Site → List Char → Bool
  | .word, s => (s.head?.map isDelimiter).getD true
  | .quotes _, s => s.head? = some '"'
  | .braces _, s => s.head? = some '\x7d'
  | .arithmetic depth, s => depth = 0 && [')', ')'].isPrefixOf s
  | .document, s => s.isEmpty

def unfinished : Site → String
  | .braces false => "Missing '\x7d'"
  | .arithmetic _ => "Missing '))'"
  | _ => "Unterminated quoted string"

def escapes (site : Site) (c : Char) : Bool :=
  match site with
  | .word | .braces false => true
  | .quotes false => c ∈ ['$', '\x60', '"', '\\']
  | .quotes true | .braces true => c ∈ ['$', '\x60', '"', '\\', '\x7d']
  | .arithmetic _ => c ∈ ['$', '\x60', '"', '\\']
  | .document => c ∈ ['$', '\x60', '\\']

def isPlain (site : Site) (c : Char) : Bool :=
  !(c ∈ ['\\', '$', '\x60']) && !(site.hasQuotes && c = '"') && !(c = '\'' && !site.isQuoted) &&
    (match site with
      | .word => !isDelimiter c
      | .quotes _ => c != '"'
      | .braces _ => c != '\x7d'
      | .arithmetic _ => c != '(' && c != ')'
      | .document => true)

def piece (site : Site) (s : List Char) : Piece :=
  if site.isQuoted then .quoted s else .literal s

def withinQuotes : Site → Site
  | .braces _ => .quotes true
  | _ => .quotes false

end Site

/-- The text up to a backquote, and what follows it. A backslash is taken away in front of the
characters that it takes the meaning from. -/
def untilBackquote (quoted : Bool) : List Char → Option (List Char × List Char)
  | [] => none
  | '\x60' :: s => some ([], s)
  | '\\' :: '\n' :: s => untilBackquote quoted s
  | '\\' :: c :: s =>
    (untilBackquote quoted s).map (fun (text, rest) =>
      (if c ∈ ['$', '\x60', '\\'] || (quoted && c = '"') then c :: text else '\\' :: c :: text,
        rest))
  | c :: s => (untilBackquote quoted s).map (fun (text, rest) => (c :: text, rest))

/-- The pieces between two quotes. They make a word even where they are empty, unless they are
all arguments of the script, which may be none. -/
def inQuotes : List Piece → List Piece
  | [.parameter "@" .value quotes] => [.parameter "@" .value quotes]
  | inner => .quoted [] :: inner

/-- What begins a parameter in braces: its name, whether its size is wanted, whether all is well so
far, and the text after it. -/
def parameterHead (s : List Char) : List Char × Bool × Bool × List Char :=
  let named (s : List Char) : List Char × List Char :=
    match s with
    | c :: _ =>
      let name := if c.isDigit then s.takeWhile Char.isDigit else s.takeWhile isNamePart
      (name, s.drop name.length)
    | [] => ([], [])
  match s with
  | [] => ([], false, true, [])
  | '\x7d' :: _ => ([], false, false, s)
  | '#' :: c :: rest =>
    if isNamePart c then
      let (name, rest) := named (c :: rest)
      (name, true, rest.head? = some '\x7d', rest)
    else if c != '\x7d' && rest.head? = some '\x7d' then ([c], true, isSpecialParameter c, rest)
    else (['#'], false, true, c :: rest)
  | c :: rest =>
    if isNamePart c then
      let (name, rest) := named s
      (name, false, true, rest)
    else ([c], false, isSpecialParameter c, rest)

/-- Which tokens a word may turn into, and whether newlines may stand in front of a token. -/
structure Manner where
  newlines : Bool := false
  keywords : Bool := false
  aliases : Bool := false

namespace Manner

def start : Manner := { keywords := true, aliases := true }

/-- A token where a command has to begin, on this line or a later one. -/
def body : Manner := { newlines := true, keywords := true, aliases := true }

def branch : Manner := { newlines := true, keywords := true }

end Manner

def tooDeep {α : Type} : Reading α := refuse "too deeply nested"

/-- Takes a document out of the lines that follow the one that is being read, which ends where so
much text is left: its lines, and the line that it begins on. -/
def takeDocument (tabs slashes : Bool) (stop : List Char) (left : Nat) :
    Reading (List Char × Nat) := do
  let s ← get
  let here := s.text.take (s.text.length - left)
  let below := s.text.drop here.length
  let (body, rest) := documentLines tabs slashes stop (below.length + 1) false below
  let lines := below.count '\n' - rest.count '\n'
  set { s with text := here ++ rest, taken := (rest.length, lines) :: s.taken }
  pure (body, ({ s with text := below } : Source).line)

mutual

def pieces : Nat → Site → Reading (List Piece)
  | 0, _ => tooDeep
  | fuel + 1, site => do
    let s ← text
    if site.isEnd s then pure []
    else
      match s with
      | [] => refuse site.unfinished
      | '\\' :: '\n' :: rest =>
        goOn rest
        pieces fuel site
      | ['\\'] =>
        goOn []
        pure (.quoted ['\\'] :: (← pieces fuel site))
      | '\\' :: c :: rest =>
        goOn rest
        let piece := Piece.quoted (if site.escapes c then [c] else ['\\', c])
        pure (piece :: (← pieces fuel site))
      | '$' :: rest =>
        goOn rest
        let piece ← dollar fuel site.isQuoted
        pure (piece :: (← pieces fuel site))
      | '\x60' :: rest =>
        match untilBackquote site.isQuoted rest with
        | none =>
          goOn []
          refuse "EOF in backquote substitution"
        | some (inner, rest) =>
          let outer ← get
          set { Source.ofText outer.aliases inner with groups := some [] }
          let steps ← list fuel false true []
          set { outer with text := rest }
          pure (.output (.sequence steps) site.isQuoted :: (← pieces fuel site))
      | '(' :: rest =>
        goOn rest
        let within := match site with
          | .arithmetic depth => .arithmetic (depth + 1)
          | _ => site
        pure (site.piece ['('] :: (← pieces fuel within))
      | ')' :: rest =>
        goOn rest
        let within := match site with
          | .arithmetic depth => .arithmetic (depth - 1)
          | _ => site
        pure (site.piece [')'] :: (← pieces fuel within))
      | c :: rest =>
        if c = '\'' && !site.isQuoted then
          let inner := rest.takeWhile (fun d => d != '\'')
          match rest.drop inner.length with
          | [] =>
            goOn []
            refuse "Unterminated quoted string"
          | _ :: rest =>
            goOn rest
            pure (.quoted inner :: (← pieces fuel site))
        else if c = '"' && site.hasQuotes then
          goOn rest
          let inner ← pieces fuel site.withinQuotes
          modify (fun s => { s with text := s.text.drop 1 })
          pure (inQuotes inner ++ (← pieces fuel site))
        else
          let run := rest.takeWhile site.isPlain
          goOn (rest.drop run.length)
          pure (site.piece (c :: run) :: (← pieces fuel site))

def dollar : Nat → Bool → Reading Piece
  | 0, _ => tooDeep
  | fuel + 1, quotes => do
    let s := skipJoins (← text)
    match s with
    | '(' :: '(' :: rest =>
      goOn rest
      let expression ← pieces fuel (.arithmetic 0)
      modify (fun s => { s with text := s.text.drop 2 })
      pure (.arithmetic expression quotes)
    | '(' :: rest =>
      let groups := (← get).groups
      modify (fun s => { s with text := rest, groups := some [] })
      let steps ← list fuel false true []
      match ← token fuel {} with
      | .closing =>
        modify (fun s => { s with groups })
        pure (.output (.sequence steps) quotes)
      | t => unexpected t (some "\")\"")
    | '\x7b' :: rest =>
      goOn (skipJoins rest)
      braces fuel quotes
    | c :: rest =>
      if isSpecialParameter c || c.isDigit then
        goOn rest
        pure (.parameter (String.singleton c) .value quotes)
      else if isNameStart c then
        let name := c :: rest.takeWhile isNamePart
        goOn ((c :: rest).drop name.length)
        pure (.parameter (String.ofList name) .value quotes)
      else pure (if quotes then .quoted ['$'] else .literal ['$'])
    | [] => pure (if quotes then .quoted ['$'] else .literal ['$'])

def braces : Nat → Bool → Reading Piece
  | 0, _ => tooDeep
  | fuel + 1, quotes => do
    let (name, size, sound, rest) := parameterHead (← text)
    if !sound then goPast (name.headD ' ')
    let name := String.ofList name
    goOn rest
    let rest := skipJoins rest
    let ended (quoted : Bool) (rest : List Char) : Reading (List Piece) := do
      goOn rest
      let word ← pieces fuel (.braces quoted)
      modify (fun s => { s with text := s.text.drop 1 })
      pure word
    let bad (rest : List Char) (c : Char) : Reading Piece := do
      goPast c
      let _ ← ended quotes rest
      pure (.parameter name .bad quotes)
    if !sound then bad rest ' '
    else if size then
      goOn (rest.drop 1)
      pure (.parameter name .size quotes)
    else
      match rest with
      | '\x7d' :: rest =>
        goOn rest
        pure (.parameter name .value quotes)
      | ':' :: '\x7d' :: rest =>
        let _ ← ended quotes rest
        pure (.parameter name .value quotes)
      | ':' :: c :: rest =>
        match Substitute.ofChar? c with
        | none => bad rest c
        | some how => pure (.parameter name (.otherwise true how (← ended quotes rest)) quotes)
      | c :: rest =>
        if c = '%' || c = '#' then
          let longest := (skipJoins rest).head? = some c
          let rest := if longest then (skipJoins rest).drop 1 else rest
          pure (.parameter name (.without (c = '%') longest (← ended false rest)) quotes)
        else
          match Substitute.ofChar? c with
          | none => bad rest c
          | some how => pure (.parameter name (.otherwise false how (← ended quotes rest)) quotes)
      | [] => bad [] ' '

def rawToken : Nat → Reading Token
  | 0 => tooDeep
  | fuel + 1 => do
    let s := skipBlanks (← text)
    let single (rest : List Char) (t : Token) : Reading Token := do
      goOn rest
      pure t
    let double (c : Char) (rest : List Char) (t u : Token) : Reading Token :=
      match skipJoins rest with
      | d :: after => if d = c then single after u else single (d :: after) t
      | [] => single [] t
    match s with
    | [] => single [] .finish
    | '\n' :: rest =>
      goOn rest
      pure .newline
    | '&' :: rest => double '&' rest .ampersand .both
    | '|' :: rest => double '|' rest .pipe .either
    | ';' :: rest => double ';' rest .semicolon .branchEnd
    | '(' :: rest => single rest .opening
    | ')' :: rest => single rest .closing
    | '<' :: rest => direction 0 true rest
    | '>' :: rest => direction 1 false rest
    | c :: rest =>
      match if c.isDigit then skipJoins rest else [] with
      | '<' :: rest => direction (c.toNat - 48) true rest
      | '>' :: rest => direction (c.toNat - 48) false rest
      | _ =>
        goOn s
        pure (.word (← pieces fuel .word))
where
  direction (descriptor : Nat) (input : Bool) (rest : List Char) : Reading Token := do
    let rest := skipJoins rest
    let made (rest : List Char) (d : Direction) : Reading Token := do
      goOn rest
      pure (.redirection descriptor d)
    match input, rest with
    | true, '<' :: rest =>
      match skipJoins rest with
      | '-' :: rest => made rest (.document true)
      | rest => made rest (.document false)
    | true, '&' :: rest | false, '&' :: rest => made rest .copy
    | true, '>' :: rest => made rest (.file .both)
    | true, rest => made rest (.file .reading)
    | false, '>' :: rest => made rest (.file .appending)
    | false, '|' :: rest => made rest (.file .replacing)
    | false, rest => made rest (.file .writing)

/-- The next token, which a word turns into as far as that is asked for. -/
def token : Nat → Manner → Reading Token
  | 0, _ => tooDeep
  | fuel + 1, manner => do
    let before ← get
    let t ← (match before.returned with
      | some t => do
        set { before with returned := none }
        pure t
      | none => rawToken fuel : Reading Token)
    match t with
    | .newline => if manner.newlines then token fuel manner else pure t
    | .word pieces =>
      match Token.plain? pieces with
      | none => pure t
      | some word =>
        if manner.keywords && reserved.contains word then pure (.keyword word)
        else
          let s ← get
          let size := if before.replaced.isEmpty then 0 else before.text.length
          let isOver (r : Replacement) : Bool :=
            r.blank && r.rest < size && s.text.length + word.length ≤ r.rest
          if manner.aliases || before.replaced.any isOver then
            let inUse := s.current.any (fun r => r.name == word)
            match if inUse then none else s.aliases.lookup word with
            | some text =>
              set (s.replace word text.toList)
              token fuel { manner with aliases := true }
            | none => pure t
          else pure t
    | t => pure t

/-- A list of commands, the latest of those that were read first. On a line it ends with the line;
elsewhere it ends in front of a token that ends lists, but not before it has `started`. -/
def list : Nat → Bool → Bool → List Script → Reading (List Script)
  | 0, _, _, _ => tooDeep
  | fuel + 1, onLine, started, steps => do
    match ← token fuel { Manner.start with newlines := !onLine } with
    | .newline => pure steps.reverse
    | .finish =>
      giveBack .finish
      pure steps.reverse
    | t =>
      giveBack t
      if started && !onLine && t.endsList then pure steps.reverse
      else
        let line := (← get).line
        let step ← andOr fuel
        match ← token fuel {} with
        | .finish =>
          giveBack .finish
          pure (step :: steps).reverse
        | .newline =>
          giveBack .newline
          list fuel onLine true (step :: steps)
        | .semicolon => list fuel onLine true (step :: steps)
        | .ampersand => list fuel onLine true (.background line step :: steps)
        | t =>
          if onLine then unexpected t none
          else
            giveBack t
            pure (step :: steps).reverse

def body : Nat → Reading Script
  | 0 => tooDeep
  | fuel + 1 => do pure (.sequence (← list fuel false false []))

def keyword : Nat → Manner → String → Reading Unit
  | 0, _, _ => tooDeep
  | fuel + 1, manner, word => do
    let t ← token fuel manner
    if !t.isKeyword word then unexpected t (some ("\"" ++ word ++ "\""))

def andOr : Nat → Reading Script
  | 0 => tooDeep
  | fuel + 1 => do
    let first ← pipeline fuel {}
    andOrRest fuel first

def andOrRest : Nat → Script → Reading Script
  | 0, _ => tooDeep
  | fuel + 1, first => do
    match ← token fuel {} with
    | .both => andOrRest fuel (.both first (← pipeline fuel Manner.body))
    | .either => andOrRest fuel (.either first (← pipeline fuel Manner.body))
    | t =>
      giveBack t
      pure first

def pipeline : Nat → Manner → Reading Script
  | 0, _ => tooDeep
  | fuel + 1, manner => do
    let t ← token fuel manner
    let negated := t.isKeyword "!"
    if !negated then giveBack t
    let stages ← stages fuel (if negated then Manner.start else {})
    let whole := match stages with
      | [stage] => stage
      | stages => .pipeline stages
    pure (if negated then .negation whole else whole)

def stages : Nat → Manner → Reading (List Script)
  | 0, _ => tooDeep
  | fuel + 1, manner => do
    let first ← command fuel manner
    match ← token fuel {} with
    | .pipe => pure (first :: (← stages fuel Manner.body))
    | t =>
      giveBack t
      pure [first]

def command : Nat → Manner → Reading Script
  | 0, _ => tooDeep
  | fuel + 1, manner => do
    let line := (← get).line
    match ← token fuel manner with
    | .keyword "\x7b" =>
      let inner ← body fuel
      keyword fuel {} "\x7d"
      compound fuel line inner
    | .keyword "if" =>
      let inner ← conditional fuel
      compound fuel line inner
    | .keyword "while" =>
      let inner ← loop fuel false
      compound fuel line inner
    | .keyword "until" =>
      let inner ← loop fuel true
      compound fuel line inner
    | .keyword "for" =>
      match ← token fuel {} with
      | .word pieces =>
        let name := (Token.plain? pieces).getD ""
        if !isName name.toList then refuse "Bad for loop variable"
        let words ← forWords fuel
        keyword fuel Manner.body "do"
        let inner ← body fuel
        keyword fuel {} "done"
        compound fuel line (.each line name words inner)
      | _ => refuse "Bad for loop variable"
    | .keyword "case" =>
      match ← token fuel {} with
      | .word subject =>
        keyword fuel Manner.body "in"
        modify (Source.enter .choice)
        let branches ← branches fuel (← token fuel Manner.branch)
        modify Source.leave
        compound fuel line (.choice line subject branches)
      | t => unexpected t (some "word")
    | .opening =>
      modify (Source.enter .parenthesis)
      let inner ← body fuel
      match ← token fuel {} with
      | .closing =>
        modify Source.leave
        compound fuel line (.subshell line inner)
      | t => unexpected t (some "\")\"")
    | .word pieces =>
      giveBack (.word pieces)
      simple fuel (← get).line true [] [] []
    | .redirection descriptor d =>
      giveBack (.redirection descriptor d)
      simple fuel (← get).line true [] [] []
    | t => unexpected t none

def compound : Nat → Nat → Script → Reading Script
  | 0, _, _ => tooDeep
  | fuel + 1, line, inner => do
    match ← redirections fuel with
    | [] => pure inner
    | redirections => pure (.redirected line inner redirections)

def redirections : Nat → Reading (List Redirection)
  | 0 => tooDeep
  | fuel + 1 => do
    match ← token fuel Manner.start with
    | .redirection descriptor d =>
      let r ← redirection fuel descriptor d
      pure (r :: (← redirections fuel))
    | t =>
      giveBack t
      pure []

def conditional : Nat → Reading Script
  | 0 => tooDeep
  | fuel + 1 => do
    let test ← body fuel
    keyword fuel {} "then"
    let yes ← body fuel
    match ← token fuel {} with
    | .keyword "elif" => pure (.conditional test yes (← conditional fuel))
    | .keyword "else" =>
      let no ← body fuel
      keyword fuel {} "fi"
      pure (.conditional test yes no)
    | t =>
      giveBack t
      keyword fuel {} "fi"
      pure (.conditional test yes .nothing)

def loop : Nat → Bool → Reading Script
  | 0, _ => tooDeep
  | fuel + 1, whileFails => do
    let test ← body fuel
    keyword fuel {} "do"
    let inner ← body fuel
    keyword fuel {} "done"
    pure (.loop whileFails test inner)

/-- The words that a loop goes through; none for the arguments of the script. -/
def forWords : Nat → Reading (Option (List (List Piece)))
  | 0 => tooDeep
  | fuel + 1 => do
    match ← token fuel Manner.body with
    | .keyword "in" => pure (some (← wordList fuel))
    | .semicolon => pure none
    | t =>
      giveBack t
      pure none

def wordList : Nat → Reading (List (List Piece))
  | 0 => tooDeep
  | fuel + 1 => do
    match ← token fuel {} with
    | .word pieces => pure (pieces :: (← wordList fuel))
    | .newline | .semicolon => pure []
    | t => unexpected t none

def branches : Nat → Token → Reading (List (List (List Piece) × Script))
  | 0, _ => tooDeep
  | fuel + 1, t => do
    if t.isKeyword "esac" then pure []
    else
      let first ← (match t with
        | .opening => token fuel {}
        | t => pure t : Reading Token)
      let patterns ← patterns fuel first
      let branch := (patterns, Script.sequence (← list fuel false true []))
      match ← token fuel Manner.branch with
      | .branchEnd => pure (branch :: (← branches fuel (← token fuel Manner.branch)))
      | t =>
        if t.isKeyword "esac" then pure [branch] else unexpected t (some "\";;\"")

def patterns : Nat → Token → Reading (List (List Piece))
  | 0, _ => tooDeep
  | fuel + 1, first => do
    match ← token fuel {} with
    | .pipe => pure (first.pieces :: (← patterns fuel (← token fuel {})))
    | .closing => pure [first.pieces]
    | t => unexpected t (some "\")\"")

/-- Skips what is left of the line that is being read, where the next token `begins` a command or
not; false if the line ends with the text, or with the script whose output is wanted. -/
def restOfLine : Nat → Bool → Reading Bool
  | 0, _ => pure false
  | fuel + 1, begins => do
    match ← rawToken fuel, (← get).groups with
    | .newline, _ => pure true
    | .finish, _ => pure false
    | .opening, _ =>
      modify (Source.enter .parenthesis)
      restOfLine fuel true
    | .closing, some [] => pure false
    | .closing, some (.parenthesis :: _) =>
      modify Source.leave
      restOfLine fuel true
    | .word pieces, groups =>
      let inChoice := (groups.bind List.head?) = some .choice
      match Token.plain? pieces with
      | some "case" =>
        if begins then modify (Source.enter .choice)
        restOfLine fuel false
      | some "esac" =>
        if begins && inChoice then modify Source.leave
        restOfLine fuel begins
      | some "in" => restOfLine fuel inChoice
      | some word => restOfLine fuel (begins && leading.contains word)
      | none => restOfLine fuel false
    | .redirection .., _ => restOfLine fuel false
    | _, _ => restOfLine fuel true

def redirection : Nat → Nat → Direction → Reading Redirection
  | 0, _, _ => tooDeep
  | fuel + 1, descriptor, d => do
    match d with
    | .document tabs =>
      let rest := skipBlanks (← text)
      goOn rest
      let isRedirection := match rest with
        | c :: d :: _ => c.isDigit && (d = '<' || d = '>')
        | _ => false
      if isRedirection || (rest.head?.map isDelimiter).getD true then
        unexpected (← rawToken fuel) none
      else
        match documentMark isDelimiter (rest.length + 1) rest with
        | none =>
          goOn []
          refuse "Unterminated quoted string"
        | some (stop, plain, rest) =>
          goOn rest
          let s ← get
          let left := match (restOfLine fuel false).run s with
            | .ok (true, after) => after.text.length
            | _ => 0
          let (text, begins) ← takeDocument tabs (!plain) stop left
          if plain then pure (.document descriptor [.quoted text])
          else
            let outer ← get
            set ({ Source.ofText outer.aliases text with
              lastLine := begins + text.count '\n' } : Source)
            let word ← pieces fuel .document
            set outer
            pure (.document descriptor word)
    | d =>
      match ← token fuel {} with
      | .word pieces =>
        match d with
        | .file opening => pure (.file descriptor opening pieces)
        | _ => pure (.copy descriptor pieces)
      | t => unexpected t none

/-- A command of words, with its assignments, words and redirections so far, the latest first. The
command may still begin with an alias or an assignment while it has no words. -/
def simple : Nat → Nat → Bool → List (String × List Piece) → List (List Piece) →
    List Redirection → Reading Script
  | 0, _, _, _, _, _ => tooDeep
  | fuel + 1, line, opens, assignments, words, redirections => do
    let finished : Script :=
      .simple line assignments.reverse words.reverse redirections.reverse
    match ← token fuel { aliases := opens } with
    | .word pieces =>
      match opens, assignment? pieces with
      | true, some assignment =>
        simple fuel line opens (assignment :: assignments) words redirections
      | _, _ => simple fuel line false assignments (pieces :: words) redirections
    | .redirection descriptor d =>
      let r ← redirection fuel descriptor d
      simple fuel line opens assignments words (r :: redirections)
    | .opening =>
      match assignments, words, redirections with
      | [], [pieces], [] =>
        match ← token fuel {} with
        | .closing =>
          let name := (Token.plain? pieces).getD ""
          if !isName name.toList || guarded.contains name then refuse "Bad function name"
          pure (.define name (← command fuel Manner.body))
        | t => unexpected t (some "\")\"")
      | _, _, _ =>
        giveBack .opening
        pure finished
    | t =>
      giveBack t
      pure finished

end

/-- How deep a text and what names stand for in it may nest. -/
def depthOf (s : Source) : Nat :=
  10 * (s.text.length + (s.aliases.map (fun a => a.2.length)).foldl (· + ·) 0) + 200

/-- The commands of the next line, and what is left to read; nothing at the end of the text. -/
def nextLine (s : Source) : Except Flaw (Option (Script × Source)) := do
  let (steps, rest) ← (list (depthOf s) true false []).run s
  let ended := rest.returned.isSome
  if steps.isEmpty && ended then pure none
  else pure (some (.sequence steps, { rest with returned := none }))

def quotedText (text : List Char) : Except Flaw (List Piece) := do
  let s := Source.ofText [] text
  pure (← (pieces (depthOf s) .document).run s).1

end BuoyGateway.Shell.Grammar
