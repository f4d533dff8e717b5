import BuoyGateway.Shell.Format
import BuoyGateway.Shell.Utility.Basic

/-!
# The order of lines

Lines are compared as a whole or by keys, which begin and end at characters of fields. One utility
sorts lines, and one looks at equal neighbours.
-/

namespace BuoyGateway.Shell.Utility

/-! ### Order -/

structure KeyOrder where
  numeric : Bool := false
  general : Bool := false
  human : Bool := false
  version : Bool := false
  month : Bool := false
  anyCase : Bool := false
  dictionary : Bool := false
  printable : Bool := false
  /-- Blanks in front do not count, at the beginning and at the end of a key. -/
  skipFirst : Bool := false
  skipLast : Bool := false
  reversed : Bool := false
  deriving DecidableEq, Repr

/-- An order with what a letter asks for, at the beginning of a key or at its end. -/
def KeyOrder.with? (o : KeyOrder) (atEnd : Bool) (c : Char) : Option KeyOrder :=
  match c with
  | 'n' => some { o with numeric := true }
  | 'g' => some { o with general := true }
  | 'h' => some { o with human := true }
  | 'V' => some { o with version := true }
  | 'M' => some { o with month := true }
  | 'f' => some { o with anyCase := true }
  | 'd' => some { o with dictionary := true }
  | 'i' => some { o with printable := true }
  | 'b' => some (if atEnd then { o with skipLast := true } else { o with skipFirst := true })
  | 'r' => some { o with reversed := true }
  | _ => none

/-- A key: the field and the character where it begins, and those where it ends, counted from one;
no character means the whole field. -/
structure Key where
  field : Nat := 1
  char : Nat := 1
  lastField : Option Nat := none
  lastChar : Nat := 0
  order : KeyOrder := {}
  hasOrder : Bool := false

def isBlank (c : Char) : Bool := c = ' ' || c = '\t' || c = '\n'

def fieldEnd (tab : Option Char) (s : List Char) : Nat :=
  match tab with
  | some t => (s.takeWhile (fun c => c != t)).length
  | none =>
    let blanks := (s.takeWhile isBlank).length
    blanks + ((s.drop blanks).takeWhile (fun c => !isBlank c)).length

def afterFields (tab : Option Char) : Nat → List Char → Nat
  | 0, _ => 0
  | n + 1, s =>
    let e := fieldEnd tab s
    let e := if tab.isSome then min (e + 1) s.length else e
    e + afterFields tab n (s.drop e)

def Key.text (k : Key) (tab : Option Char) (s : List Char) : List Char :=
  let start := afterFields tab (k.field - 1) s
  let start :=
    if k.order.skipFirst then start + ((s.drop start).takeWhile isBlank).length else start
  let start := min s.length (start + (k.char - 1))
  let finish := match k.lastField with
    | none => s.length
    | some f =>
      let before := afterFields tab (f - 1) s
      if k.lastChar = 0 then before + fieldEnd tab (s.drop before)
      else
        let before :=
          if k.order.skipLast then before + ((s.drop before).takeWhile isBlank).length
          else before
        min s.length (before + k.lastChar)
  (s.take finish).drop start

/-- A number at the front of a text: its sign, its whole part without zeros in front, its fraction
without zeros at its end, and what follows. -/
def leadingNumber (s : List Char) : Bool × List Char × List Char × List Char :=
  let s := s.dropWhile isBlank
  let (negative, s) := match s with
    | '-' :: rest => (true, rest)
    | _ => (false, s)
  let whole := s.takeWhile Char.isDigit
  let s := s.drop whole.length
  let (fraction, s) := match s with
    | '.' :: rest =>
      let fraction := rest.takeWhile Char.isDigit
      (fraction, rest.drop fraction.length)
    | _ => ([], s)
  (negative, whole.dropWhile (fun c => c = '0'),
    (fraction.reverse.dropWhile (fun c => c = '0')).reverse, s)

def compareNumbers (a b : List Char) : Ordering :=
  let (na, wa, fa, _) := leadingNumber a
  let (nb, wb, fb, _) := leadingNumber b
  let zero (w f : List Char) : Bool := w.isEmpty && f.isEmpty
  let magnitudes : Ordering :=
    (compare wa.length wb.length).then ((compareTexts wa wb).then (compareTexts fa fb))
  match na && !zero wa fa, nb && !zero wb fb with
  | false, false => magnitudes
  | true, true => magnitudes.swap
  | true, false => .lt
  | false, true => .gt

def unitRank (s : List Char) : Nat :=
  let (_, w, f, rest) := leadingNumber s
  if w.isEmpty && f.isEmpty then 0
  else
    match rest.head? with
    | some c => (("kKMGTPEZY".toList.findIdx? (fun d => d = c)).map (fun i => max i 1)).getD 0
    | none => 0

/-- The order of two versions: parts that are no numbers and numbers in turn. -/
def compareVersions : Nat → List Char → List Char → Ordering
  | 0, a, b => compareTexts a b
  | fuel + 1, a, b =>
    if a.isEmpty || b.isEmpty then compare a.length b.length
    else
      let rank (s : List Char) : List Nat :=
        (s.takeWhile (fun c => !c.isDigit)).map (fun c =>
          if c = '~' then 0 else if c.isAlpha then c.toNat + 2 else c.toNat + 1000)
      let rec letters : List Nat → List Nat → Ordering
        | [], [] => .eq
        | [], y :: _ => if y = 0 then .gt else .lt
        | x :: _, [] => if x = 0 then .lt else .gt
        | x :: xs, y :: ys => (compare x y).then (letters xs ys)
      let rest (s : List Char) : List Char := s.dropWhile (fun c => !c.isDigit)
      let number (s : List Char) : List Char := (rest s).takeWhile Char.isDigit
      let after (s : List Char) : List Char := (rest s).dropWhile Char.isDigit
      let strip (s : List Char) : List Char := s.dropWhile (fun c => c = '0')
      let na := strip (number a)
      let nb := strip (number b)
      (letters (rank a) (rank b)).then ((compare na.length nb.length).then
        ((compareTexts na nb).then (compareVersions fuel (after a) (after b))))

/-- A name without the endings behind it that begin with a dot and a letter. -/
def withoutEndings (s : List Char) : List Char :=
  let isPart (c : Char) : Bool := c.isAlphanum || c = '~'
  let rec go : Nat → List Char → List Char
    | 0, r => r
    | fuel + 1, r =>
      let part := r.takeWhile isPart
      match r.drop part.length, part.getLast? with
      | '.' :: rest, some c => if c.isDigit then r else go fuel rest
      | _, _ => r
  (go s.length s.reverse).reverse

def compareNames (a b : List Char) : Ordering :=
  let fuel := a.length + b.length
  (compareVersions fuel (withoutEndings a) (withoutEndings b)).then (compareVersions fuel a b)

def monthOf (s : List Char) : Nat :=
  let word := ((s.dropWhile isBlank).take 3).map Char.toUpper
  let names := ["JAN", "FEB", "MAR", "APR", "MAY", "JUN", "JUL", "AUG", "SEP", "OCT", "NOV", "DEC"]
  match names.findIdx? (fun n => n.toList = word) with
  | some i => i + 1
  | none => 0

/-- The order of two numbers with exponents at the fronts of texts; what is no number comes
first. -/
def compareReals (a b : List Char) : Ordering :=
  let value (s : List Char) : Option (Int × Nat) := match Format.Real.read? s with
    | some (.finite negative x, _) =>
      let (num, den) := x.quotient
      some (if negative then -(num : Int) else num, den)
    | some (.infinite negative, _) => some (if negative then -1 else 1, 0)
    | _ => none
  match value a, value b with
  | none, none => .eq
  | none, some _ => .lt
  | some _, none => .gt
  | some (n, d), some (m, e) => compare (n * e) (m * d)

def KeyOrder.compare (o : KeyOrder) (a b : List Char) : Ordering :=
  let kept (s : List Char) : List Char :=
    let s := if o.dictionary then s.filter (fun c => c.isAlphanum || isBlank c) else s
    let s := if o.printable then s.filter (fun c => ' ' ≤ c && c ≤ '~') else s
    if o.anyCase then s.map Char.toUpper else s
  let result :=
    if o.numeric then compareNumbers a b
    else if o.general then compareReals a b
    else if o.human then
      let sign (s : List Char) : Int :=
        if (leadingNumber s).1 then -(unitRank s : Int) else unitRank s
      (Ord.compare (sign a) (sign b)).then (compareNumbers a b)
    else if o.month then Ord.compare (monthOf a) (monthOf b)
    else if o.version then compareNames a b
    else compareTexts (kept a) (kept b)
  if o.reversed then result.swap else result

/-- The order of two lines by some keys, without regard to anything else. -/
def compareKeys (keys : List Key) (tab : Option Char) (a b : List Char) : Ordering :=
  keys.foldl
    (fun (o : Ordering) k => o.then (k.order.compare (k.text tab a) (k.text tab b)))
    .eq

def keyEnd? (atEnd : Bool) (s : List Char) (o : KeyOrder) :
    Except String (Nat × Nat × KeyOrder × Bool × List Char) := do
  let what := if atEnd then "after ','" else "at field start"
  let all := String.ofList s
  let field := s.takeWhile Char.isDigit
  if field.isEmpty then
    throw ("invalid number " ++ what ++ ": invalid count at start of " ++ quote all)
  if Decimal.ofDigits field = 0 then
    throw ("field number is zero: invalid field specification " ++ quote all)
  let s := s.drop field.length
  let (char, s) ← match s with
    | '.' :: rest =>
      let digits := rest.takeWhile Char.isDigit
      if digits.isEmpty then
        throw ("invalid number after '.': invalid count at start of " ++
          quote (String.ofList rest))
      else if Decimal.ofDigits digits = 0 && !atEnd then
        throw ("character offset is zero: invalid field specification " ++ quote all)
      else pure (Decimal.ofDigits digits, rest.drop digits.length)
    | s => pure (if atEnd then 0 else 1, s)
  let letters := s.takeWhile Char.isAlpha
  let order := letters.foldl
    (fun (o : Option KeyOrder) c => o.bind (fun o => o.with? atEnd c)) (some o)
  match order with
  | some o => pure (Decimal.ofDigits field, char, o, !letters.isEmpty, s.drop letters.length)
  | none => throw ("stray character in field spec: invalid field specification " ++ quote all)

def Key.of? (s : String) : Except String Key := do
  let (field, char, order, hasOrder, rest) ← keyEnd? false s.toList {}
  match rest with
  | [] => pure { field, char, order, hasOrder }
  | ',' :: rest =>
    let (lastField, lastChar, order, more, rest) ← keyEnd? true rest order
    if rest.isEmpty then
      pure { field, char, lastField := some lastField, lastChar, order,
             hasOrder := hasOrder || more }
    else throw ("stray character in field spec: invalid field specification " ++ quote s)
  | _ => throw ("stray character in field spec: invalid field specification " ++ quote s)

def withoutRepeats (isEqual : List Char → List Char → Bool) : List (List Char) → List (List Char)
  | [] => []
  | l :: ls =>
    (ls.foldl
      (fun (acc : List Char × List (List Char)) next =>
        if isEqual acc.1 next then acc else (next, next :: acc.2))
      (l, [l])).2.reverse

def disorder? (isBad : List Char → List Char → Bool) :
    Nat → List (List Char) → Option (Nat × List Char)
  | n, a :: b :: rest => if isBad a b then some (n, b) else disorder? isBad (n + 1) (b :: rest)
  | _, _ => none

def tabOf (s : String) : Except String (Option Char) :=
  match s.toList with
  | [c] => .ok (some c)
  | ['\\', '0'] => .ok (some '\x00')
  | [] => .error "empty tab"
  | _ => .error ("multi-character tab " ++ quote s)

/-- The letters of an order that cannot be had together, if there are some. -/
def KeyOrder.conflict? (o : KeyOrder) : Option String :=
  let kinds := [o.numeric, o.general, o.human, o.month, o.version || o.dictionary || o.printable]
  if (kinds.filter (fun b => b)).length ≤ 1 then none
  else
    let letters := [(o.dictionary, 'd'), (o.anyCase, 'f'), (o.general, 'g'), (o.human, 'h'),
      (o.printable && !o.dictionary, 'i'), (o.month, 'M'), (o.numeric, 'n'), (o.version, 'V')]
    some (String.ofList (letters.filterMap (fun l => if l.1 then some l.2 else none)))

def orderLetter? (word : String) : Option Char :=
  (([("general-numeric", 'g'), ("human-numeric", 'h'), ("month", 'M'), ("numeric", 'n'),
    ("version", 'V')] : List (String × Char)).find? (fun w =>
      word != "" && word.toList.isPrefixOf w.1.toList)).map Prod.snd

/-- Arguments in which a key may be told by how many fields come before it. -/
def withKeys : List String → List String
  | [] => []
  | word :: rest =>
    let ending (s : List Char) : String :=
      let n := Decimal.ofDigits (s.takeWhile Char.isDigit)
      String.ofList (s.dropWhile Char.isDigit) |> (numeral n ++ ·)
    match word.toList, rest with
    | ['-', '-'], rest => word :: rest
    | '+' :: c :: s, last :: rest =>
      if !c.isDigit then word :: withKeys (last :: rest)
      else
        let digits := (c :: s).takeWhile Char.isDigit
        let key := "-k" ++ numeral (Decimal.ofDigits digits + 1) ++
          String.ofList (s.dropWhile Char.isDigit)
        match last.toList with
        | '-' :: d :: t =>
          if d.isDigit then (key ++ "," ++ ending (d :: t)) :: withKeys rest
          else key :: withKeys (last :: rest)
        | _ => key :: withKeys (last :: rest)
    | _, rest => word :: withKeys rest

/-- What is wrong with the options of `sort` taken together, if something is. -/
def sortFault? (given : Given) (keys : List Key) : Option String :=
  let clash (letters : String) : Option String :=
    some ("options '-" ++ letters ++ "' are incompatible")
  let tabs := (given.values 't').map String.toList
  let checks := given.flags.filter (fun f => f.1 = 'c' || f.1 = 'C')
  if tabs.any (fun t => some t != tabs.head?) then some "incompatible tabs"
  else if given.has 'c' && given.has 'C' then clash "cC"
  else
    match keys.findSome? (fun k => k.order.conflict?), checks with
    | some letters, _ => clash letters
    | none, [] => none
    | none, c :: _ =>
      match given.others with
      | _ :: extra :: _ =>
        some ("extra operand " ++ quote extra ++ " not allowed with -" ++ String.singleton c.1)
      | _ => if given.has 'o' then clash (String.ofList [c.1, 'o']) else none

def sort : Utility := fun _ call =>
  withFlags { call with arguments := withKeys call.arguments }
    ([{ letter := 'n', word := "numeric-sort" }, { letter := 'r', word := "reverse" },
      { letter := 'u', word := "unique" }, { letter := 'f', word := "ignore-case" },
      { letter := 'b', word := "ignore-leading-blanks" },
      { letter := 'd', word := "dictionary-order" },
      { letter := 'i', word := "ignore-nonprinting" },
      { letter := 'g', word := "general-numeric-sort" },
      { letter := 'h', word := "human-numeric-sort" }, { letter := 'V', word := "version-sort" },
      { letter := 'M', word := "month-sort" }, { letter := 's', word := "stable" },
      { letter := 'c' }, { letter := 'C' },
      { letter := 'Q', word := "check", taking := .attached, isShort := false },
      { letter := 'm', word := "merge" }, { letter := 'z', word := "zero-terminated" },
      { letter := 'k', word := "key", taking := .argument },
      { letter := 't', word := "field-separator", taking := .argument },
      { letter := 'o', word := "output", taking := .argument },
      { letter := 'W', word := "sort", taking := .argument, isShort := false },
      { letter := 'T', word := "temporary-directory", taking := .argument },
      { letter := 'S', word := "buffer-size", taking := .argument }]) true 2
    (fun given => do
      let given : Given := { given with flags := given.flags.map (fun f =>
        if f.1 = 'W' then ((orderLetter? f.2).getD 'W', "")
        else if f.1 = 'Q' then
          (if f.2 = "quiet" || f.2 = "silent" then 'C' else 'c', "")
        else f) }
      let wanted : Except String (List Key × Option Char) := do
        let keys ← (given.values 'k').mapM Key.of?
        let tab ← match given.value? 't' with
          | some s => tabOf s
          | none => pure none
        pure (keys, tab)
      match wanted with
      | .error e => fail call e 2
      | .ok (keys, tab) =>
        let general := given.flags.foldl
          (fun (o : KeyOrder) f => (o.with? false f.1).getD o) {}
        let general := { general with skipLast := general.skipFirst }
        let keys := keys.map (fun k => if k.hasOrder then k else { k with order := general })
        let keys := if keys.isEmpty then [{ order := general }] else keys
        if let some e := sortFault? given keys then
          return ← fail call e 2
        let whole (a b : List Char) : Ordering :=
          let o := compareKeys keys tab a b
          if given.hasAny "us" then o
          else o.then (if general.reversed then compareTexts b a else compareTexts a b)
        let stop := if given.has 'z' then '\x00' else '\n'
        let linesOf (s : List Char) : List (List Char) :=
          let all := partsBy (fun c => c = stop) s
          if all.getLast? = some [] then all.dropLast else all
        let first ← (orInput given.others).foldlM
          (fun (acc : Except Unit (List (List (List Char)))) path => do
            match acc with
            | .error () => pure acc
            | .ok texts =>
              match ← readFile path with
              | .ok text => pure (.ok (linesOf text :: texts))
              | .error .isDirectory =>
                complain call ("read failed: " ++ showName path ++ ": Is a directory")
                pure (.error ())
              | .error e =>
                complain call ("cannot read: " ++ showName path ++ ": " ++ e.wording)
                pure (.error ()) :
            Except Unit (List (List (List Char))) → String →
              StateM Process (Except Unit (List (List (List Char)))))
          (.ok [])
        match first with
        | .error () => exited 2
        | .ok texts =>
          let all := texts.reverse.flatten
          if given.hasAny "cC" then
            let isBad (a b : List Char) : Bool :=
              whole a b == .gt || (given.has 'u' && whole a b == .eq)
            match disorder? isBad 2 all with
            | none => exited 0
            | some (n, l) =>
              if given.has 'C' then exited 1
              else
                let path := (orInput given.others).headD "-"
                fail call (path ++ ":" ++ numeral n ++ ": disorder: " ++ String.ofList l) 1
          else
            let comesFirst (a b : List Char) : Bool := whole a b != .gt
            let sorted := if given.has 'm' then
                texts.reverse.foldr (fun a b => a.merge b comesFirst) []
              else all.mergeSort comesFirst
            let isEqual (a b : List Char) : Bool := compareKeys keys tab a b == .eq
            let sorted := if given.has 'u' then withoutRepeats isEqual sorted else sorted
            let text := sorted.flatMap (fun l => l ++ [stop])
            match given.value? 'o' with
            | none => emit call text 0
            | some path =>
              match ← writeFile path false text with
              | .ok () => exited 0
              | .error e => fail call ("open failed: " ++ showName path ++ ": " ++ e.wording) 2)

def shuf : Utility := fun _ call =>
  withFlags call
    [{ letter := 'n', word := "head-count", taking := .argument },
     { letter := 'i', word := "input-range", taking := .argument },
     { letter := 'e', word := "echo" }, { letter := 'r', word := "repeat" },
     { letter := 'z', word := "zero-terminated" },
     { letter := 'o', word := "output", taking := .argument }] true 1
    (fun given => do
      let count : Except String (Option Nat) := match given.value? 'n' with
        | none => .ok none
        | some s =>
          match nat? s with
          | some n => .ok (some n)
          | none => .error ("invalid line count: " ++ quote s)
      let range : Except String (List (List Char)) := match given.value? 'i' with
        | none => .ok []
        | some s =>
          match (s.splitOn "-").map nat? with
          | [some a, some b] =>
            if a ≤ b + 1 then
              .ok ((List.range (b + 1 - a)).map (fun i => Decimal.digits (a + i)))
            else .error ("invalid input range: " ++ quote s)
          | _ => .error ("invalid input range: " ++ quote s)
      match count, range with
      | .error e, _ | _, .error e => fail call e 1
      | .ok count, .ok range =>
        let found : Except SystemError (List (List Char)) ←
          if given.has 'i' then pure (.ok range)
          else if given.has 'e' then pure (.ok (given.others.map String.toList))
          else do pure ((← readFile (given.others.headD "-")).map lines)
        match found with
        | .error e => fail call (showName (given.others.headD "-") ++ ": " ++ e.wording) 1
        | .ok all =>
          let all := match count with
            | some n => all.take n
            | none => all
          let stop := if given.has 'z' then '\x00' else '\n'
          emit call (all.flatMap (fun l => l ++ [stop])) 0)

/-! ### Neighbours -/

def groups (isEqual : List Char → List Char → Bool) (ls : List (List Char)) :
    List (List (List Char)) :=
  (ls.foldl
    (fun (acc : List (List (List Char))) l =>
      match acc with
      | (first :: more) :: others =>
        if isEqual first l then (first :: l :: more) :: others else [l] :: acc
      | _ => [l] :: acc)
    []).reverse

inductive Parting
  | nowhere
  | before
  | after
  | between
  | around
  deriving DecidableEq, Repr

def Parting.lines (parting : Parting) (groups : List (List (List Char))) : List (List Char) :=
  match parting with
  | .nowhere => groups.flatten
  | .before => groups.flatMap (fun g => [] :: g)
  | .after => groups.flatMap (fun g => g ++ [[]])
  | .between => (groups.intersperse [[]]).flatten
  | .around => if groups.isEmpty then [] else (groups.flatMap (fun g => [] :: g)) ++ [[]]

def Parting.ofWord (words : List (String × Parting)) (option word : String) :
    Except String Parting :=
  match words.filter (fun w => word.toList.isPrefixOf w.1.toList) with
  | [w] => .ok w.2
  | _ =>
    .error ("invalid argument " ++ quote word ++ " for " ++ quote ("--" ++ option) ++
      "\nValid arguments are:" ++ String.join (words.map (fun w => "\n  - " ++ quote w.1)))

def uniq : Utility := fun _ call =>
  withFlags call
    [{ letter := 'c', word := "count" }, { letter := 'd', word := "repeated" },
     { letter := 'u', word := "unique" }, { letter := 'i', word := "ignore-case" },
     { letter := 'D' }, { letter := 'z', word := "zero-terminated" },
     { letter := 'A', word := "all-repeated", taking := .attached, isShort := false },
     { letter := 'G', word := "group", taking := .attached, isShort := false },
     { letter := 'f', word := "skip-fields", taking := .argument },
     { letter := 's', word := "skip-chars", taking := .argument },
     { letter := 'w', word := "check-chars", taking := .argument }] true 1
    (fun given => do
      let parting : Except String Parting :=
        match given.value? 'G', given.value? 'A' with
        | some "", _ => .ok .between
        | some word, _ => Parting.ofWord
            [("prepend", .before), ("append", .after), ("separate", .between), ("both", .around)]
            "group" word
        | none, some "" | none, none => .ok .nowhere
        | none, some word => Parting.ofWord
            [("none", .nowhere), ("prepend", .before), ("separate", .between)] "all-repeated" word
      match parting, given.others with
      | .error e, _ => misuse call e 1
      | .ok _, _ :: _ :: extra :: _ => misuse call ("extra operand " ++ quote extra) 1
      | .ok parting, others =>
        let isGrouped := given.has 'G'
        let repeatsOnly := given.hasAny "DA"
        if isGrouped && given.hasAny "cdDAu" then
          misuse call "--group is mutually exclusive with -c/-d/-D/-u" 1
        else if repeatsOnly && given.has 'c' then
          misuse call "printing all duplicated lines and repeat counts is meaningless" 1
        else
          let number (c : Char) : Nat := ((given.value? c).bind nat?).getD 0
          let path := others.headD "-"
          match ← readFile path with
          | .error .isDirectory => fail call ("error reading " ++ quoteName path) 1
          | .error e => fail call (showName path ++ ": " ++ e.wording) 1
          | .ok text =>
            let part (s : List Char) : List Char :=
              let s := s.drop (afterFields none (number 'f') s)
              let s := s.drop (number 's')
              let s := if given.has 'w' then s.take (number 'w') else s
              if given.has 'i' then s.map Char.toUpper else s
            let isEqual (a b : List Char) : Bool := part a == part b
            let shown? (g : List (List Char)) : Option (List (List Char)) :=
              let isRepeated := 1 < g.length
              if isGrouped then some g
              else if repeatsOnly then if isRepeated then some g else none
              else if (given.has 'd' && !isRepeated) || (given.has 'u' && isRepeated) then none
              else
                let lead := if given.has 'c' then
                    (Decimal.digits g.length).leftpad 7 ' ' ++ [' ']
                  else []
                some [lead ++ g.headD []]
            let stop := if given.has 'z' then '\x00' else '\n'
            let all := (rowsBy stop text).map (fun row =>
              if row.getLast? = some stop then row.dropLast else row)
            let shown := parting.lines ((groups isEqual all).filterMap shown?)
            let out := shown.flatMap (fun l => l ++ [stop])
            match others with
            | [_, path] =>
              match ← writeFile path false out with
              | .ok () => exited 0
              | .error e => fail call (showName path ++ ": " ++ e.wording) 1
            | _ => emit call out 0)

end BuoyGateway.Shell.Utility
