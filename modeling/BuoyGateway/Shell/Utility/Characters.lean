import BuoyGateway.Shell.Format
import BuoyGateway.Shell.Pattern
import BuoyGateway.Shell.Utility.Basic

/-!
# Exchanging characters

A set of characters is written as characters, ranges and classes. The characters of one set are
exchanged for those at the same places of another one.
-/

namespace BuoyGateway.Shell.Utility

/-- The characters of a set, which are written as ranges, classes and escapes. A character that is
repeated comes with how often, or with zero to fill the set. Each step takes at least one
character. -/
def charSet : Nat → List Char → Except String (List (List Char × Option Nat))
  | 0, _ | _, [] => .ok []
  | fuel + 1, s =>
    let one (s : List Char) : Char × List Char := match s with
      | '\\' :: rest =>
        (match ({} : Format.Escapes).read rest with
        | some (c, rest) => (c, rest)
        | none =>
          match rest with
          | c :: rest => (c, rest)
          | [] => ('\\', []))
      | c :: rest => (c, rest)
      | [] => ('\x00', [])
    match s with
    | '[' :: ':' :: rest =>
      let name := rest.takeWhile (fun c => c != ':')
      match rest.drop name.length with
      | ':' :: ']' :: rest =>
        let known := Pattern.classRanges (String.ofList name)
        if known.isEmpty then .error ("invalid character class " ++ quote (String.ofList name))
        else do
          let chars := known.flatMap (fun r =>
            (List.range (r.2.toNat - r.1.toNat + 1)).map (fun i => Char.ofNat (r.1.toNat + i)))
          pure ((chars, none) :: (← charSet fuel rest))
      | _ => do pure ((['['], none) :: (← charSet fuel (':' :: rest)))
    | '[' :: '=' :: c :: '=' :: ']' :: rest => do
      pure (([c], none) :: (← charSet fuel rest))
    | '[' :: rest =>
      let (c, after) := one rest
      match if rest.isEmpty then [] else after with
      | '*' :: after =>
        let digits := after.takeWhile Char.isDigit
        match after.drop digits.length with
        | ']' :: after =>
          let base := if digits.head? = some '0' then 8 else 10
          let n := digits.foldl (fun n d => base * n + (d.toNat - 48)) 0
          do pure (([c], some n) :: (← charSet fuel after))
        | _ => do pure ((['['], none) :: (← charSet fuel rest))
      | _ => do
        match rest with
        | '-' :: d :: after =>
          if d != ']' && '[' ≤ d then
            let chars := (List.range (d.toNat - 90)).map (fun i => Char.ofNat (91 + i))
            pure ((chars, none) :: (← charSet fuel after))
          else pure ((['['], none) :: (← charSet fuel rest))
        | _ => pure ((['['], none) :: (← charSet fuel rest))
    | s =>
      let (a, rest) := one s
      match rest with
      | '-' :: b :: more =>
        let (b, after) := one (b :: more)
        if b < a then
          .error ("range-endpoints of " ++
            quote (String.ofList (s.take (s.length - after.length))) ++
            " are in reverse collating sequence order")
        else do
          let chars := (List.range (b.toNat - a.toNat + 1)).map
            (fun i => Char.ofNat (a.toNat + i))
          pure ((chars, none) :: (← charSet fuel after))
      | _ => do pure (([a], none) :: (← charSet fuel rest))

/-- The characters of a set of which some may fill it up to a size. -/
def filledSet (size : Nat) (parts : List (List Char × Option Nat)) : List Char :=
  let fixed := (parts.map (fun p => match p.2 with
    | some 0 => 0
    | some n => n
    | none => p.1.length)).foldl (· + ·) 0
  parts.flatMap (fun p => match p.2 with
    | some 0 => (List.replicate (size - fixed) p.1).flatten
    | some n => (List.replicate n p.1).flatten
    | none => p.1)

def squeezed (set : List Char) (s : List Char) : List Char :=
  (s.foldl
    (fun (acc : List Char) c => if acc.head? = some c && set.contains c then acc else c :: acc)
    []).reverse

def tr : Utility := fun _ call =>
  withFlags call
    [{ letter := 'c', word := "complement" }, { letter := 'C' },
     { letter := 'd', word := "delete" }, { letter := 's', word := "squeeze-repeats" },
     { letter := 't', word := "truncate-set1" }] false 1
    (fun given => do
      let deletes := given.has 'd'
      let squeezes := given.has 's'
      let most := if deletes && !squeezes then 1 else 2
      let least := if deletes == squeezes then 2 else 1
      let explained (text note : String) : StateM Process Outcome := do
        complain call text
        putError (if note = "" then "" else note ++ "\n")
        putError ("Try '" ++ call.name ++ " --help' for more information.\n")
        exited 1
      let n := given.others.length
      if n = 0 then explained "missing operand" ""
      else if n < least then
        let note := if squeezes then
            "Two strings must be given when both deleting and squeezing repeats."
          else "Two strings must be given when translating."
        explained ("missing operand after " ++ quote (given.others.headD "")) note
      else if most < n then
        let note := if n = 2 then
            "Only one string may be given when deleting without squeezing repeats."
          else ""
        explained ("extra operand " ++ quote (given.others.getD most "")) note
      else
        let read (s : String) : Except String (List (List Char × Option Nat)) :=
          charSet (s.length + 1) s.toList
        match read (given.others.headD ""), read (given.others.getD 1 "") with
        | .error e, _ | _, .error e => fail call e 1
        | .ok first, .ok second =>
          let first := filledSet 0 first
          let complemented := given.hasAny "cC"
          let from' :=
            if complemented then
              ((List.range 256).map Char.ofNat).filter (fun c => !first.contains c)
            else first
          let image := filledSet from'.length second
          let translates := !deletes && n = 2
          if translates && image.isEmpty && !given.has 't' && !from'.isEmpty then
            fail call "when not truncating set1, string2 must be non-empty" 1
          else
            let text := (← readFile "-").toOption.getD []
            let from' := if given.has 't' then from'.take image.length else from'
            let last := image.getLast?.getD '\x00'
            let table := (from'.zipIdx).reverse.map (fun e => (e.1, image.getD e.2 last))
            let text :=
              if deletes then text.filter (fun c => !from'.contains c)
              else if translates then text.map (fun c => (table.lookup c).getD c)
              else text
            let text :=
              if squeezes then squeezed (if n = 2 then image else from') text else text
            emit call text 0)

end BuoyGateway.Shell.Utility
