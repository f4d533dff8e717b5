import BuoyGateway.Shell.Utility.Machine
import BuoyGateway.Shell.Utility.Naming
import BuoyGateway.Shell.Utility.Rights

/-!
# Utilities that make, remove and move files

Each takes its arguments in their order, complains about those that it cannot deal with, and goes on
with the others.
-/

namespace BuoyGateway.Shell.Utility

def eachPath (paths : List String) (f : String → StateM Process Bool) : StateM Process Outcome := do
  let step (code : Nat) (path : String) : StateM Process Nat := do
    pure (if ← f path then code else 1)
  exited (← paths.foldlM step 0)

def failing (call : Call) (text : String) : StateM Process Bool := do
  complain call text
  pure false

def going (call : Call) (what : String) (result : Except SystemError Process) :
    StateM Process Bool := do
  match result with
  | .ok p =>
    set p
    pure true
  | .error e => failing call (what ++ ": " ++ e.wording)

def telling (wanted : Bool) (text : String) : StateM Process Unit :=
  if wanted then put (text ++ "\n").toList else pure ()

/-! ### Making -/

/-- The instant of a stamp: a month, a day, an hour and a minute, with or without a year in front
and seconds behind a point. -/
def stampedInstant? (now : Time.Instant) (s : String) : Option Time.Instant :=
  let (main, seconds) : List Char × Option (List Char) :=
    match partsBy (fun c => c = '.') s.toList with
    | [main] => (main, some ['0', '0'])
    | [main, seconds] => (main, some seconds)
    | _ => ([], none)
  match seconds with
  | none => none
  | some seconds =>
    let n := main.length
    if !(main ++ seconds).all Char.isDigit || seconds.length != 2 then none
    else if n != 8 && n != 10 && n != 12 then none
    else
      let year := main.take (n - 8)
      let y := Decimal.ofDigits year
      let y : Int :=
        if n = 8 then now.toMoment.date.year
        else if n = 12 then y
        else if y < 69 then 2000 + y else 1900 + y
      let two (i : Nat) : Nat := Decimal.ofDigits ((main.drop (n - 8 + 2 * i)).take 2)
      let date : Time.Date := ⟨y, two 0, two 1⟩
      let s := Decimal.ofDigits seconds
      if date.isValid && two 2 < 24 && two 3 < 60 && s < 61 then
        some ⟨86400 * date.toDays + (3600 * two 2 + 60 * two 3 + s : Nat), 0⟩
      else none

def touch : Utility := fun _ call =>
  withFlags call
    [{ letter := 'c', word := "no-create" }, { letter := 'a' }, { letter := 'm' },
     { letter := 'f' }, { letter := 'h', word := "no-dereference" },
     { letter := 'd', word := "date", taking := .argument },
     { letter := 't', taking := .argument },
     { letter := 'r', word := "reference", taking := .argument }] true 1
    (fun given => do
      let p ← get
      let time : Except String Time.Instant :=
        match given.value? 'r', given.value? 'd', given.value? 't' with
        | some path, _, _ =>
          match p.locateNode path true with
          | .ok (_, node) => .ok node.modified
          | .error e =>
            .error ("failed to get attributes of " ++ quoteName path ++ ": " ++ e.wording)
        | none, some s, _ =>
          match instant? p.instant s with
          | some t => .ok t
          | none => .error ("invalid date format " ++ quote s)
        | none, none, some s =>
          match stampedInstant? p.instant s with
          | some t => .ok t
          | none => .error ("invalid date format " ++ quote s)
        | none, none, none => .ok p.instant
      match time with
      | .error e => fail call e 1
      | .ok time =>
        if given.others.isEmpty then misuse call "missing file operand" 1
        else
          eachPath given.others (fun path => do
            let p ← get
            match p.place path true with
            | .error .nulInName => pure true
            | .error e =>
              if given.has 'c' && isMissing e then pure true
              else failing call ("cannot touch " ++ quoteName path ++ ": " ++ e.wording)
            | .ok loc =>
              match p.disk.find? loc with
              | some _ =>
                set (p.touchAt loc time)
                pure true
              | none =>
                if given.has 'c' then pure true
                else if path.endsWith "/" then
                  failing call ("setting times of " ++ quoteName path ++
                    ": No such file or directory")
                else
                  going call ("cannot touch " ++ quoteName path)
                    ((p.createAt loc).map (fun p => p.touchAt loc time))))

/-- The directories that lead to a path, and the path itself, from the outermost. -/
def pathsTo (path : String) : List String :=
  let step (acc : List String × String) (name : String) : List String × String :=
    let sub := if acc.2 = "" then name else acc.2 ++ name
    (if name = "" then acc.1 else sub :: acc.1, sub ++ "/")
  ((path.splitOn "/").foldl step ([], "")).1.reverse

def makeDirectory (p : Process) (path : String) (mode : Nat) : Except SystemError Process := do
  p.makeDirectoryAt (← p.place path false) mode

def mkdir : Utility := fun _ call =>
  withFlags call
    [{ letter := 'p', word := "parents" }, { letter := 'v', word := "verbose" },
     { letter := 'm', word := "mode", taking := .argument }] true 1
    (fun given => do
      let changes := (given.value? 'm').map ModeChange.ofText?
      if given.others.isEmpty then misuse call "missing operand" 1
      else
        match changes with
        | some none => fail call ("invalid mode " ++ quote ((given.value? 'm').getD "")) 1
        | _ =>
          let modeOf (p : Process) : Nat := match changes with
            | some (some changes) => ModeChange.applyAll p.mask true changes 0o777
            | _ => p.directoryMode
          let told (path : String) : StateM Process Unit :=
            telling (given.has 'v') (call.name ++ ": created directory " ++ quoteName path)
          let outer (p : Process) (path : String) : Bool := (p.locateDirectory path).toOption.isSome
          eachPath given.others (fun path => do
            let p ← get
            if !given.has 'p' then
              match makeDirectory p path (modeOf p) with
              | .ok p =>
                set p
                told path
                pure true
              | .error e =>
                failing call ("cannot create directory " ++ quoteName path ++ ": " ++ e.wording)
            else
              let paths := if path = "" then [""] else pathsTo path
              let last := paths.getLast?.getD path
              let step (acc : Option (String × SystemError)) (sub : String) :
                  StateM Process (Option (String × SystemError)) := do
                match acc with
                | some e => pure (some e)
                | none =>
                  let p ← get
                  if outer p sub then pure none
                  else
                    let mode := if sub = last then modeOf p else p.directoryMode
                    match makeDirectory p sub mode with
                    | .ok p =>
                      set p
                      told sub
                      pure none
                    | .error .alreadyExists =>
                      pure (some (sub, if sub = last then .alreadyExists else .notDirectory))
                    | .error e => pure (some (sub, e))
              match ← paths.foldlM step none with
              | none => pure true
              | some (sub, e) =>
                failing call ("cannot create directory " ++ quoteName sub ++ ": " ++ e.wording)))

/-! ### Removing -/

def rmdir : Utility := fun _ call =>
  withFlags call
    [{ letter := 'p', word := "parents" }, { letter := 'v', word := "verbose" },
     { letter := 'i', word := "ignore-fail-on-non-empty", isShort := false }] true 1
    (fun given => do
      let remove (what : String) (path : String) : StateM Process Bool := do
        telling (given.has 'v') (call.name ++ ": removing directory, " ++ quoteName path)
        let p ← get
        let result : Except SystemError Process := do
          let (loc, _) ← p.locateNode path false
          if lastName path = "." then throw .invalidArgument
          if lastName path = ".." then throw .notEmpty
          p.removeDirectoryAt loc
        match result with
        | .ok p =>
          set p
          pure true
        | .error e =>
          if e == .notEmpty && given.has 'i' then pure true
          else failing call ("failed to remove " ++ what ++ quoteName path ++ ": " ++ e.wording)
      if given.others.isEmpty then misuse call "missing operand" 1
      else
        eachPath given.others (fun path => do
          if !(← remove "" path) then pure false
          else if !given.has 'p' then pure true
          else
            let outers := (pathsTo (withoutSlashes path)).dropLast.reverse
            let step (acc : Bool) (sub : String) : StateM Process Bool := do
              if acc then remove "directory " sub else pure false
            outers.foldlM step true))

def removeTree (call : Call) (told : Bool) (entries : List (String × Location)) :
    StateM Process Bool := do
  let step (good : Bool) (entry : String × Location) : StateM Process Bool := do
    let p ← get
    let isDirectory := p.isDirectoryAt entry.2
    let result := if isDirectory then p.removeDirectoryAt entry.2 else p.removeFileAt entry.2
    match result with
    | .ok p =>
      set p
      telling told ("removed " ++ (if isDirectory then "directory " else "") ++ quoteName entry.1)
      pure good
    | .error e => failing call ("cannot remove " ++ quoteName entry.1 ++ ": " ++ e.wording)
  entries.reverse.foldlM step true

def rm : Utility := fun _ call =>
  withFlags call
    [{ letter := 'f', word := "force" }, { letter := 'r', word := "recursive" }, { letter := 'R' },
     { letter := 'd', word := "dir" }, { letter := 'v', word := "verbose" }, { letter := 'i' },
     { letter := 'I' }, { letter := 'P', word := "preserve-root", isShort := false },
     { letter := 'N', word := "no-preserve-root", isShort := false },
     { letter := 'O', word := "one-file-system", isShort := false }] true 1
    (fun given => do
      let recursive := given.hasAny "rR"
      if given.others.isEmpty then
        if given.has 'f' then exited 0 else misuse call "missing operand" 1
      else
        eachPath given.others (fun path => do
          let p ← get
          match p.locateNode path false with
          | .error e =>
            if given.has 'f' && isMissing e then pure true
            else failing call ("cannot remove " ++ quoteName path ++ ": " ++ e.wording)
          | .ok (loc, _) =>
            let isDirectory := p.isDirectoryAt loc
            let name := lastName path
            if isDirectory && !recursive && !given.has 'd' then
              failing call ("cannot remove " ++ quoteName path ++ ": Is a directory")
            else if isDirectory && (name = "." || name = "..") then
              failing call ("refusing to remove '.' or '..' directory: skipping " ++ quoteName path)
            else if recursive && loc = [] then do
              complain call ("it is dangerous to operate recursively on " ++
                (if path = "/" then quoteName path else quoteName path ++ " (same as '/')"))
              failing call "use --no-preserve-root to override this failsafe"
            else if recursive then
              removeTree call (given.has 'v') (below p depthLimit path loc)
            else removeTree call (given.has 'v') [(path, loc)]))

def unlink : Utility := fun _ call =>
  withFlags call [] false 1 (fun given => do
    match given.others with
    | [] => misuse call "missing operand" 1
    | path :: [] =>
      let p ← get
      let removed : Except SystemError Process := do
        let (loc, _) ← p.locateNode path false
        if p.isDirectoryAt loc then throw .isDirectory
        p.removeFileAt loc
      match removed with
      | .ok p =>
        set p
        exited 0
      | .error e => fail call ("cannot unlink " ++ quoteName path ++ ": " ++ e.wording) 1
    | _ :: extra :: _ => misuse call ("extra operand " ++ quoteName extra) 1)

/-! ### Copying and moving -/

/-- The pairs of sources and targets that operands mean: a target that is a directory gets what is
moved under its own name. -/
def transfer (call : Call) (p : Process) (given : Given) (followed : Bool) :
    Except (StateM Process Outcome) (List (String × String)) :=
  let into (dir : String) (sources : List String) : List (String × String) :=
    sources.map (fun source => (source, inDirectory dir (lastName source)))
  let isDirectory (path : String) : Bool := match p.locateNode path followed with
    | .ok (loc, node) => node.isDirectory && (followed || (p.linkAt? loc).isNone)
    | .error _ => false
  let fault (path : String) : String := match p.locateDirectory path with
    | .ok _ => SystemError.wording .notDirectory
    | .error e => e.wording
  match given.value? 't', given.others with
  | _, [] => .error (misuse call "missing file operand" 1)
  | some dir, sources =>
    if isDirectory dir then .ok (into dir sources)
    else .error (fail call ("target directory " ++ quoteName dir ++ ": " ++ fault dir) 1)
  | none, [one] =>
    .error (misuse call ("missing destination file operand after " ++ quoteName one) 1)
  | none, [source, target] =>
    if !given.has 'T' && isDirectory target then .ok (into target [source])
    else .ok [(source, target)]
  | none, several =>
    let target := several.getLast?.getD ""
    if given.has 'T' then
      .error (misuse call ("extra operand " ++ quoteName (several.getD 2 "")) 1)
    else if isDirectory target then .ok (into target several.dropLast)
    else .error (fail call ("target " ++ quoteName target ++ ": " ++ fault target) 1)

/-- Does what a utility does with each pair of a source and a target. -/
def transferring (call : Call) (given : Given) (followed : Bool)
    (f : String → String → StateM Process Bool) : StateM Process Outcome := do
  match transfer call (← get) given followed with
  | .error outcome => outcome
  | .ok pairs =>
    let step (code : Nat) (pair : String × String) : StateM Process Nat := do
      pure (if ← f pair.1 pair.2 then code else 1)
    exited (← pairs.foldlM step 0)

def copyNode (p : Process) (source : Location) (node : Node) (target : Location)
    (keeping : Bool) : Except SystemError Process := do
  match p.linkAt? source with
  | some path =>
    let p ← if (p.disk.find? target).isSome then p.removeFileAt target else pure p
    p.makeLinkAt target (Process.ofPath path)
  | none =>
    match node.content with
    | .directory =>
      let p ←
        if (p.disk.find? target).isSome then pure p
        else p.makeDirectoryAt target (p.modeAt source node &&& (0o7777 ^^^ p.mask))
      pure p
    | .file .. =>
      let text ← p.readPlace source
      let isNew := (p.disk.find? target).isNone
      let p ← if isNew then p.createAt target else pure p
      let p ← p.change (fun disk => disk.writeAt target (Text.toOctets text))
      let mode := p.modeAt source node
      let mode := if keeping then mode else mode &&& 0o777 &&& (0o777 ^^^ p.mask)
      let isUsual := (p.disk.find? target).any (fun node => p.modeAt target node = mode)
      let p := if (isNew || keeping) && !isUsual then p.setMode target mode else p
      pure (if keeping then p.touchAt target node.modified else p)

def copyTree (call : Call) (told keeping : Bool) :
    Nat → String → Location → String → Location → StateM Process Bool
  | 0, _, _, _, _ => pure false
  | depth + 1, path, source, targetPath, target => do
    let p ← get
    match p.disk.find? source with
    | none => pure false
    | some node =>
      let isDirectory := p.isDirectoryAt source
      let targetNode := p.disk.find? target
      if isDirectory && targetNode.any (fun n => !n.isDirectory) then
        failing call ("cannot overwrite non-directory " ++ quoteName targetPath ++
          " with directory " ++ quoteName path)
      else if !isDirectory && targetNode.any Node.isDirectory then
        failing call ("cannot overwrite directory " ++ quoteName targetPath ++
          " with non-directory")
      else
        if !isDirectory || targetNode.isNone then
          telling told (quoteName path ++ " -> " ++ quoteName targetPath)
        match copyNode (← get) source node target keeping with
        | .error e =>
          failing call ("cannot create " ++
            (if isDirectory then "directory " else "regular file ") ++ quoteName targetPath ++
            ": " ++ e.wording)
        | .ok q =>
          set q
          if !isDirectory then pure true
          else
            let step (good : Bool) (name : String) : StateM Process Bool := do
              let step := Process.pathOf name
              let done ← copyTree call told keeping depth (inDirectory path name) (step :: source)
                (inDirectory targetPath name) (step :: target)
              pure (good && done)
            (p.namesAt source).foldlM step true

def cp : Utility := fun _ call =>
  withFlags call
    [{ letter := 'r', word := "recursive" }, { letter := 'R' },
     { letter := 'a', word := "archive" }, { letter := 'p' }, { letter := 'f', word := "force" },
     { letter := 'i', word := "interactive" },
     { letter := 'n', word := "no-clobber" }, { letter := 'u', word := "update" },
     { letter := 'v', word := "verbose" }, { letter := 'd' },
     { letter := 'P', word := "no-dereference" }, { letter := 'L', word := "dereference" },
     { letter := 'H' }, { letter := 'l', word := "link" },
     { letter := 's', word := "symbolic-link" },
     { letter := 'x', word := "one-file-system" }, { letter := 'T', word := "no-target-directory" },
     { letter := 't', word := "target-directory", taking := .argument },
     { letter := 'E', word := "preserve", taking := .attached, isShort := false }] true 1
    (fun given =>
      transferring call given true (fun source target => do
        let p ← get
        let recursive := given.hasAny "rRa"
        let followed := !given.hasAny "Pda" && (!recursive || given.hasAny "LH")
        match p.locateNode source followed with
        | .error e => failing call ("cannot stat " ++ quoteName source ++ ": " ++ e.wording)
        | .ok (loc, node) =>
          let isDirectory := p.isDirectoryAt loc
          if isDirectory && !recursive then
            failing call ("-r not specified; omitting directory " ++ quoteName source)
          else
            match p.place target true with
            | .error e =>
              failing call ("cannot create " ++ (if isDirectory then "directory " else
                "regular file ") ++ quoteName target ++ ": " ++ e.wording)
            | .ok onto =>
              let there := p.disk.find? onto
              if there.isSome && given.has 'n' then pure true
              else if there.any (fun n => given.has 'u' && !(decide
                (n.modified.seconds < node.modified.seconds))) then pure true
              else if loc = onto && !isDirectory then
                failing call (quoteName source ++ " and " ++ quoteName target ++
                  " are the same file")
              else if isDirectory && Disk.isWithin loc onto then
                failing call ("cannot copy a directory, " ++ quoteName source ++
                  ", into itself, " ++ quoteName target)
              else if !isDirectory && there.isNone && target.endsWith "/" then
                failing call ("cannot create regular file " ++ quoteName target ++
                  ": Not a directory")
              else if given.has 's' then
                telling (given.has 'v') (quoteName source ++ " -> " ++ quoteName target)
                going call ("cannot create symbolic link " ++ quoteName target)
                  (p.makeLinkAt onto source)
              else
                copyTree call (given.has 'v') (given.hasAny "apE") depthLimit source loc target
                  onto))

def mv : Utility := fun _ call =>
  withFlags call
    [{ letter := 'f', word := "force" }, { letter := 'i', word := "interactive" },
     { letter := 'n', word := "no-clobber" }, { letter := 'u', word := "update" },
     { letter := 'v', word := "verbose" }, { letter := 'T', word := "no-target-directory" },
     { letter := 't', word := "target-directory", taking := .argument }] true 1
    (fun given =>
      transferring call given true (fun source target => do
        let p ← get
        match p.locateNode source false with
        | .error e => failing call ("cannot stat " ++ quoteName source ++ ": " ++ e.wording)
        | .ok (loc, node) =>
          let isDirectory := p.isDirectoryAt loc
          match p.place target false with
          | .error e =>
            failing call ("cannot move " ++ quoteName source ++ " to " ++ quoteName target ++
              ": " ++ e.wording)
          | .ok onto =>
            let there := p.disk.find? onto
            if there.isSome && given.has 'n' then pure true
            else if there.any (fun n => given.has 'u' && !(decide
              (n.modified.seconds < node.modified.seconds))) then pure true
            else if loc = onto then
              if isDirectory then
                failing call ("cannot move " ++ quoteName source ++
                  " to a subdirectory of itself, " ++ quoteName target)
              else
                failing call (quoteName source ++ " and " ++ quoteName target ++
                  " are the same file")
            else if isDirectory && there.any (fun n => !n.isDirectory) then
              failing call ("cannot overwrite non-directory " ++ quoteName target ++
                " with directory " ++ quoteName source)
            else if !isDirectory && there.any Node.isDirectory then
              failing call ("cannot overwrite directory " ++ quoteName target ++
                " with non-directory")
            else if !isDirectory && there.isNone && target.endsWith "/" then
              failing call ("cannot move " ++ quoteName source ++ " to " ++ quoteName target ++
                ": Not a directory")
            else if Disk.isWithin loc onto then
              failing call ("cannot move " ++ quoteName source ++
                " to a subdirectory of itself, " ++ quoteName target)
            else
              match p.renameAt loc onto with
              | .error .notEmpty =>
                failing call ("cannot overwrite " ++ quoteName target ++ ": Directory not empty")
              | .error e =>
                failing call ("cannot move " ++ quoteName source ++ " to " ++ quoteName target ++
                  ": " ++ e.wording)
              | .ok p =>
                set p
                telling (given.has 'v') ("renamed " ++ quoteName source ++ " -> " ++
                  quoteName target)
                pure true))

def ln : Utility := fun _ call =>
  withFlags call
    [{ letter := 's', word := "symbolic" }, { letter := 'f', word := "force" },
     { letter := 'n', word := "no-dereference" }, { letter := 'v', word := "verbose" },
     { letter := 'i', word := "interactive" }, { letter := 'r', word := "relative" },
     { letter := 'L', word := "logical" }, { letter := 'P', word := "physical" },
     { letter := 'T', word := "no-target-directory" },
     { letter := 't', word := "target-directory", taking := .argument }] true 1
    (fun given =>
      let given := match given.value? 't', given.others with
        | none, [one] => { given with others := [one, "./" ++ lastName one] }
        | _, _ => given
      transferring call given (!given.has 'n') (fun source target => do
        let p ← get
        let symbolic := given.has 's'
        let shown := if symbolic then "symbolic link " else "hard link "
        match if symbolic then .ok none else (p.locateNode source false).map some with
        | .error e => failing call ("failed to access " ++ quoteName source ++ ": " ++ e.wording)
        | .ok from' =>
          if from'.any (fun e => p.isDirectoryAt e.1) then
            failing call (showName source ++ ": hard link not allowed for directory")
          else
            let tail := if symbolic then "" else " => " ++ quoteName source
            match p.place target false with
            | .error e =>
              failing call ("failed to create " ++ shown ++ quoteName target ++ tail ++ ": " ++
                e.wording)
            | .ok onto =>
              let there := p.disk.find? onto
              if there.any (fun _ => p.isDirectoryAt onto) && given.has 'f' then
                failing call (showName target ++ ": cannot overwrite directory")
              else if there.isSome && !given.has 'f' then
                failing call ("failed to create " ++ shown ++ quoteName target ++ ": File exists")
              else
                let result : Except SystemError Process := do
                  let p ← if there.isSome then p.removeFileAt onto else pure p
                  match from' with
                  | none =>
                    if source = "" then throw .notFound
                    p.makeLinkAt onto source
                  | some (loc, node) => copyNode p loc node onto true
                match result with
                | .error e =>
                  failing call ("failed to create " ++ shown ++ quoteName target ++ tail ++ ": " ++
                    e.wording)
                | .ok p =>
                  set p
                  telling (given.has 'v') (quoteName target ++
                    (if symbolic then " -> " else " => ") ++ quoteName source)
                  pure true))

end BuoyGateway.Shell.Utility
