import BuoyGateway.Json.Number
import BuoyGateway.Json.Skip

/-!
# Readers of values

A reader takes a value off the front of a text and leaves a shorter text; the proof of that goes
with it. The first fault met from left to right wins, so a value of the wrong kind is reported
before what is wrong after it. `Reader.parse` reads a whole text.
-/

namespace BuoyGateway.Json

structure Reader (α : Type) where
  read : List Char → Except Error (α × List Char)
  shorter : ∀ {s rest : List Char} {a : α}, read s = .ok (a, rest) → rest.length < s.length

def Reader.parse {α : Type} (reader : Reader α) (s : List Char) : Except Error α :=
  match reader.read s with
  | .error e => .error e
  | .ok (a, rest) =>
    match skipSpace rest with
    | [] => .ok a
    | _ :: _ => .error .trailingCharacters

def numberMismatch (wanted : Wanted) (s : List Char) : Error :=
  match numeral (.ended .value) s with
  | .error e => e
  | .ok (n, _) =>
    match n.value with
    | .error e => e
    | .ok number => .wrongType number.found wanted

/-- The fault of a value that is not of the kind that is wanted. A fault inside the value wins,
as far as the value has to be read to be shown. -/
def mismatch (wanted : Wanted) (c : Char) (rest : List Char) : Error :=
  let word (letters : List Char) (found : Found) : Error :=
    match skipWord letters rest with
    | .error e => e
    | .ok _ => .wrongType found wanted
  match c with
  | 'n' => word ['u', 'l', 'l'] .null
  | 't' => word ['r', 'u', 'e'] (.boolean true)
  | 'f' => word ['a', 'l', 's', 'e'] (.boolean false)
  | '[' => .wrongType .list wanted
  | '\x7b' => .wrongType .object wanted
  | '"' =>
    match stringBody rest with
    | .error e => e
    | .ok (t, _) => .wrongType (.string (String.ofList t)) wanted
  | c => if c = '-' || c.isDigit then numberMismatch wanted (c :: rest) else .expectedValue

/-! ### Strings, numbers and null -/

def readString (wanted : Wanted) (s : List Char) : Except Error (String × List Char) :=
  match skipSpace s with
  | [] => .error (.ended .value)
  | c :: rest =>
    if c = '"' then
      match stringBody rest with
      | .error e => .error e
      | .ok (t, rest) => .ok (String.ofList t, rest)
    else .error (mismatch wanted c rest)

def readWord (wanted : Wanted) (s : List Char) : Except Error (UInt64 × List Char) :=
  match skipSpace s with
  | [] => .error (.ended .value)
  | c :: rest =>
    if c = '-' || c.isDigit then
      match numeral (.ended .value) (c :: rest) with
      | .error e => .error e
      | .ok (n, rest) =>
        match n.value with
        | .error e => .error e
        | .ok (.natural k) => .ok (UInt64.ofNat k, rest)
        | .ok (.negative k) => .error (.wrongValue (.integer (-k)) wanted)
        | .ok (.float negative x) => .error (.wrongType (.float negative x) wanted)
    else .error (mismatch wanted c rest)

def readNull (s : List Char) : Except Error (Unit × List Char) :=
  match skipSpace s with
  | [] => .error (.ended .value)
  | c :: rest =>
    if c = 'n' then
      match skipWord ['u', 'l', 'l'] rest with
      | .error e => .error e
      | .ok rest => .ok ((), rest)
    else .error (mismatch .null c rest)

theorem readString_length {wanted : Wanted} {s rest : List Char} {t : String}
    (h : readString wanted s = .ok (t, rest)) : rest.length < s.length := by
  unfold readString at h
  split at h
  · cases h
  · next hs =>
    have := length_of_skipSpace_eq_cons hs
    split at h
    · split at h
      · cases h
      · next hb =>
        have := stringBody_length hb
        simp only [Except.ok.injEq, Prod.mk.injEq] at h
        rw [← h.2]
        omega
    · cases h

theorem readWord_length {wanted : Wanted} {s rest : List Char} {n : UInt64}
    (h : readWord wanted s = .ok (n, rest)) : rest.length < s.length := by
  unfold readWord at h
  split at h
  · cases h
  · next hs =>
    have := length_of_skipSpace_eq_cons hs
    split at h
    · split at h
      · cases h
      · next hn =>
        have := numeral_length hn
        simp only [List.length_cons] at this
        split at h
        case h_2 =>
          simp only [Except.ok.injEq, Prod.mk.injEq] at h
          rw [← h.2]
          omega
        all_goals cases h
    · cases h

theorem readNull_length {s rest : List Char} {u : Unit} (h : readNull s = .ok (u, rest)) :
    rest.length < s.length := by
  unfold readNull at h
  split at h
  · cases h
  · next hs =>
    have := length_of_skipSpace_eq_cons hs
    split at h
    · split at h
      · cases h
      · next hw =>
        have := skipWord_length hw
        simp only [Except.ok.injEq, Prod.mk.injEq, true_and] at h
        rw [← h]
        omega
    · cases h

def string (wanted : Wanted) : Reader String := ⟨readString wanted, readString_length⟩

def word (wanted : Wanted) : Reader UInt64 := ⟨readWord wanted, readWord_length⟩

/-! ### Readers from readers -/

/-- A value that is read by another reader and then looked at. -/
def Reader.refine {α β : Type} (reader : Reader α) (f : α → Except Error β) : Reader β where
  read s :=
    match reader.read s with
    | .error e => .error e
    | .ok (a, rest) =>
      match f a with
      | .error e => .error e
      | .ok b => .ok (b, rest)
  shorter {s rest b} h := by
    split at h
    · cases h
    · next ha =>
      have := reader.shorter ha
      split at h
      · cases h
      · simp only [Except.ok.injEq, Prod.mk.injEq] at h
        rw [← h.2]
        exact this

def Reader.map {α β : Type} (reader : Reader α) (f : α → β) : Reader β :=
  reader.refine (fun a => .ok (f a))

def Reader.readOrNull {α : Type} (reader : Reader α) (s : List Char) :
    Except Error (Option α × List Char) :=
  match skipSpace s with
  | 'n' :: rest =>
    match skipWord ['u', 'l', 'l'] rest with
    | .error e => .error e
    | .ok rest => .ok (none, rest)
  | _ =>
    match reader.read s with
    | .error e => .error e
    | .ok (a, rest) => .ok (some a, rest)

theorem Reader.readOrNull_length {α : Type} {reader : Reader α} {s rest : List Char} {a : Option α}
    (h : reader.readOrNull s = .ok (a, rest)) : rest.length < s.length := by
  unfold Reader.readOrNull at h
  split at h
  · next hs =>
    have := length_of_skipSpace_eq_cons hs
    split at h
    · cases h
    · next hw =>
      have := skipWord_length hw
      simp only [Except.ok.injEq, Prod.mk.injEq] at h
      rw [← h.2]
      omega
  · split at h
    · cases h
    · next ha =>
      simp only [Except.ok.injEq, Prod.mk.injEq] at h
      rw [← h.2]
      exact reader.shorter ha

def Reader.orNull {α : Type} (reader : Reader α) : Reader (Option α) :=
  ⟨reader.readOrNull, Reader.readOrNull_length⟩

def instant : Reader Time.Instant :=
  (string .time).refine (fun s => (Time.Rfc3339.parse s.toList).mapError .badTime)

/-! ### Lists -/

/-- What comes next in a list or an object: its end, or an item. The text after the end, or from
the item on, goes with it. -/
inductive Next
  | done (rest : List Char)
  | item (rest : List Char)

def nextItem (first : Bool) (s : List Char) : Except Error Next :=
  match skipSpace s with
  | [] => .error (.ended .list)
  | c :: rest =>
    if c = ']' then .ok (.done rest)
    else if first then .ok (.item (c :: rest))
    else if c = ',' then
      match skipSpace rest with
      | [] => .error (.ended .value)
      | d :: rest => if d = ']' then .error .trailingComma else .ok (.item (d :: rest))
    else .error .expectedListEnd

theorem nextItem_done_length {first : Bool} {s rest : List Char}
    (h : nextItem first s = .ok (.done rest)) : rest.length < s.length := by
  unfold nextItem at h
  split at h
  · cases h
  · next hs =>
    have := length_of_skipSpace_eq_cons hs
    split at h
    · simp_all
    · split at h
      · cases h
      · split at h
        · split at h
          · cases h
          · split at h <;> cases h
        · cases h

theorem nextItem_item_length {first : Bool} {s rest : List Char}
    (h : nextItem first s = .ok (.item rest)) : rest.length ≤ s.length := by
  unfold nextItem at h
  split at h
  · cases h
  · next hs =>
    have := length_of_skipSpace_eq_cons hs
    split at h
    · cases h
    · split at h
      · simp only [Except.ok.injEq, Next.item.injEq] at h
        simp only [← h, List.length_cons]
        omega
      · split at h
        · split at h
          · cases h
          · next hr =>
            have := length_of_skipSpace_eq_cons hr
            split at h
            · cases h
            · simp only [Except.ok.injEq, Next.item.injEq] at h
              simp only [← h, List.length_cons]
              omega
        · cases h

def readItems {α : Type} (reader : Reader α) (first : Bool) (s : List Char) :
    Except Error (List α × List Char) :=
  match _h : nextItem first s with
  | .error e => .error e
  | .ok (.done rest) => .ok ([], rest)
  | .ok (.item rest) =>
    match _h : reader.read rest with
    | .error e => .error e
    | .ok (a, rest) =>
      match readItems reader false rest with
      | .error e => .error e
      | .ok (items, after) => .ok (a :: items, after)
termination_by s.length
decreasing_by
  have := nextItem_item_length (by assumption)
  have := reader.shorter (by assumption)
  omega

theorem readItems_length {α : Type} {reader : Reader α} {first : Bool} {s rest : List Char}
    {items : List α} (h : readItems reader first s = .ok (items, rest)) :
    rest.length < s.length := by
  fun_induction readItems reader first s generalizing items rest with
  | case1 => cases h
  | case2 =>
    rename_i hd
    simp only [Except.ok.injEq, Prod.mk.injEq] at h
    exact h.2 ▸ nextItem_done_length hd
  | case3 => cases h
  | case4 => cases h
  | case5 =>
    rename_i hn _ _ ha _ _ hi ih
    have := nextItem_item_length hn
    have := reader.shorter ha
    have := ih hi
    simp only [Except.ok.injEq, Prod.mk.injEq] at h
    rw [← h.2]
    omega

def Reader.readList {α : Type} (reader : Reader α) (s : List Char) :
    Except Error (List α × List Char) :=
  match skipSpace s with
  | [] => .error (.ended .value)
  | c :: rest =>
    if c = '[' then readItems reader true rest else .error (mismatch .list c rest)

theorem Reader.readList_length {α : Type} {reader : Reader α} {s rest : List Char}
    {items : List α} (h : reader.readList s = .ok (items, rest)) : rest.length < s.length := by
  unfold Reader.readList at h
  split at h
  · cases h
  · next hs =>
    have := length_of_skipSpace_eq_cons hs
    split at h
    · have := readItems_length h
      omega
    · cases h

def Reader.list {α : Type} (reader : Reader α) : Reader (List α) :=
  ⟨reader.readList, Reader.readList_length⟩

/-! ### Names of a fixed set -/

def lookUp {α : Type} (known : List (String × α)) (name : String) : Except Error α :=
  match known.find? (fun entry => entry.1 == name) with
  | some entry => .ok entry.2
  | none => .error (.unknownVariant name (known.map Prod.fst))

/-- A name, read from after the bracket of an object that has it as its only key, with null for
its value. -/
def readTagged {α : Type} (known : List (String × α)) (s : List Char) :
    Except Error (α × List Char) :=
  match ((string .variant).refine (lookUp known)).read s with
  | .error e => .error e
  | .ok (a, rest) =>
    match skipColon rest with
    | .error e => .error e
    | .ok rest =>
      match readNull rest with
      | .error e => .error e
      | .ok (_, rest) =>
        match skipSpace rest with
        | [] => .error (.ended .object)
        | c :: rest => if c = '\x7d' then .ok (a, rest) else .error .expectedValue

theorem readTagged_length {α : Type} {known : List (String × α)} {s rest : List Char} {a : α}
    (h : readTagged known s = .ok (a, rest)) : rest.length < s.length := by
  unfold readTagged at h
  split at h
  · cases h
  · next ha =>
    have := Reader.shorter _ ha
    split at h
    · cases h
    · next hc =>
      have := skipColon_length hc
      split at h
      · cases h
      · next hn =>
        have := readNull_length hn
        split at h
        · cases h
        · next hs =>
          have := length_of_skipSpace_eq_cons hs
          split at h
          · simp only [Except.ok.injEq, Prod.mk.injEq] at h
            rw [← h.2]
            omega
          · cases h

/-- The name at the front of a text, as a string or as the only key of an object. -/
def readVariant {α : Type} (known : List (String × α)) (s : List Char) :
    Except Error (α × List Char) :=
  match skipSpace s with
  | [] => .error (.ended .value)
  | c :: rest =>
    if c = '"' then ((string .variant).refine (lookUp known)).read (c :: rest)
    else if c = '\x7b' then readTagged known rest
    else .error .expectedValue

theorem readVariant_length {α : Type} {known : List (String × α)} {s rest : List Char} {a : α}
    (h : readVariant known s = .ok (a, rest)) : rest.length < s.length := by
  unfold readVariant at h
  split at h
  · cases h
  · next hs =>
    have := length_of_skipSpace_eq_cons hs
    split at h
    · have := Reader.shorter _ h
      simp only [List.length_cons] at this
      omega
    · split at h
      · have := readTagged_length h
        omega
      · cases h

def variant {α : Type} (known : List (String × α)) : Reader α :=
  ⟨readVariant known, readVariant_length⟩

end BuoyGateway.Json
