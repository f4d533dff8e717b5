import BuoyGateway.Json.Reader

/-!
# Records

A record is written as an object whose keys are its fields, in any order, or as a list of its
fields in their own order. Reading starts from a record of defaults and replaces one field at a
time: an object overlays the defaults key by key, and a list may end where only fields with
defaults are left. Keys that are no field are skipped with their values.
-/

namespace BuoyGateway.Json

/-- A field of a record: its key, whether it has to be there, and a reader of its value into a
record. -/
structure Field (α : Type) where
  name : String
  required : Bool
  read : α → Reader α

def Field.of {α β : Type} (name : String) (required : Bool) (reader : Reader β)
    (set : α → β → α) : Field α := ⟨name, required, fun a => reader.map (set a)⟩

/-- A kind of record: its name, the record before any field is read, and its fields in order. -/
structure Shape (α : Type) where
  name : String
  start : α
  fields : List (Field α)

namespace Shape

variable {α : Type}

/-! ### Objects -/

/-- What comes next in an object: its end, or the text from after the opening quote of a key. -/
def nextKey (first : Bool) (s : List Char) : Except Error Next :=
  match skipSpace s with
  | [] => .error (.ended .object)
  | c :: rest =>
    if c = '\x7d' then .ok (.done rest)
    else if first then if c = '"' then .ok (.item rest) else .error .keyNotString
    else if c = ',' then
      match skipSpace rest with
      | [] => .error (.ended .value)
      | d :: rest =>
        if d = '"' then .ok (.item rest)
        else if d = '\x7d' then .error .trailingComma
        else .error .keyNotString
    else .error .expectedObjectEnd

theorem nextKey_done_length {first : Bool} {s rest : List Char}
    (h : nextKey first s = .ok (.done rest)) : rest.length < s.length := by
  unfold nextKey at h
  split at h
  · cases h
  · next hs =>
    have := length_of_skipSpace_eq_cons hs
    split at h
    · simp_all
    · split at h
      · split at h <;> cases h
      · split at h
        · split at h
          · cases h
          · split at h
            · cases h
            · split at h <;> cases h
        · cases h

theorem nextKey_item_length {first : Bool} {s rest : List Char}
    (h : nextKey first s = .ok (.item rest)) : rest.length < s.length := by
  unfold nextKey at h
  split at h
  · cases h
  · next hs =>
    have := length_of_skipSpace_eq_cons hs
    split at h
    · cases h
    · split at h
      · split at h
        · simp_all
        · cases h
      · split at h
        · split at h
          · cases h
          · next hr =>
            have := length_of_skipSpace_eq_cons hr
            split at h
            · simp only [Except.ok.injEq, Next.item.injEq] at h
              rw [← h]
              omega
            · split at h <;> cases h
        · cases h

/-- A member of an object, read from after its key. The keys seen so far go with the record; a
field that was seen before is refused before its value is looked at. -/
def readMember (shape : Shape α) (seen : List String) (a : α) (key : String) (s : List Char) :
    Except Error ((List String × α) × List Char) :=
  match shape.fields.find? (fun field => field.name == key) with
  | none =>
    match skipColon s with
    | .error e => .error e
    | .ok rest =>
      match skipValue rest with
      | .error e => .error e
      | .ok rest => .ok ((seen, a), rest)
  | some field =>
    if seen.contains key then .error (.duplicateField key)
    else
      match skipColon s with
      | .error e => .error e
      | .ok rest =>
        match (field.read a).read rest with
        | .error e => .error e
        | .ok (a, rest) => .ok ((key :: seen, a), rest)

theorem readMember_length {shape : Shape α} {seen : List String} {a : α} {key : String}
    {s rest : List Char} {p : List String × α} (h : shape.readMember seen a key s = .ok (p, rest)) :
    rest.length < s.length := by
  unfold readMember at h
  split at h
  · split at h
    · cases h
    · next hc =>
      have := skipColon_length hc
      split at h
      · cases h
      · next hv =>
        have := skipValue_length hv
        simp only [Except.ok.injEq, Prod.mk.injEq] at h
        rw [← h.2]
        omega
  · split at h
    · cases h
    · split at h
      · cases h
      · next hc =>
        have := skipColon_length hc
        split at h
        · cases h
        · next hv =>
          have := Reader.shorter _ hv
          simp only [Except.ok.injEq, Prod.mk.injEq] at h
          rw [← h.2]
          omega

/-- The record at the end of an object, or the first field that had to be there and was not. -/
def finish (shape : Shape α) (seen : List String) (a : α) : Except Error α :=
  match shape.fields.find? (fun field => field.required && !seen.contains field.name) with
  | some field => .error (.missingField field.name)
  | none => .ok a

def readMembers (shape : Shape α) (first : Bool) (seen : List String) (a : α) (s : List Char) :
    Except Error (α × List Char) :=
  match _h : nextKey first s with
  | .error e => .error e
  | .ok (.done rest) =>
    match shape.finish seen a with
    | .error e => .error e
    | .ok a => .ok (a, rest)
  | .ok (.item rest) =>
    match _h : stringBody rest with
    | .error e => .error e
    | .ok (key, rest) =>
      match _h : shape.readMember seen a (String.ofList key) rest with
      | .error e => .error e
      | .ok ((seen, a), rest) => shape.readMembers false seen a rest
termination_by s.length
decreasing_by
  have := nextKey_item_length (by assumption)
  have := stringBody_length (by assumption)
  have := readMember_length (by assumption)
  omega

theorem readMembers_length {shape : Shape α} {first : Bool} {seen : List String} {a b : α}
    {s rest : List Char} (h : shape.readMembers first seen a s = .ok (b, rest)) :
    rest.length < s.length := by
  fun_induction readMembers shape first seen a s with
  | case1 => cases h
  | case2 => cases h
  | case3 =>
    rename_i hd _ _
    simp only [Except.ok.injEq, Prod.mk.injEq] at h
    exact h.2 ▸ nextKey_done_length hd
  | case4 => cases h
  | case5 => cases h
  | case6 =>
    rename_i hn _ _ hk _ _ _ hm ih
    have := nextKey_item_length hn
    have := stringBody_length hk
    have := readMember_length hm
    have := ih h
    omega

/-! ### Lists -/

def closeList (s : List Char) : Except Error (List Char) :=
  match skipSpace s with
  | [] => .error (.ended .list)
  | c :: rest =>
    if c = ']' then .ok rest
    else if c = ',' && (skipSpace rest).head? = some ']' then .error .trailingComma
    else .error .trailingCharacters

theorem closeList_length {s rest : List Char} (h : closeList s = .ok rest) :
    rest.length < s.length := by
  unfold closeList at h
  split at h
  · cases h
  · next hs =>
    have := length_of_skipSpace_eq_cons hs
    split at h
    · simp_all
    · split at h <;> cases h

/-- The record of a list that ends before the given fields, the first of which has the given
index. -/
def endEarly (shape : Shape α) (index : Nat) (fields : List (Field α)) (a : α) :
    Except Error α :=
  match fields.findIdx? (fun field => field.required) with
  | some i => .error (.wrongLength (index + i) shape.name shape.fields.length)
  | none => .ok a

/-- The given fields, the first of which has the given index, in a list. -/
def readFields (shape : Shape α) (index : Nat) :
    List (Field α) → α → List Char → Except Error (α × List Char)
  | [], a, s =>
    match closeList s with
    | .error e => .error e
    | .ok rest => .ok (a, rest)
  | field :: fields, a, s =>
    match nextItem (index == 0) s with
    | .error e => .error e
    | .ok (.done rest) =>
      match shape.endEarly index (field :: fields) a with
      | .error e => .error e
      | .ok a => .ok (a, rest)
    | .ok (.item rest) =>
      match (field.read a).read rest with
      | .error e => .error e
      | .ok (a, rest) => shape.readFields (index + 1) fields a rest

theorem readFields_length {shape : Shape α} {index : Nat} {fields : List (Field α)} {a b : α}
    {s rest : List Char} (h : shape.readFields index fields a s = .ok (b, rest)) :
    rest.length < s.length := by
  induction fields generalizing index a s with
  | nil =>
    unfold readFields at h
    split at h
    · cases h
    · next hc =>
      simp only [Except.ok.injEq, Prod.mk.injEq] at h
      exact h.2 ▸ closeList_length hc
  | cons field fields ih =>
    unfold readFields at h
    split at h
    · cases h
    · next hd =>
      split at h
      · cases h
      · simp only [Except.ok.injEq, Prod.mk.injEq] at h
        exact h.2 ▸ nextItem_done_length hd
    · next hi =>
      split at h
      · cases h
      · next hv =>
        have := nextItem_item_length hi
        have := Reader.shorter _ hv
        have := ih h
        omega

/-! ### Both forms -/

def readRecord (shape : Shape α) (s : List Char) : Except Error (α × List Char) :=
  match skipSpace s with
  | [] => .error (.ended .value)
  | c :: rest =>
    if c = '\x7b' then shape.readMembers true [] shape.start rest
    else if c = '[' then shape.readFields 0 shape.fields shape.start rest
    else .error (mismatch (.record shape.name) c rest)

theorem readRecord_length {shape : Shape α} {s rest : List Char} {a : α}
    (h : shape.readRecord s = .ok (a, rest)) : rest.length < s.length := by
  unfold readRecord at h
  split at h
  · cases h
  · next hs =>
    have := length_of_skipSpace_eq_cons hs
    split at h
    · have := readMembers_length h
      omega
    · split at h
      · have := readFields_length h
        omega
      · cases h

def reader (shape : Shape α) : Reader α := ⟨shape.readRecord, readRecord_length⟩

end Shape

end BuoyGateway.Json
