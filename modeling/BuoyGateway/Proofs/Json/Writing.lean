import BuoyGateway.Proofs.Json.Record

/-!
# Written texts are read back

A written string has no quote and no control character but in an escape, so its reader stops at its
closing quote with the characters that were written. Blanks stand only between words, so an object
reads the same in the form without blanks and in the one with a member per line: `Shape.Takes` says
that the written members are, one after the other, values of fields that were not there before.
-/

namespace BuoyGateway.Json

variable {α β : Type}

/-! ### Strings -/

theorem stringBody_escape {s rest t after : List Char} {c : Char} (h : escape s = .ok (c, rest))
    (hrest : stringBody rest = .ok (t, after)) :
    stringBody ('\\' :: s) = .ok (c :: t, after) := by
  rw [stringBody, if_neg (by decide), if_pos rfl]
  split
  · next he =>
    rw [h] at he
    cases he
  · next he =>
    rw [h] at he
    cases he
    rw [hrest]

theorem stringBody_plain {s t after : List Char} {c : Char} (hquote : c ≠ '"') (hslash : c ≠ '\\')
    (hcontrol : ¬c.toNat < 0x20) (hrest : stringBody s = .ok (t, after)) :
    stringBody (c :: s) = .ok (c :: t, after) := by
  rw [stringBody, if_neg hquote, if_neg hslash, if_neg hcontrol, hrest]

theorem hexQuad_hexDigits {n : Nat} (h : n < 0x20) (rest : List Char) :
    hexQuad ((Text.hexDigits n).leftpad 4 '0' ++ rest) = .ok (n, rest) := by
  have hall : ∀ n < 0x20,
      (hexQuad ((Text.hexDigits n).leftpad 4 '0')).toOption = some (n, []) := by decide
  have hown := hall n h
  cases hq : hexQuad ((Text.hexDigits n).leftpad 4 '0') with
  | error e =>
    rw [hq] at hown
    cases hown
  | ok p =>
    rw [hq] at hown
    cases hown
    exact hexQuad_append hq rest

theorem escape_control {c : Char} (h : c.toNat < 0x20) (rest : List Char) :
    escape ('u' :: ((Text.hexDigits c.toNat).leftpad 4 '0' ++ rest)) = .ok (c, rest) := by
  have hlow : ¬(0xDC00 ≤ c.toNat && c.toNat ≤ 0xDFFF) = true := by
    rw [Bool.and_eq_true, decide_eq_true_eq]
    omega
  have hhigh : ¬(0xD800 ≤ c.toNat && c.toNat ≤ 0xDBFF) = true := by
    rw [Bool.and_eq_true, decide_eq_true_eq]
    omega
  simp only [escape, hexQuad_hexDigits h, if_neg hlow, if_neg hhigh, Char.ofNat_toNat]

theorem stringBody_escaped {s t after : List Char} (c : Char)
    (hrest : stringBody s = .ok (t, after)) :
    stringBody (escaped c ++ s) = .ok (c :: t, after) := by
  unfold escaped
  split
  case h_8 c hquote hslash _ _ _ _ _ =>
    split
    · next hcontrol => exact stringBody_escape (escape_control hcontrol s) hrest
    · next hcontrol => exact stringBody_plain hquote hslash hcontrol hrest
  all_goals exact stringBody_escape rfl hrest

theorem stringBody_written (s rest : List Char) :
    stringBody (s.flatMap escaped ++ '"' :: rest) = .ok (s, rest) := by
  induction s with
  | nil => rw [List.flatMap_nil, List.nil_append, stringBody, if_pos rfl]
  | cons c s ih =>
    rw [List.flatMap_cons, List.append_assoc]
    exact stringBody_escaped c ih

/-! ### Values -/

theorem skipSpace_blanks {gap : List Char} (h : ∀ c ∈ gap, isSpace c = true) (rest : List Char) :
    skipSpace (gap ++ rest) = skipSpace rest := List.dropWhile_append_of_pos h

theorem skipSpace_word {c : Char} (h : isSpace c = false) (rest : List Char) :
    skipSpace (c :: rest) = c :: rest := by
  rw [skipSpace, List.dropWhile_cons, if_neg (by rw [h]; decide)]

theorem skipSpace_blanks_word {gap : List Char} (h : ∀ c ∈ gap, isSpace c = true) {c : Char}
    (hc : isSpace c = false) (rest : List Char) : skipSpace (gap ++ c :: rest) = c :: rest := by
  rw [skipSpace_blanks h, skipSpace_word hc]

/-- The text is the end of what is written, or goes on with what may follow a value. A number would
go on with a digit. -/
def Closes (rest : List Char) : Prop := ∀ c ∈ rest.head?, c ∈ [',', ']', '\x7d', '\n']

/-- Behind blanks and in front of what may follow it, the reader takes the text for the value. -/
def Reader.Takes (reader : Reader α) (text : List Char) (a : α) : Prop :=
  ∀ gap rest, (∀ c ∈ gap, isSpace c = true) → Closes rest →
    reader.read (gap ++ (text ++ rest)) = .ok (a, rest)

theorem takes_string (wanted : Wanted) (s : String) : (string wanted).Takes (writeString s) s := by
  intro gap rest hgap _
  change readString wanted _ = _
  simp only [readString, writeString, List.cons_append, List.append_assoc, List.nil_append,
    skipSpace_blanks_word hgap (show isSpace '"' = false by decide), if_true, stringBody_written,
    String.ofList_toList]

theorem Reader.Takes.refine {reader : Reader α} {text : List Char} {a : α} {b : β}
    {f : α → Except Error β} (h : reader.Takes text a) (hf : f a = .ok b) :
    (reader.refine f).Takes text b := by
  intro gap rest hgap hrest
  simp only [Reader.refine, h gap rest hgap hrest, hf]

theorem Reader.Takes.map {reader : Reader α} {text : List Char} {a : α} (h : reader.Takes text a)
    (f : α → β) : (reader.map f).Takes text (f a) := h.refine rfl

/-! ### Objects -/

def writeMember (gap inner : List Char) (member : String × List Char) : List Char :=
  gap ++ (writeString member.1 ++ ':' :: (inner ++ member.2))

theorem writeMember_append (gap inner : List Char) (key : String) (text rest : List Char) :
    writeMember gap inner (key, text) ++ rest =
      gap ++ '"' :: (key.toList.flatMap escaped ++ '"' :: ':' :: (inner ++ (text ++ rest))) := by
  simp [writeMember, writeString]

def writeMembers (gap inner : List Char) : List (String × List Char) → List Char
  | [] => []
  | member :: members =>
    writeMember gap inner member ++ members.flatMap (fun m => ',' :: writeMember gap inner m)

theorem prettyMembers_eq (depth : Nat) (members : List (String × Value)) :
    prettyMembers depth members = writeMembers (newLine depth) [' ']
      (members.map (fun m => (m.1, m.2.prettyAt depth))) := by
  match members with
  | [] => rfl
  | [(key, v)] => simp [prettyMembers, writeMembers, writeMember]
  | (key, v) :: m :: members =>
    have ih := prettyMembers_eq depth (m :: members)
    simp only [prettyMembers, ih]
    simp [writeMembers, writeMember]

theorem isSpace_of_mem_newLine {depth : Nat} {c : Char} (h : c ∈ newLine depth) :
    isSpace c = true := by
  rcases List.mem_cons.1 h with rfl | h
  · rfl
  · rw [(List.mem_replicate.1 h).2]
    rfl

namespace Shape

variable {shape : Shape α} {gap inner close : List Char}

/-- The written members are values of fields of the record, none of them seen before, and lead from
one record to the other. -/
inductive Takes (shape : Shape α) : List String → α → List (String × List Char) → α → Prop
  | done {seen : List String} {a : α} : shape.finish seen a = .ok a → shape.Takes seen a [] a
  | member {seen : List String} {a b c : α} {key : String} {text : List Char} {field : Field α}
      {members : List (String × List Char)} :
      shape.fields.find? (fun field => field.name == key) = some field → key ∉ seen →
      (field.read a).Takes text b → shape.Takes (key :: seen) b members c →
      shape.Takes seen a ((key, text) :: members) c

theorem nextKey_close (first : Bool) (hclose : ∀ c ∈ close, isSpace c = true) (rest : List Char) :
    nextKey first (close ++ '\x7d' :: rest) = .ok (.done rest) := by
  simp only [nextKey, skipSpace_blanks_word hclose (show isSpace '\x7d' = false by decide), if_true]

theorem nextKey_first (hgap : ∀ c ∈ gap, isSpace c = true) (rest : List Char) :
    nextKey true (gap ++ '"' :: rest) = .ok (.item rest) := by
  simp only [nextKey, skipSpace_blanks_word hgap (show isSpace '"' = false by decide), if_true,
    if_neg (show ¬('"' = '\x7d') by decide)]

theorem nextKey_comma (hgap : ∀ c ∈ gap, isSpace c = true) (rest : List Char) :
    nextKey false (',' :: (gap ++ '"' :: rest)) = .ok (.item rest) := by
  simp only [nextKey, skipSpace_word (show isSpace ',' = false by decide),
    skipSpace_blanks_word hgap (show isSpace '"' = false by decide), if_true,
    if_neg (show ¬(',' = '\x7d') by decide), Bool.false_eq_true, if_false]

theorem readMembers_member {first : Bool} {seen : List String} {a b : α} {key : String}
    {text s rest : List Char} {field : Field α}
    (hn : nextKey first s =
      .ok (.item (key.toList.flatMap escaped ++ '"' :: ':' :: (inner ++ (text ++ rest)))))
    (hfield : shape.fields.find? (fun field => field.name == key) = some field)
    (hseen : key ∉ seen) (htext : (field.read a).Takes text b)
    (hinner : ∀ c ∈ inner, isSpace c = true) (hrest : Closes rest) :
    shape.readMembers first seen a s = shape.readMembers false (key :: seen) b rest := by
  have hseen' : ¬seen.contains key = true := by simpa using hseen
  have hmember : shape.readMember seen a key (':' :: (inner ++ (text ++ rest))) =
      .ok ((key :: seen, b), rest) := by
    simp only [readMember, hfield, if_neg hseen', skipColon,
      skipSpace_word (show isSpace ':' = false by decide), if_true, htext inner rest hinner hrest]
  exact readMembers_item hn (stringBody_written _ _) (by rw [String.ofList_toList]; exact hmember)

theorem closes_followers (gap inner : List Char) (members : List (String × List Char))
    {rest : List Char} (hrest : Closes rest) :
    Closes (members.flatMap (fun m => ',' :: writeMember gap inner m) ++ rest) := by
  cases members with
  | nil => exact hrest
  | cons member members =>
    intro c hc
    cases hc
    decide

variable (hgap : ∀ c ∈ gap, isSpace c = true) (hinner : ∀ c ∈ inner, isSpace c = true)
  (hclose : ∀ c ∈ close, isSpace c = true)

include hgap hinner hclose

theorem readMembers_followers {seen : List String} {a b : α} {members : List (String × List Char)}
    {rest : List Char} (h : shape.Takes seen a members b)
    (hrest : Closes (close ++ '\x7d' :: rest)) :
    shape.readMembers false seen a
      (members.flatMap (fun m => ',' :: writeMember gap inner m) ++ (close ++ '\x7d' :: rest)) =
        .ok (b, rest) := by
  induction h with
  | done hfinish => exact readMembers_done (nextKey_close false hclose rest) hfinish
  | @member _ _ _ _ _ _ _ members hfield hseen htext _ ih =>
    rw [List.flatMap_cons, List.append_assoc, List.cons_append, writeMember_append,
      readMembers_member (nextKey_comma hgap _) hfield hseen htext hinner
        (closes_followers gap inner members hrest)]
    exact ih

theorem readMembers_written {a b : α} {members : List (String × List Char)} {rest : List Char}
    (h : shape.Takes [] a members b) (hrest : Closes (close ++ '\x7d' :: rest)) :
    shape.readMembers true [] a
      (writeMembers gap inner members ++ (close ++ '\x7d' :: rest)) = .ok (b, rest) := by
  cases h with
  | done hfinish => exact readMembers_done (nextKey_close true hclose rest) hfinish
  | @member _ _ _ _ _ _ _ members hfield hseen htext hmembers =>
    rw [writeMembers, List.append_assoc, writeMember_append,
      readMembers_member (nextKey_first hgap _) hfield hseen htext hinner
        (closes_followers gap inner members hrest)]
    exact readMembers_followers hgap hinner hclose hmembers hrest

end Shape

end BuoyGateway.Json
