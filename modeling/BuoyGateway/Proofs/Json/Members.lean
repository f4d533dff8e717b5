import BuoyGateway.Proofs.Json.Grammar
import BuoyGateway.Proofs.Json.Layout

/-!
# Lists and objects as they are spelled

A list or an object may be written with any blanks, the members of an object in any order, and with
members that are no fields of the record. Reading such an object takes one step a member: a field
is read into the record, any other member is skipped. `Shape.accepts_object` has what the steps keep.
-/

namespace BuoyGateway.Json

variable {α : Type} {reader : Reader α} {lead rest s : List Char} {first : Bool}

/-- What stands in front of the next item or member: nothing, or a comma behind blanks. -/
inductive Lead : Bool → List Char → Prop
  | first : Lead true []
  | comma {gap : List Char} : Blank gap → Lead false (gap ++ [','])

/-! ### Lists -/

/-- The text is what a list has between its brackets, with the texts of the items. -/
inductive ShowsItems : List Char → List (List Char) → Prop
  | none {gap : List Char} : Blank gap → ShowsItems gap []
  | last {gap text gap' : List Char} :
      Blank gap → Blank gap' → ShowsItems (gap ++ (text ++ gap')) [text]
  | more {gap text gap' next s : List Char} {texts : List (List Char)} :
      Blank gap → Blank gap' → ShowsItems s (next :: texts) →
      ShowsItems (gap ++ (text ++ (gap' ++ ',' :: s))) (text :: next :: texts)

/-- The text starts with a character of its own, which does not close a list. -/
def Starts (text : List Char) : Prop := ∃ c more, text = c :: more ∧ isSpace c = false ∧ c ≠ ']'

theorem nextItem_lead {gap text : List Char} (hlead : Lead first lead) (hgap : Blank gap)
    (hstarts : Starts text) (rest : List Char) :
    nextItem first (lead ++ (gap ++ (text ++ rest))) = .ok (.item (text ++ rest)) := by
  obtain ⟨c, more, rfl, hspace, hc⟩ := hstarts
  cases hlead with
  | first =>
    rw [List.nil_append, List.cons_append, nextItem, skipSpace_blanks_word hgap hspace]
    simp only [if_neg hc, if_true]
  | comma hlead =>
    rw [List.append_assoc, List.singleton_append, List.cons_append, nextItem,
      skipSpace_blanks_word hlead rfl]
    simp only [skipSpace_blanks_word hgap hspace, if_neg hc, if_true, Bool.false_eq_true, if_false,
      if_neg (show ¬(',' = ']') by decide)]

theorem readItems_shown {texts : List (List Char)} {as : List α} (h : ShowsItems s texts)
    (hitems : List.Forall₂ reader.Accepts texts as) (hstarts : ∀ text ∈ texts, Starts text)
    (hlead : Lead first lead) (hfirst : texts = [] → first = true) (rest : List Char) :
    readItems reader first (lead ++ (s ++ ']' :: rest)) = .ok (as, rest) := by
  induction h generalizing as first lead with
  | none hgap =>
    cases hitems
    cases hlead with
    | first => exact readItems_done (nextItem_close true hgap rest)
    | comma _ => cases hfirst rfl
  | @last gap text gap' hgap hgap' =>
    cases hitems with
    | cons htext hnil =>
      cases hnil
      have hread := htext [] (gap' ++ ']' :: rest) blank_nil ((Follows.word (by decide)).blank hgap')
      rw [List.append_assoc, List.append_assoc]
      exact readItems_item (nextItem_lead hlead hgap (hstarts text List.mem_cons_self) _) hread
        (readItems_done (nextItem_close false hgap' rest))
  | @more gap text gap' next s texts hgap hgap' _ ih =>
    cases hitems with
    | cons htext hmore =>
      have hread := htext [] (gap' ++ ',' :: (s ++ ']' :: rest)) blank_nil
        ((Follows.word (by decide)).blank hgap')
      have htail := ih hmore (fun t ht => hstarts t (List.mem_cons_of_mem text ht))
        (.comma hgap') nofun
      rw [List.append_assoc, List.singleton_append] at htail
      simp only [List.append_assoc, List.cons_append]
      exact readItems_item (nextItem_lead hlead hgap (hstarts text List.mem_cons_self) _) hread htail

theorem accepts_list {texts : List (List Char)} {as : List α} (h : ShowsItems s texts)
    (hitems : List.Forall₂ reader.Accepts texts as) (hstarts : ∀ text ∈ texts, Starts text) :
    reader.list.Accepts ('[' :: (s ++ [']'])) as := by
  intro gap rest hgap _
  change reader.readList _ = _
  rw [List.cons_append, Reader.readList, skipSpace_blanks_word hgap rfl]
  dsimp only
  rw [if_pos rfl, List.append_assoc]
  exact readItems_shown h hitems hstarts .first (fun _ => rfl) rest

inductive ShowsStrings : List Char → List String → Prop
  | list {s : List Char} {texts : List (List Char)} {strings : List String} :
      ShowsItems s texts → List.Forall₂ ShowsString texts strings →
      ShowsStrings ('[' :: (s ++ [']'])) strings

theorem ShowsString.starts {text : List Char} {t : String} (h : ShowsString text t) :
    Starts text := by
  cases h
  exact ⟨'"', _, rfl, rfl, by decide⟩

theorem ShowsStrings.starts {text : List Char} {strings : List String}
    (h : ShowsStrings text strings) : Starts text := by
  cases h
  exact ⟨'[', _, rfl, rfl, by decide⟩

theorem accepts_strings (wanted : Wanted) {text : List Char} {strings : List String}
    (h : ShowsStrings text strings) : (string wanted).list.Accepts text strings := by
  cases h with
  | list hs hstrings =>
    have hstarts := (List.forall₂_and_left _ _).1 (hstrings.imp fun _ _ h => ⟨h.starts, h⟩)
    exact accepts_list hs (hstrings.imp fun _ _ => accepts_string wanted) hstarts.1

/-! ### Objects -/

/-- The text is a member of an object among blanks, with its key and the text of its value. -/
inductive ShowsMember : List Char → String × List Char → Prop
  | mk {gap body gap' before text after : List Char} {key : String} :
      Blank gap → Quoted body key.toList → Blank gap' → Blank before → Blank after →
      ShowsMember
        (gap ++ '"' :: (body ++ '"' :: (gap' ++ ':' :: (before ++ (text ++ after))))) (key, text)

theorem ShowsMember.compact {body text : List Char} {key : String} (h : Quoted body key.toList) :
    ShowsMember ('"' :: (body ++ '"' :: ':' :: text)) (key, text) := by
  have hmember : ShowsMember ([] ++ '"' :: (body ++ '"' :: ([] ++ ':' :: ([] ++ (text ++ [])))))
      (key, text) := .mk blank_nil h blank_nil blank_nil blank_nil
  rw [List.append_nil] at hmember
  exact hmember

/-- The text is what an object has between its braces, with the members. -/
inductive ShowsMembers : List Char → List (String × List Char) → Prop
  | none {gap : List Char} : Blank gap → ShowsMembers gap []
  | last {s : List Char} {member : String × List Char} :
      ShowsMember s member → ShowsMembers s [member]
  | more {s s' : List Char} {member next : String × List Char}
      {members : List (String × List Char)} :
      ShowsMember s member → ShowsMembers s' (next :: members) →
      ShowsMembers (s ++ ',' :: s') (member :: next :: members)

inductive ShowsObject : List Char → List (String × List Char) → Prop
  | mk {gap s gap' : List Char} {members : List (String × List Char)} :
      Blank gap → ShowsMembers s members → Blank gap' →
      ShowsObject (gap ++ ('\x7b' :: (s ++ ['\x7d']) ++ gap')) members

namespace Shape

variable {shape : Shape α}

/-- Reading a member leads from the keys seen and the record so far to those after it: a field is
read into the record, and any other value is skipped. -/
inductive Step (shape : Shape α) :
    List String × α → String × List Char → List String × α → Prop
  | field {seen : List String} {a b : α} {key : String} {text : List Char} {field : Field α} :
      shape.fields.find? (fun field => field.name == key) = some field → key ∉ seen →
      (field.read a).Accepts text b → shape.Step (seen, a) (key, text) (key :: seen, b)
  | other {p : List String × α} {key : String} {text : List Char} :
      shape.fields.find? (fun field => field.name == key) = none → IsValue text →
      shape.Step p (key, text) p

inductive Steps (shape : Shape α) :
    List String × α → List (String × List Char) → List String × α → Prop
  | done {p : List String × α} : shape.Steps p [] p
  | step {p q r : List String × α} {member : String × List Char}
      {members : List (String × List Char)} :
      shape.Step p member q → shape.Steps q members r → shape.Steps p (member :: members) r

theorem Step.readMember {p q : List String × α} {key : String} {text gap' before : List Char}
    (h : shape.Step p (key, text) q) (hgap' : Blank gap') (hbefore : Blank before)
    (hrest : Follows rest) :
    shape.readMember p.1 p.2 key (gap' ++ ':' :: (before ++ (text ++ rest))) = .ok (q, rest) := by
  have hcolon : skipColon (gap' ++ ':' :: (before ++ (text ++ rest))) =
      .ok (before ++ (text ++ rest)) := by
    simp only [skipColon, skipSpace_blanks_word hgap' (show isSpace ':' = false by decide), if_true]
  cases h with
  | @field seen a b _ _ field hfind hseen htext =>
    have hseen' : ¬seen.contains key = true := by simpa using hseen
    simp only [Shape.readMember, hfind, if_neg hseen', hcolon, htext before rest hbefore hrest]
  | other hfind hvalue =>
    simp only [Shape.readMember, hfind, hcolon, skipValue_isValue hvalue hbefore hrest]

theorem nextKey_lead {gap : List Char} (hlead : Lead first lead) (hgap : Blank gap)
    (rest : List Char) : nextKey first (lead ++ (gap ++ '"' :: rest)) = .ok (.item rest) := by
  cases hlead with
  | first => exact nextKey_first hgap rest
  | comma hlead =>
    rw [List.append_assoc, List.singleton_append]
    simp only [nextKey, skipSpace_blanks_word hlead (show isSpace ',' = false by decide),
      skipSpace_blanks_word hgap (show isSpace '"' = false by decide), if_true,
      if_neg (show ¬(',' = '\x7d') by decide), Bool.false_eq_true, if_false]

theorem Step.readMembers {p q : List String × α} {member : String × List Char}
    (h : shape.Step p member q) (hmember : ShowsMember s member) (hlead : Lead first lead) :
    ∃ after, Blank after ∧ ∀ c rest, c ∈ [',', ']', '\x7d'] →
      shape.readMembers first p.1 p.2 (lead ++ (s ++ c :: rest)) =
        shape.readMembers false q.1 q.2 (after ++ c :: rest) := by
  cases hmember with
  | @mk gap body gap' before text after key hgap hkey hgap' hbefore hafter =>
    refine ⟨after, hafter, fun c rest hc => ?_⟩
    have hrest : Follows (after ++ c :: rest) := (Follows.word hc).blank hafter
    have hread := h.readMember hgap' hbefore hrest
    simp only [List.append_assoc, List.cons_append]
    exact readMembers_item (nextKey_lead hlead hgap _) (stringBody_quoted hkey _)
      (by rw [String.ofList_toList]; exact hread)

theorem Steps.readMembers {p q : List String × α} {members : List (String × List Char)} {b : α}
    (h : shape.Steps p members q) (hs : ShowsMembers s members)
    (hfinish : shape.finish q.1 q.2 = .ok b) (hlead : Lead first lead)
    (hfirst : members = [] → first = true) (rest : List Char) :
    shape.readMembers first p.1 p.2 (lead ++ (s ++ '\x7d' :: rest)) = .ok (b, rest) := by
  -- What stands in front of the next member is generalised: the blanks behind a member go with its comma.
  induction hs generalizing p first lead with
  | none hgap =>
    cases h
    cases hlead with
    | first => exact readMembers_done (nextKey_close true hgap rest) hfinish
    | comma _ => cases hfirst rfl
  | last hmember =>
    cases h with
    | step hstep hnil =>
      cases hnil
      obtain ⟨after, hafter, hread⟩ := hstep.readMembers hmember hlead
      rw [hread '\x7d' rest (by decide)]
      exact readMembers_done (nextKey_close false hafter rest) hfinish
  | @more s s' member next members hmember _ ih =>
    cases h with
    | step hstep hsteps =>
      obtain ⟨after, hafter, hread⟩ := hstep.readMembers hmember hlead
      have htail := ih hsteps (.comma hafter) nofun
      rw [List.append_assoc, List.singleton_append] at htail
      rw [List.append_assoc, List.cons_append, hread ',' _ (by decide)]
      exact htail

/-- The members are those of a record: fields have values that their readers take and that keep the
property of the keys seen and the record, other members have well-formed values, and no field is
there twice. -/
structure Fits (shape : Shape α) (holds : List String → α → Prop)
    (members : List (String × List Char)) : Prop where
  field : ∀ field ∈ shape.fields, ∀ text, (field.name, text) ∈ members → ∀ seen a, holds seen a →
    ∃ b, (field.read a).Accepts text b ∧ holds (field.name :: seen) b
  other : ∀ member ∈ members, (∀ field ∈ shape.fields, field.name ≠ member.1) → IsValue member.2
  once : ∀ field ∈ shape.fields, (members.map Prod.fst).count field.name ≤ 1

theorem Fits.tail {holds : List String → α → Prop} {member : String × List Char}
    {members : List (String × List Char)} (h : shape.Fits holds (member :: members)) :
    shape.Fits holds members where
  field field hfield text htext := h.field field hfield text (List.mem_cons_of_mem member htext)
  other m hm := h.other m (List.mem_cons_of_mem member hm)
  once field hfield := Nat.le_trans
    ((List.sublist_cons_self member members).map Prod.fst |>.count_le field.name)
    (h.once field hfield)

theorem name_of_find? {key : String} {field : Field α}
    (h : shape.fields.find? (fun field => field.name == key) = some field) : field.name = key := by
  simpa using List.find?_some h

/-- The steps of an object lead somewhere, with the property kept and each field seen that is there. -/
theorem Fits.exists_steps {holds : List String → α → Prop} {members : List (String × List Char)}
    (h : shape.Fits holds members) {seen : List String} {a : α} (hstart : holds seen a)
    (hseen : ∀ name ∈ seen, name ∉ members.map Prod.fst) :
    ∃ seen' b, shape.Steps (seen, a) members (seen', b) ∧ holds seen' b ∧
      ∀ field ∈ shape.fields, field.name ∈ seen' ↔
        field.name ∈ seen ∨ field.name ∈ members.map Prod.fst := by
  induction members generalizing seen a with
  | nil => exact ⟨seen, a, .done, hstart, fun _ _ => by simp⟩
  | cons member members ih =>
    obtain ⟨key, text⟩ := member
    rw [List.map_cons] at hseen
    cases hfind : shape.fields.find? (fun field => field.name == key) with
    | none =>
      have hother : ∀ field ∈ shape.fields, field.name ≠ key := by
        simpa using List.find?_eq_none.1 hfind
      have hvalue := h.other (key, text) List.mem_cons_self hother
      obtain ⟨seen', b, hsteps, hb, hnames⟩ := ih h.tail hstart
        (fun name hname hmem => hseen name hname (List.mem_cons_of_mem key hmem))
      refine ⟨seen', b, .step (.other hfind hvalue) hsteps, hb, fun field hfield => ?_⟩
      rw [hnames field hfield, List.map_cons, List.mem_cons]
      simp only [hother field hfield, false_or]
    | some field =>
      have hmem := List.mem_of_find?_eq_some hfind
      have hname := name_of_find? hfind
      subst hname
      have hnew : field.name ∉ seen := fun hold => hseen _ hold List.mem_cons_self
      obtain ⟨b, htext, hb⟩ := h.field field hmem text List.mem_cons_self seen a hstart
      have hrest : ∀ name ∈ field.name :: seen, name ∉ members.map Prod.fst := by
        intro name hname
        rcases List.mem_cons.1 hname with rfl | hname
        · -- The field is there once, so it does not come again.
          have honce := h.once field hmem
          rw [List.map_cons, List.count_cons_self] at honce
          exact List.count_eq_zero.1 (by omega)
        · exact fun hmem => hseen name hname (List.mem_cons_of_mem _ hmem)
      obtain ⟨seen', c, hsteps, hc, hnames⟩ := ih h.tail hb hrest
      refine ⟨seen', c, .step (.field hfind hnew htext) hsteps, hc, fun field' hfield' => ?_⟩
      rw [hnames field' hfield', List.map_cons, List.mem_cons, List.mem_cons]
      tauto

theorem finish_of_required {seen : List String} {a : α}
    (h : ∀ field ∈ shape.fields, field.required = true → field.name ∈ seen) :
    shape.finish seen a = .ok a := by
  unfold finish
  split
  · next field hfind =>
    have hmem := List.mem_of_find?_eq_some hfind
    have hmissing := List.find?_some hfind
    simp only [Bool.and_eq_true, Bool.not_eq_true', List.contains_eq_mem,
      decide_eq_false_iff_not] at hmissing
    exact absurd (h field hmem hmissing.1) hmissing.2
  · rfl

/-- An object of the fields of a record and any other members is read, in whatever order they are:
what holds at the start and is kept by every field holds of the record. -/
theorem accepts_object {holds : List String → α → Prop} {members : List (String × List Char)}
    (hs : ShowsMembers s members) (hfits : shape.Fits holds members)
    (hstart : holds [] shape.start)
    (hrequired : ∀ field ∈ shape.fields, field.required = true →
      field.name ∈ members.map Prod.fst) :
    ∃ seen a, shape.reader.Accepts ('\x7b' :: (s ++ ['\x7d'])) a ∧ holds seen a ∧
      ∀ field ∈ shape.fields, field.name ∈ seen ↔ field.name ∈ members.map Prod.fst := by
  obtain ⟨seen, a, hsteps, ha, hnames⟩ := hfits.exists_steps hstart nofun
  simp only [List.not_mem_nil, false_or] at hnames
  refine ⟨seen, a, ?_, ha, hnames⟩
  have hfinish : shape.finish seen a = .ok a := finish_of_required
    (fun field hfield hreq => (hnames field hfield).2 (hrequired field hfield hreq))
  intro gap rest hgap _
  change shape.readRecord _ = _
  rw [List.cons_append, readRecord, skipSpace_blanks_word hgap rfl]
  dsimp only
  rw [if_pos rfl, List.append_assoc]
  exact hsteps.readMembers hs hfinish .first (fun _ => rfl) rest

/-! ### Lists of fields -/

/-- The texts are values of the fields from the first one on, and no field that is left has to be
there. -/
inductive Fills (shape : Shape α) : List (Field α) → α → List (List Char) → α → Prop
  | done {fields : List (Field α)} {a : α} :
      (∀ field ∈ fields, field.required = false) → shape.Fills fields a [] a
  | next {field : Field α} {fields : List (Field α)} {a b c : α} {text : List Char}
      {texts : List (List Char)} :
      (field.read a).Accepts text b → shape.Fills fields b texts c →
      shape.Fills (field :: fields) a (text :: texts) c

theorem readFields_done {index : Nat} {fields : List (Field α)} {a : α} {gap : List Char}
    (hgap : Blank gap) (hfields : ∀ field ∈ fields, field.required = false) (rest : List Char) :
    shape.readFields index fields a (gap ++ ']' :: rest) = .ok (a, rest) := by
  cases fields with
  | nil =>
    have hclose : closeList (gap ++ ']' :: rest) = .ok rest := by
      simp only [closeList, skipSpace_blanks_word hgap (show isSpace ']' = false by decide), if_true]
    rw [readFields, hclose]
  | cons field fields =>
    have hend : shape.endEarly index (field :: fields) a = .ok a := by
      have hnone : (field :: fields).findIdx? (fun field => field.required) = none :=
        List.findIdx?_eq_none_iff.2 hfields
      rw [endEarly, hnone]
    rw [readFields, nextItem_close (index == 0) hgap rest]
    simp only [hend]

theorem readFields_shown {index : Nat} {fields : List (Field α)} {a b : α}
    {texts : List (List Char)} (hs : ShowsItems s texts) (h : shape.Fills fields a texts b)
    (hstarts : ∀ text ∈ texts, Starts text) (hlead : Lead (index == 0) lead)
    (hfirst : texts = [] → index = 0) (rest : List Char) :
    shape.readFields index fields a (lead ++ (s ++ ']' :: rest)) = .ok (b, rest) := by
  induction hs generalizing index fields a lead with
  | none hgap =>
    cases hfirst rfl
    cases hlead
    cases h with
    | done hfields => exact readFields_done hgap hfields rest
  | @last gap text gap' hgap hgap' =>
    cases h with
    | next htext hdone =>
      cases hdone with
      | done hfields =>
        have hnext := nextItem_lead hlead hgap (hstarts text List.mem_cons_self)
          (gap' ++ ']' :: rest)
        have hread := htext [] (gap' ++ ']' :: rest) blank_nil ((Follows.word (by decide)).blank hgap')
        rw [List.nil_append] at hread
        rw [List.append_assoc, List.append_assoc, readFields, hnext]
        simp only [hread, readFields_done hgap' hfields rest]
  | @more gap text gap' next s texts hgap hgap' _ ih =>
    cases h with
    | next htext hmore =>
      have hnext := nextItem_lead hlead hgap (hstarts text List.mem_cons_self)
        (gap' ++ ',' :: (s ++ ']' :: rest))
      have hread := htext [] (gap' ++ ',' :: (s ++ ']' :: rest)) blank_nil
        ((Follows.word (by decide)).blank hgap')
      have hcomma : Lead (index + 1 == 0) (gap' ++ [',']) := .comma hgap'
      have htail := ih hmore (fun t ht => hstarts t (List.mem_cons_of_mem text ht)) hcomma
        (fun h => absurd h (List.cons_ne_nil _ _))
      rw [List.append_assoc, List.singleton_append] at htail
      rw [List.nil_append] at hread
      simp only [List.append_assoc, List.cons_append]
      rw [readFields, hnext]
      simp only [hread, htail]

theorem accepts_list {texts : List (List Char)} {a : α} (hs : ShowsItems s texts)
    (h : shape.Fills shape.fields shape.start texts a) (hstarts : ∀ text ∈ texts, Starts text) :
    shape.reader.Accepts ('[' :: (s ++ [']'])) a := by
  intro gap rest hgap _
  change shape.readRecord _ = _
  rw [List.cons_append, readRecord, skipSpace_blanks_word hgap rfl]
  dsimp only
  rw [if_neg (by decide), if_pos rfl, List.append_assoc]
  have hfirst : Lead ((0 : Nat) == 0) [] := .first
  exact readFields_shown hs h hstarts hfirst (fun _ => rfl) rest

end Shape

end BuoyGateway.Json
