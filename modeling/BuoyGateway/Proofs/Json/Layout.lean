import Mathlib.Data.List.Forall2
import BuoyGateway.Proofs.Json.Words

/-!
# Two forms of a written value

A value is written without blanks, or with one item or member per line at some depth. The two forms
differ in the blanks between words alone, so what the readers take of one form they take of the other:
every statement is about both, and `parse_written` is the one about a whole text.
-/

namespace BuoyGateway.Json

/-- A form of written values: without blanks, or on lines inside so many brackets. -/
inductive Layout
  | compact
  | lines (depth : Nat)

namespace Layout

def gap : Layout → List Char
  | compact => []
  | lines depth => newLine (depth + 1)

def inner : Layout → List Char
  | compact => []
  | lines _ => [' ']

def close : Layout → List Char
  | compact => []
  | lines depth => newLine depth

def inside : Layout → Layout
  | compact => compact
  | lines depth => lines (depth + 1)

variable (layout : Layout)

theorem isSpace_gap : ∀ c ∈ layout.gap, isSpace c = true := by
  cases layout with
  | compact => exact nofun
  | lines depth => exact fun _ => isSpace_of_mem_newLine

theorem isSpace_inner : ∀ c ∈ layout.inner, isSpace c = true := by
  cases layout with
  | compact => exact nofun
  | lines depth => exact fun c hc => List.mem_singleton.1 hc ▸ rfl

theorem isSpace_close : ∀ c ∈ layout.close, isSpace c = true := by
  cases layout with
  | compact => exact nofun
  | lines depth => exact fun _ => isSpace_of_mem_newLine

end Layout

def Value.written : Layout → Value → List Char
  | .compact, v => v.compact
  | .lines depth, v => v.prettyAt depth

variable {α : Type} {layout : Layout} {reader : Reader α} {n : Nat} {rest : List Char}

def writeItems (gap : List Char) : List (List Char) → List Char
  | [] => []
  | item :: items => gap ++ item ++ items.flatMap (fun item => ',' :: (gap ++ item))

theorem compactMembers_eq (members : List (String × Value)) :
    compactMembers members =
      writeMembers [] [] (members.map (fun m => (m.1, m.2.compact))) := by
  match members with
  | [] => rfl
  | [(key, v)] => simp [compactMembers, writeMembers, writeMember]
  | (key, v) :: m :: members =>
    have ih := compactMembers_eq (m :: members)
    simp only [compactMembers, ih]
    simp [writeMembers, writeMember]

theorem compactItems_eq (items : List Value) :
    compactItems items = writeItems [] (items.map Value.compact) := by
  match items with
  | [] => rfl
  | [v] => simp [compactItems, writeItems]
  | v :: w :: items =>
    have ih := compactItems_eq (w :: items)
    simp only [compactItems, ih]
    simp [writeItems]

theorem prettyItems_eq (depth : Nat) (items : List Value) :
    prettyItems depth items = writeItems (newLine depth) (items.map (Value.prettyAt depth)) := by
  match items with
  | [] => rfl
  | [v] => simp [prettyItems, writeItems]
  | v :: w :: items =>
    have ih := prettyItems_eq depth (w :: items)
    simp only [prettyItems, ih]
    simp [writeItems]

/-- The blanks in front of a closing bracket with nothing inside are left out. -/
def Layout.closeBehind (layout : Layout) {α : Type} : List α → List Char
  | [] => []
  | _ :: _ => layout.close

theorem written_object (members : List (String × Value)) : (Value.object members).written layout =
    '\x7b' :: (writeMembers layout.gap layout.inner
      (members.map (fun m => (m.1, m.2.written layout.inside))) ++
        (layout.closeBehind members ++ ['\x7d'])) := by
  cases layout with
  | compact =>
    change (Value.object members).compact = _
    rw [Value.compact, compactMembers_eq]
    cases members <;> rfl
  | lines depth =>
    change (Value.object members).prettyAt depth = _
    cases members with
    | nil => rfl
    | cons m members =>
      rw [Value.prettyAt, prettyMembers_eq, List.append_assoc]
      rfl

theorem written_list (items : List Value) : (Value.list items).written layout =
    '[' :: (writeItems layout.gap (items.map (Value.written layout.inside)) ++
      (layout.closeBehind items ++ [']'])) := by
  cases layout with
  | compact =>
    change (Value.list items).compact = _
    rw [Value.compact, compactItems_eq]
    cases items <;> rfl
  | lines depth =>
    change (Value.list items).prettyAt depth = _
    cases items with
    | nil => rfl
    | cons v items =>
      rw [Value.prettyAt, prettyItems_eq, List.append_assoc]
      rfl

theorem written_string (s : String) : (Value.string s).written layout = writeString s := by
  cases layout <;> simp [Value.written, Value.compact, Value.prettyAt]

theorem written_number (n : Nat) : (Value.number n).written layout = Decimal.digits n := by
  cases layout <;> simp [Value.written, Value.compact, Value.prettyAt]

/-! ### Numbers, strings and names -/

theorem takes_number (wanted : Wanted) (n : UInt64) :
    (word wanted).Takes ((Value.number n.toNat).written layout) n := by
  rw [written_number]
  exact (accepts_word wanted n).takes

theorem takes_text (wanted : Wanted) (s : String) :
    (string wanted).Takes ((Value.string s).written layout) s := by
  rw [written_string]
  exact takes_string wanted s

theorem takes_orNull (wanted : Wanted) (s : String) :
    (string wanted).orNull.Takes ((Value.string s).written layout) (some s) := by
  intro gap rest hgap hrest
  have htakes := takes_string wanted s gap rest hgap hrest
  change Reader.readOrNull _ _ = _
  rw [written_string]
  unfold Reader.readOrNull
  split
  · next more hnull =>
    rw [writeString, List.cons_append, List.cons_append,
      skipSpace_blanks_word hgap (show isSpace '"' = false by decide)] at hnull
    exact absurd (List.head_eq_of_cons_eq hnull) (by decide)
  · rw [htakes]

theorem takes_variant {known : List (String × α)} {name : String} {a : α}
    (h : lookUp known name = .ok a) :
    (variant known).Takes ((Value.string name).written layout) a := by
  intro gap rest hgap hrest
  have htakes := (takes_string .variant name).refine h [] rest nofun hrest
  change readVariant known _ = _
  rw [written_string, writeString, List.cons_append, List.cons_append, readVariant,
    skipSpace_blanks_word hgap (show isSpace '"' = false by decide)]
  dsimp only
  rw [if_pos rfl]
  exact htakes

/-! ### Lists -/

theorem written_eq_cons (v : Value) :
    ∃ c more, v.written layout = c :: more ∧ isSpace c = false ∧ c ≠ ']' := by
  cases v with
  | string s => exact ⟨_, _, written_string s, by decide, by decide⟩
  | number n =>
    obtain ⟨d, more, hn, hd⟩ := (isWhole_digits n).isRun.exists_cons
    refine ⟨d, more, (written_number n).trans hn, isSpace_of_isDigit hd, ?_⟩
    rintro rfl
    cases hd
  | list items => exact ⟨_, _, written_list items, by decide, by decide⟩
  | object members => exact ⟨_, _, written_object members, by decide, by decide⟩

theorem nextItem_close (first : Bool) {close : List Char} (hclose : ∀ c ∈ close, isSpace c = true)
    (rest : List Char) : nextItem first (close ++ ']' :: rest) = .ok (.done rest) := by
  simp only [nextItem, skipSpace_blanks_word hclose (show isSpace ']' = false by decide), if_true]

theorem nextItem_first {gap : List Char} (hgap : ∀ c ∈ gap, isSpace c = true) (v : Value) :
    nextItem true (gap ++ (v.written layout ++ rest)) = .ok (.item (v.written layout ++ rest)) := by
  obtain ⟨c, more, hv, hspace, hc⟩ := @written_eq_cons layout v
  rw [hv, List.cons_append]
  simp only [nextItem, skipSpace_blanks_word hgap hspace, if_neg hc, if_true]

theorem nextItem_comma {gap : List Char} (hgap : ∀ c ∈ gap, isSpace c = true) (v : Value) :
    nextItem false (',' :: (gap ++ (v.written layout ++ rest))) =
      .ok (.item (v.written layout ++ rest)) := by
  obtain ⟨c, more, hv, hspace, hc⟩ := @written_eq_cons layout v
  rw [hv, List.cons_append]
  simp only [nextItem, skipSpace_word (show isSpace ',' = false by decide),
    skipSpace_blanks_word hgap hspace, if_neg hc, if_true, if_neg (show ¬(',' = ']') by decide),
    Bool.false_eq_true, if_false]

theorem readItems_done {first : Bool} {s : List Char} (h : nextItem first s = .ok (.done rest)) :
    readItems reader first s = .ok ([], rest) := by
  rw [readItems]
  split
  · next he => rw [h] at he; cases he
  · next he =>
    rw [h] at he
    cases he
    rfl
  · next he => rw [h] at he; cases he

theorem readItems_item {first : Bool} {s s₁ s₂ : List Char} {a : α} {items : List α}
    (hn : nextItem first s = .ok (.item s₁)) (ha : reader.read s₁ = .ok (a, s₂))
    (hi : readItems reader false s₂ = .ok (items, rest)) :
    readItems reader first s = .ok (a :: items, rest) := by
  rw [readItems]
  split
  · next he => rw [hn] at he; cases he
  · next he => rw [hn] at he; cases he
  · next he =>
    rw [hn] at he
    cases he
    split
    · next he => rw [ha] at he; cases he
    · next he =>
      rw [ha] at he
      cases he
      rw [hi]

def Reader.TakesAll (reader : Reader α) (layout : Layout) : List Value → List α → Prop :=
  List.Forall₂ (fun v a => reader.Takes (v.written layout) a)

theorem readItems_followers {gap close : List Char} {items : List Value} {as : List α}
    (h : reader.TakesAll layout items as) (hgap : ∀ c ∈ gap, isSpace c = true)
    (hclose : ∀ c ∈ close, isSpace c = true) (hend : Closes (close ++ ']' :: rest)) :
    readItems reader false ((items.map (Value.written layout)).flatMap
      (fun item => ',' :: (gap ++ item)) ++ (close ++ ']' :: rest)) = .ok (as, rest) := by
  induction h with
  | nil => exact readItems_done (nextItem_close false hclose rest)
  | @cons v a items as hv hitems ih =>
    rw [List.map_cons, List.flatMap_cons, List.append_assoc, List.cons_append, List.append_assoc]
    refine readItems_item (nextItem_comma hgap v) (hv [] _ nofun ?_) ih
    cases items with
    | nil => exact hend
    | cons w items =>
      rintro _ ⟨⟩
      decide

theorem readItems_written {gap close : List Char} {items : List Value} {as : List α}
    (h : reader.TakesAll layout items as) (hgap : ∀ c ∈ gap, isSpace c = true)
    (hclose : ∀ c ∈ close, isSpace c = true) (hend : Closes (close ++ ']' :: rest)) :
    readItems reader true (writeItems gap (items.map (Value.written layout)) ++
      (close ++ ']' :: rest)) = .ok (as, rest) := by
  cases h with
  | nil => exact readItems_done (nextItem_close true hclose rest)
  | @cons v a items as hv hitems =>
    rw [List.map_cons, writeItems, List.append_assoc, List.append_assoc]
    refine readItems_item (nextItem_first hgap v) (hv [] _ nofun ?_)
      (readItems_followers hitems hgap hclose hend)
    cases items with
    | nil => exact hend
    | cons w items =>
      rintro _ ⟨⟩
      decide

theorem Layout.isSpace_closeBehind {β : Type} (layout : Layout) (items : List β) :
    ∀ c ∈ layout.closeBehind items, isSpace c = true := by
  cases items with
  | nil => exact nofun
  | cons item items => exact layout.isSpace_close

theorem Layout.closes_closeBehind {β : Type} (layout : Layout) (items : List β) {c : Char}
    (hc : c ∈ [',', ']', '\x7d', '\n']) : Closes (layout.closeBehind items ++ c :: rest) := by
  intro d hd
  cases items with
  | nil =>
    cases hd
    exact hc
  | cons item items =>
    cases layout with
    | compact =>
      cases hd
      exact hc
    | lines depth =>
      cases hd
      decide

theorem takes_list {items : List Value} {as : List α}
    (h : reader.TakesAll layout.inside items as) :
    reader.list.Takes ((Value.list items).written layout) as := by
  intro gap rest hgap hrest
  change reader.readList _ = _
  rw [written_list, List.cons_append, Reader.readList,
    skipSpace_blanks_word hgap (show isSpace '[' = false by decide)]
  dsimp only
  rw [if_pos rfl, List.append_assoc, List.append_assoc, List.singleton_append]
  exact readItems_written h layout.isSpace_gap (layout.isSpace_closeBehind items)
    (layout.closes_closeBehind items (by decide))

/-! ### Objects -/

theorem Shape.takes_object {shape : Shape α} {members : List (String × Value)} {a : α}
    (h : shape.Takes [] shape.start (members.map (fun m => (m.1, m.2.written layout.inside))) a) :
    shape.reader.Takes ((Value.object members).written layout) a := by
  intro gap rest hgap hrest
  change shape.readRecord _ = _
  rw [written_object, List.cons_append, Shape.readRecord,
    skipSpace_blanks_word hgap (show isSpace '\x7b' = false by decide)]
  dsimp only
  rw [if_pos rfl, List.append_assoc, List.append_assoc, List.singleton_append]
  exact Shape.readMembers_written layout.isSpace_gap layout.isSpace_inner
    (layout.isSpace_closeBehind members) h (layout.closes_closeBehind members (by decide))

theorem Reader.Takes.parse {text : List Char} {a : α} (h : reader.Takes text a) :
    reader.parse text = .ok a := by
  have hread := h [] [] nofun nofun
  rw [List.nil_append, List.append_nil] at hread
  rw [Reader.parse, hread]
  rfl

theorem parse_written {v : Value} {a : α} (h : ∀ layout, reader.Takes (v.written layout) a) :
    reader.parse v.compact = .ok a ∧ reader.parse v.pretty = .ok a :=
  ⟨(h .compact).parse, (h (.lines 0)).parse⟩

end BuoyGateway.Json
