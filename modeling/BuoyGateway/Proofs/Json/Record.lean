import BuoyGateway.Proofs.Json.Extension

/-!
# Records that go on

A record is an object or a list, and both say where they end. So a text that reads as a record
reads as the same record when it goes on, or as none.
-/

namespace BuoyGateway.Json

variable {α β : Type}

/-- Behind something that is left, a text may go on: the reader takes the same value. -/
def Reader.Steady (reader : Reader α) : Prop :=
  ∀ ⦃s rest : List Char⦄ ⦃a : α⦄, reader.read s = .ok (a, rest) → rest ≠ [] →
    ∀ more, reader.read (s ++ more) = .ok (a, rest ++ more)

/-! ### Values -/

theorem readString_append {wanted : Wanted} {s rest : List Char} {t : String}
    (h : readString wanted s = .ok (t, rest)) (more : List Char) :
    readString wanted (s ++ more) = .ok (t, rest ++ more) := by
  unfold readString at h
  split at h
  · cases h
  · next c r hs =>
    simp only [readString, skipSpace_append hs]
    split at h
    · next hc =>
      rw [if_pos hc]
      split at h
      · cases h
      · next hb =>
        cases h
        rw [stringBody_append hb]
    · cases h

theorem readNull_append {s rest : List Char} {u : Unit} (h : readNull s = .ok (u, rest))
    (more : List Char) : readNull (s ++ more) = .ok (u, rest ++ more) := by
  unfold readNull at h
  split at h
  · cases h
  · next c r hs =>
    simp only [readNull, skipSpace_append hs]
    split at h
    · next hc =>
      rw [if_pos hc]
      split at h
      · cases h
      · next hw =>
        cases h
        rw [skipWord_append hw]
    · cases h

theorem steady_string (wanted : Wanted) : (string wanted).Steady :=
  fun _ _ _ h _ more => readString_append h more

theorem Reader.Steady.refine {reader : Reader α} (steady : reader.Steady)
    (f : α → Except Error β) : (reader.refine f).Steady := by
  intro s rest b h hrest more
  simp only [Reader.refine] at h ⊢
  split at h
  · cases h
  · next a r hr =>
    split at h
    · cases h
    · next hf =>
      cases h
      rw [steady hr hrest more]
      simp only [hf]

theorem Reader.Steady.map {reader : Reader α} (steady : reader.Steady) (f : α → β) :
    (reader.map f).Steady := steady.refine _

theorem readString_blank {wanted : Wanted} {s : List Char} (h : skipSpace s = []) :
    readString wanted s = .error (.ended .value) := by
  unfold readString
  split
  · rfl
  · next hs =>
    rw [h] at hs
    cases hs

theorem Reader.Steady.orNull {reader : Reader α} (steady : reader.Steady)
    (hblank : ∀ s, skipSpace s = [] → ∀ p, reader.read s ≠ .ok p) : reader.orNull.Steady := by
  intro s rest a h hrest more
  change reader.readOrNull s = _ at h
  change reader.readOrNull (s ++ more) = _
  unfold Reader.readOrNull at h
  split at h
  · next r hs =>
    simp only [Reader.readOrNull, skipSpace_append hs]
    split at h
    · cases h
    · next hw =>
      cases h
      rw [skipWord_append hw]
  · next hnull =>
    split at h
    · cases h
    · next a r hr =>
      cases h
      unfold Reader.readOrNull
      split
      · next r' hs' =>
        -- The word that comes next is the same one, and it does not start like null.
        cases hs : skipSpace s with
        | nil => exact absurd hr (hblank s hs _)
        | cons c r'' =>
          rw [skipSpace_append hs] at hs'
          cases hs'
          exact absurd hs (hnull _)
      · rw [steady hr hrest more]

theorem readTagged_append {known : List (String × α)} {s rest : List Char} {a : α}
    (h : readTagged known s = .ok (a, rest)) (more : List Char) :
    readTagged known (s ++ more) = .ok (a, rest ++ more) := by
  unfold readTagged at h
  split at h
  · cases h
  · next b r hname =>
    split at h
    · cases h
    · next r₁ hcolon =>
      split at h
      · cases h
      · next u r₂ hnull =>
        split at h
        · cases h
        · next c r₃ hs =>
          split at h
          · next hc =>
            cases h
            have hr : r ≠ [] := by
              rintro rfl
              cases hcolon
            have hread := (steady_string .variant).refine (lookUp known) hname hr more
            simp only [readTagged, hread, skipColon_append hcolon, readNull_append hnull,
              skipSpace_append hs, if_pos hc]
          · cases h

theorem steady_variant (known : List (String × α)) : (variant known).Steady := by
  intro s rest a h hrest more
  change readVariant known s = _ at h
  change readVariant known (s ++ more) = _
  unfold readVariant at h
  split at h
  · cases h
  · next c r hs =>
    simp only [readVariant, skipSpace_append hs]
    split at h
    · next hc =>
      rw [if_pos hc, ← List.cons_append]
      exact (steady_string .variant).refine (lookUp known) h hrest more
    · next hc =>
      rw [if_neg hc]
      split at h
      · next ho =>
        rw [if_pos ho]
        exact readTagged_append h more
      · cases h

/-! ### Objects and lists -/

def Next.append (more : List Char) : Next → Next
  | .done rest => .done (rest ++ more)
  | .item rest => .item (rest ++ more)

theorem nextItem_append {first : Bool} {s : List Char} {next : Next}
    (h : nextItem first s = .ok next) (more : List Char) :
    nextItem first (s ++ more) = .ok (next.append more) := by
  unfold nextItem at h
  split at h
  · cases h
  · next c r hs =>
    simp only [nextItem, skipSpace_append hs]
    split at h
    · next hc =>
      cases h
      exact if_pos hc
    · next hc =>
      rw [if_neg hc]
      split at h
      · next hf =>
        cases h
        exact if_pos hf
      · next hf =>
        rw [if_neg hf]
        split at h
        · next hcomma =>
          rw [if_pos hcomma]
          split at h
          · cases h
          · next d r' hs' =>
            rw [skipSpace_append hs']
            split at h
            · cases h
            · next hd =>
              cases h
              exact if_neg hd
        · cases h

namespace Shape

variable {shape : Shape α}

theorem nextKey_append {first : Bool} {s : List Char} {next : Next}
    (h : nextKey first s = .ok next) (more : List Char) :
    nextKey first (s ++ more) = .ok (next.append more) := by
  unfold nextKey at h
  split at h
  · cases h
  · next c r hs =>
    simp only [nextKey, skipSpace_append hs]
    split at h
    · next hc =>
      cases h
      exact if_pos hc
    · next hc =>
      rw [if_neg hc]
      split at h
      · next hf =>
        rw [if_pos hf]
        split at h
        · next hq =>
          cases h
          exact if_pos hq
        · cases h
      · next hf =>
        rw [if_neg hf]
        split at h
        · next hcomma =>
          rw [if_pos hcomma]
          split at h
          · cases h
          · next d r' hs' =>
            rw [skipSpace_append hs']
            split at h
            · next hq =>
              cases h
              exact if_pos hq
            · split at h <;> cases h
        · cases h

def Steady (shape : Shape α) : Prop := ∀ field ∈ shape.fields, ∀ a, (field.read a).Steady

theorem readMember_append (steady : shape.Steady) {seen : List String} {a : α} {key : String}
    {s rest : List Char} {p : List String × α} (h : shape.readMember seen a key s = .ok (p, rest))
    (hrest : rest ≠ []) (more : List Char) :
    shape.readMember seen a key (s ++ more) = .ok (p, rest ++ more) := by
  unfold readMember at h
  split at h
  · next hfind =>
    simp only [readMember, hfind]
    split at h
    · cases h
    · next r hcolon =>
      rw [skipColon_append hcolon]
      split at h
      · cases h
      · next r' hv =>
        cases h
        have hv' : skipValue (r ++ more) = .ok (rest ++ more) := skipRest_append hv hrest more
        simp only [hv']
  · next field hfind =>
    simp only [readMember, hfind]
    split at h
    · cases h
    · next hseen =>
      rw [if_neg hseen]
      split at h
      · cases h
      · next r hcolon =>
        rw [skipColon_append hcolon]
        split at h
        · cases h
        · next b r' hv =>
          cases h
          have hread := steady field (List.mem_of_find?_eq_some hfind) a hv hrest more
          simp only [hread]

theorem readMembers_done {first : Bool} {seen : List String} {a b : α} {s rest : List Char}
    (hn : nextKey first s = .ok (.done rest)) (hf : shape.finish seen a = .ok b) :
    shape.readMembers first seen a s = .ok (b, rest) := by
  rw [readMembers]
  split
  · next he => rw [hn] at he; cases he
  · next he =>
    rw [hn] at he
    cases he
    rw [hf]
  · next he => rw [hn] at he; cases he

theorem readMembers_item {first : Bool} {seen seen' : List String} {a b : α} {key : List Char}
    {s s₁ s₂ rest : List Char} (hn : nextKey first s = .ok (.item s₁))
    (hk : stringBody s₁ = .ok (key, s₂))
    (hm : shape.readMember seen a (String.ofList key) s₂ = .ok ((seen', b), rest)) :
    shape.readMembers first seen a s = shape.readMembers false seen' b rest := by
  rw [readMembers]
  split
  · next he => rw [hn] at he; cases he
  · next he => rw [hn] at he; cases he
  · next he =>
    rw [hn] at he
    cases he
    split
    · next he => rw [hk] at he; cases he
    · next he =>
      rw [hk] at he
      cases he
      split
      · next he => rw [hm] at he; cases he
      · next he =>
        rw [hm] at he
        cases he
        rfl

theorem readMembers_append (steady : shape.Steady) {first : Bool} {seen : List String} {a b : α}
    {s rest : List Char} (h : shape.readMembers first seen a s = .ok (b, rest))
    (more : List Char) :
    shape.readMembers first seen a (s ++ more) = .ok (b, rest ++ more) := by
  fun_induction readMembers shape first seen a s with
  | case1 => cases h
  | case2 => cases h
  | case3 first seen a s r hn c hf =>
    cases h
    exact readMembers_done (nextKey_append hn more) hf
  | case4 => cases h
  | case5 => cases h
  | case6 first seen a s r hn key r₁ hk seen' a' r₂ hm ih =>
    -- The value of the member leaves at least the bracket that closes the object.
    have hr₂ : r₂ ≠ [] := ne_nil_of_length_lt (readMembers_length h)
    rw [readMembers_item (nextKey_append hn more) (stringBody_append hk more)
      (readMember_append steady hm hr₂ more)]
    exact ih h

theorem closeList_append {s rest : List Char} (h : closeList s = .ok rest) (more : List Char) :
    closeList (s ++ more) = .ok (rest ++ more) := by
  unfold closeList at h
  split at h
  · cases h
  · next c r hs =>
    simp only [closeList, skipSpace_append hs]
    split at h
    · next hc =>
      cases h
      exact if_pos hc
    · split at h <;> cases h

theorem readFields_append {index : Nat} {fields : List (Field α)}
    (steady : ∀ field ∈ fields, ∀ a, (field.read a).Steady) {a b : α} {s rest : List Char}
    (h : shape.readFields index fields a s = .ok (b, rest)) (more : List Char) :
    shape.readFields index fields a (s ++ more) = .ok (b, rest ++ more) := by
  induction fields generalizing index a s with
  | nil =>
    unfold readFields at h
    split at h
    · cases h
    · next hc =>
      cases h
      rw [readFields, closeList_append hc]
  | cons field fields ih =>
    unfold readFields at h
    split at h
    · cases h
    · next r hn =>
      have hn' := nextItem_append hn more
      split at h
      · cases h
      · next he =>
        cases h
        rw [readFields, hn']
        simp only [Next.append, he]
    · next r hn =>
      have hn' := nextItem_append hn more
      split at h
      · cases h
      · next c r' hv =>
        have hr' : r' ≠ [] := ne_nil_of_length_lt (readFields_length h)
        have hv' := steady field List.mem_cons_self a hv hr' more
        rw [readFields, hn']
        simp only [Next.append, hv']
        exact ih (fun f hf => steady f (List.mem_cons_of_mem _ hf)) h

theorem readRecord_append (steady : shape.Steady) {s rest : List Char} {a : α}
    (h : shape.readRecord s = .ok (a, rest)) (more : List Char) :
    shape.readRecord (s ++ more) = .ok (a, rest ++ more) := by
  unfold readRecord at h
  split at h
  · cases h
  · next c r hs =>
    simp only [readRecord, skipSpace_append hs]
    split at h
    · next ho =>
      rw [if_pos ho]
      exact readMembers_append steady h more
    · next ho =>
      rw [if_neg ho]
      split at h
      · next hl =>
        rw [if_pos hl]
        exact readFields_append steady h more
      · cases h

/-- A text that reads as a record reads as no other record when it goes on. -/
theorem parse_append (steady : shape.Steady) {s more : List Char} {a b : α}
    (h : shape.reader.parse s = .ok a) (hmore : shape.reader.parse (s ++ more) = .ok b) :
    b = a := by
  unfold Reader.parse at h hmore
  split at h
  · cases h
  · next a' rest hread =>
    have hread' : shape.reader.read (s ++ more) = .ok (a', rest ++ more) :=
      readRecord_append steady hread more
    rw [hread'] at hmore
    simp only at hmore
    split at h <;> split at hmore <;> cases h <;> cases hmore
    rfl

end Shape

end BuoyGateway.Json
