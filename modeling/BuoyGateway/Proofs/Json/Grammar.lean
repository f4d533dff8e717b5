import BuoyGateway.Json.Skip
import BuoyGateway.Proofs.Json.Words

/-!
# Well-formed values are skipped

The grammar of values: words, lists and objects of any depth, with blanks between them. A value that
nobody asks for is skipped with a list of the brackets that are open, so what is proved by induction
over the grammar is about any such list: `Skipped` says it for each kind of phrase.
-/

namespace BuoyGateway.Json

variable {rest : List Char}

/-! ### Values -/

/-- A kind of phrase: a value; a value among blanks; the items of a list that has some; the members
of an object that has some. -/
inductive Phrase
  | value
  | item
  | items
  | members

inductive WellFormed : Phrase → List Char → Prop
  | null : WellFormed .value ['n', 'u', 'l', 'l']
  | yes : WellFormed .value ['t', 'r', 'u', 'e']
  | no : WellFormed .value ['f', 'a', 'l', 's', 'e']
  | number {s : List Char} {n : Numeral} : ShowsNumeral s n → WellFormed .value s
  | string {s : List Char} : Quotable s → WellFormed .value ('"' :: (s ++ ['"']))
  | noItems {gap : List Char} : Blank gap → WellFormed .value ('[' :: (gap ++ [']']))
  | list {s : List Char} : WellFormed .items s → WellFormed .value ('[' :: (s ++ [']']))
  | noMembers {gap : List Char} : Blank gap → WellFormed .value ('\x7b' :: (gap ++ ['\x7d']))
  | object {s : List Char} : WellFormed .members s → WellFormed .value ('\x7b' :: (s ++ ['\x7d']))
  | item {gap s gap' : List Char} :
      Blank gap → WellFormed .value s → Blank gap' → WellFormed .item (gap ++ (s ++ gap'))
  | lastItem {s : List Char} : WellFormed .item s → WellFormed .items s
  | moreItems {s more : List Char} :
      WellFormed .item s → WellFormed .items more → WellFormed .items (s ++ ',' :: more)
  | lastMember {gap key gap' s : List Char} :
      Blank gap → Quotable key → Blank gap' → WellFormed .item s →
      WellFormed .members (gap ++ '"' :: (key ++ '"' :: (gap' ++ ':' :: s)))
  | moreMembers {gap key gap' s more : List Char} :
      Blank gap → Quotable key → Blank gap' → WellFormed .item s → WellFormed .members more →
      WellFormed .members (gap ++ '"' :: (key ++ '"' :: (gap' ++ ':' :: (s ++ ',' :: more))))

def IsValue (s : List Char) : Prop := WellFormed .value s

theorem IsValue.item {s : List Char} (h : IsValue s) : WellFormed .item s := by
  have hitem : WellFormed .item ([] ++ (s ++ [])) := .item blank_nil h blank_nil
  rw [List.append_nil] at hitem
  exact hitem

/-! Values that have no other values inside. -/

theorem skipRest_scalar {brackets : List Bracket} {s rest r : List Char} {c : Char}
    (hs : skipSpace s = c :: r) (hlist : c ≠ '[') (hobject : c ≠ '\x7b')
    (h : skipScalar c r = .ok rest) :
    skipRest .value brackets s = skipRest .after brackets rest := by
  rw [skipRest_value hs, if_neg hlist, if_neg hobject, h]

theorem skipScalar_number {c : Char} {more : List Char} {n : Numeral}
    (h : ShowsNumeral (c :: more) n) (hrest : Follows rest) :
    skipScalar c (more ++ rest) = .ok rest := by
  obtain ⟨_, _, he, hc⟩ := h.exists_cons
  cases he
  have hnumeral := numeral_shown .invalidNumber h hrest.endsNumber
  rw [List.cons_append] at hnumeral
  have hnumber : skipNumber (c :: (more ++ rest)) = .ok rest := by
    rw [skipNumber, hnumeral]
  unfold skipScalar
  split
  · cases hc
  · cases hc
  · cases hc
  · cases hc
  · rw [if_pos hc, hnumber]

/-- A value starts with a character of its own, which does not close a list. -/
theorem WellFormed.exists_cons {s : List Char} (h : WellFormed .value s) :
    ∃ c more, s = c :: more ∧ isSpace c = false ∧ c ≠ ']' := by
  cases h with
  | null => exact ⟨'n', _, rfl, rfl, by decide⟩
  | yes => exact ⟨'t', _, rfl, rfl, by decide⟩
  | no => exact ⟨'f', _, rfl, rfl, by decide⟩
  | number h =>
    obtain ⟨c, more, rfl, hc⟩ := h.exists_cons
    rw [Bool.or_eq_true, decide_eq_true_eq] at hc
    rcases hc with rfl | hc
    · exact ⟨'-', more, rfl, rfl, by decide⟩
    · refine ⟨c, more, rfl, isSpace_of_isDigit hc, ?_⟩
      rintro rfl
      cases hc
  | string _ => exact ⟨'"', _, rfl, rfl, by decide⟩
  | noItems _ => exact ⟨'[', _, rfl, rfl, by decide⟩
  | list _ => exact ⟨'[', _, rfl, rfl, by decide⟩
  | noMembers _ => exact ⟨'\x7b', _, rfl, rfl, by decide⟩
  | object _ => exact ⟨'\x7b', _, rfl, rfl, by decide⟩

theorem WellFormed.skipSpace_item {s : List Char} (h : WellFormed .item s) (rest : List Char) :
    ∃ c more, skipSpace (s ++ rest) = c :: more ∧ isSpace c = false ∧ c ≠ ']' := by
  cases h with
  | @item gap s gap' hgap hs _ =>
    obtain ⟨c, more, rfl, hspace, hc⟩ := hs.exists_cons
    refine ⟨c, more ++ (gap' ++ rest), ?_, hspace, hc⟩
    rw [List.append_assoc, List.append_assoc, List.cons_append, skipSpace_blanks_word hgap hspace]

theorem WellFormed.skipSpace_items {s : List Char} (h : WellFormed .items s) (rest : List Char) :
    ∃ c more, skipSpace (s ++ rest) = c :: more ∧ isSpace c = false ∧ c ≠ ']' := by
  cases h with
  | lastItem hs => exact hs.skipSpace_item rest
  | moreItems hs _ =>
    rw [List.append_assoc]
    exact hs.skipSpace_item _

theorem skipRest_after_blank {b : Bracket} {outer : List Bracket} {gap : List Char} {c : Char}
    (hgap : Blank gap) (hc : isSpace c = false) (rest : List Char) :
    skipRest .after (b :: outer) (gap ++ c :: rest) = skipRest .after (b :: outer) (c :: rest) := by
  rw [skipRest_after (skipSpace_blanks_word hgap hc rest), skipRest_after (skipSpace_word hc rest)]

theorem Bracket.isSpace_closer (b : Bracket) : isSpace b.closer = false := by cases b <;> rfl

theorem skipRest_first_close {b : Bracket} {outer : List Bracket} {gap : List Char}
    (hgap : Blank gap) (rest : List Char) :
    skipRest .first (b :: outer) (gap ++ b.closer :: rest) = skipRest .after outer rest := by
  rw [skipRest_first (skipSpace_blanks_word hgap b.isSpace_closer rest), if_pos rfl]

theorem skipRest_after_close (b : Bracket) (outer : List Bracket) (rest : List Char) :
    skipRest .after (b :: outer) (b.closer :: rest) = skipRest .after outer rest := by
  rw [skipRest_after (skipSpace_word b.isSpace_closer rest), if_pos rfl]

theorem skipRest_comma {b : Bracket} {outer : List Bracket} {s rest : List Char}
    (h : b.skipToValue s = .ok rest) :
    skipRest .after (b :: outer) (',' :: s) = skipRest .value (b :: outer) rest := by
  have hcloser : ¬(',' = b.closer) := by cases b <;> decide
  rw [skipRest_after (skipSpace_word rfl s), if_neg hcloser, if_pos rfl, h]

theorem skipRest_first_items {outer : List Bracket} {s : List Char} (h : WellFormed .items s)
    (rest : List Char) :
    skipRest .first (.list :: outer) (s ++ rest) = skipRest .value (.list :: outer) (s ++ rest) := by
  obtain ⟨c, more, hs, hspace, hc⟩ := h.skipSpace_items rest
  rw [skipRest_first hs, if_neg (show ¬c = Bracket.list.closer from hc), skipRest_value hs]
  change skipRest .value (.list :: outer) (c :: more) = _
  rw [skipRest_value (skipSpace_word hspace more)]

theorem skipRest_first_key {outer : List Bracket} {s r : List Char} (h : skipKey s = .ok r) :
    skipRest .first (.object :: outer) s = skipRest .value (.object :: outer) r := by
  unfold skipKey at h
  split at h
  · cases h
  · next c more hs =>
    split at h
    · next hc =>
      subst hc
      have hkey : Bracket.object.skipToValue ('"' :: more) = .ok r := by
        change skipKey ('"' :: more) = .ok r
        rw [skipKey, skipSpace_word rfl]
        exact h
      rw [skipRest_first hs, if_neg (by decide), hkey]
    · cases h

theorem skipKey_member {gap key gap' : List Char} (hgap : Blank gap) (hkey : Quotable key)
    (hgap' : Blank gap') (s rest : List Char) :
    skipKey (gap ++ '"' :: (key ++ '"' :: (gap' ++ ':' :: s)) ++ rest) = .ok (s ++ rest) := by
  have hcolon : skipColon (gap' ++ ':' :: (s ++ rest)) = .ok (s ++ rest) := by
    simp only [skipColon, skipSpace_blanks_word hgap' (show isSpace ':' = false by decide), if_true]
  simp only [List.append_assoc, List.cons_append, skipKey,
    skipSpace_blanks_word hgap (show isSpace '"' = false by decide), if_true,
    skipString_quotable hkey, hcolon]

/-- What skipping takes of each kind of phrase: all of it, up to what follows. -/
def Skipped (s : List Char) : Phrase → Prop
  | .value => ∀ brackets gap rest, Blank gap → Follows rest →
      skipRest .value brackets (gap ++ (s ++ rest)) = skipRest .after brackets rest
  | .item => ∀ b outer c rest, c ∈ [',', ']', '\x7d'] →
      skipRest .value (b :: outer) (s ++ c :: rest) = skipRest .after (b :: outer) (c :: rest)
  | .items => ∀ outer rest,
      skipRest .value (.list :: outer) (s ++ ']' :: rest) = skipRest .after outer rest
  | .members => ∀ outer rest, ∃ r, skipKey (s ++ '\x7d' :: rest) = .ok r ∧
      skipRest .value (.object :: outer) r = skipRest .after outer rest

theorem WellFormed.skipped {phrase : Phrase} {s : List Char} (h : WellFormed phrase s) :
    Skipped s phrase := by
  -- On the phrase, for all brackets around it: skipping a list goes on with its items inside one more.
  induction h with
  | null =>
    intro brackets gap rest hgap _
    exact skipRest_scalar (skipSpace_blanks_word hgap rfl _) (by decide) (by decide) rfl
  | yes =>
    intro brackets gap rest hgap _
    exact skipRest_scalar (skipSpace_blanks_word hgap rfl _) (by decide) (by decide) rfl
  | no =>
    intro brackets gap rest hgap _
    exact skipRest_scalar (skipSpace_blanks_word hgap rfl _) (by decide) (by decide) rfl
  | number h =>
    -- Only a number needs to know what follows it.
    intro brackets gap rest hgap hrest
    obtain ⟨c, more, rfl, hspace, -⟩ := (WellFormed.number h).exists_cons
    obtain ⟨_, _, he, hc⟩ := h.exists_cons
    cases he
    have hbracket : c ≠ '[' ∧ c ≠ '\x7b' := by
      constructor <;>
      · rintro rfl
        cases hc
    exact skipRest_scalar (skipSpace_blanks_word hgap hspace _) hbracket.1 hbracket.2
      (skipScalar_number h hrest)
  | string hs =>
    intro brackets gap rest hgap _
    refine skipRest_scalar (skipSpace_blanks_word hgap rfl _) (by decide) (by decide) ?_
    rw [← skipString_quotable hs rest, List.append_eq, List.append_assoc]
    rfl
  | noItems hinner =>
    intro brackets gap rest hgap _
    rw [List.cons_append, skipRest_value (skipSpace_blanks_word hgap rfl _), if_pos rfl,
      List.append_assoc]
    exact skipRest_first_close hinner rest
  | @list s hs ih =>
    intro brackets gap rest hgap _
    rw [List.cons_append, skipRest_value (skipSpace_blanks_word hgap rfl _), if_pos rfl,
      List.append_assoc, skipRest_first_items hs]
    exact ih brackets rest
  | noMembers hinner =>
    intro brackets gap rest hgap _
    rw [List.cons_append, skipRest_value (skipSpace_blanks_word hgap rfl _),
      if_neg (by decide), if_pos rfl, List.append_assoc]
    exact skipRest_first_close hinner rest
  | object _ ih =>
    intro brackets gap rest hgap _
    obtain ⟨r, hkey, hr⟩ := ih brackets rest
    rw [List.cons_append, skipRest_value (skipSpace_blanks_word hgap rfl _),
      if_neg (by decide), if_pos rfl, List.append_assoc, List.singleton_append,
      skipRest_first_key hkey]
    exact hr
  | item hgap _ hgap' ih =>
    intro b outer c rest hc
    have hspace : isSpace c = false := by
      simp only [List.mem_cons, List.not_mem_nil, or_false] at hc
      rcases hc with rfl | rfl | rfl <;> rfl
    have hfollows : Follows (_ ++ c :: rest) := (Follows.word hc).blank hgap'
    rw [List.append_assoc, List.append_assoc, ih (b :: outer) _ _ hgap hfollows,
      skipRest_after_blank hgap' hspace]
  | lastItem _ ih =>
    intro outer rest
    rw [ih .list outer ']' rest (by decide)]
    exact skipRest_after_close .list outer rest
  | moreItems _ _ ihs ihmore =>
    intro outer rest
    rw [List.append_assoc, List.cons_append, ihs .list outer ',' _ (by decide),
      skipRest_comma (b := .list) rfl]
    exact ihmore outer rest
  | lastMember hgap hkey hgap' _ ih =>
    intro outer rest
    refine ⟨_, skipKey_member hgap hkey hgap' _ _, ?_⟩
    rw [ih .object outer '\x7d' rest (by decide)]
    exact skipRest_after_close .object outer rest
  | moreMembers hgap hkey hgap' _ _ ihs ihmore =>
    intro outer rest
    obtain ⟨r, hmore, hr⟩ := ihmore outer rest
    refine ⟨_, skipKey_member hgap hkey hgap' _ _, ?_⟩
    rw [List.append_assoc, List.cons_append, ihs .object outer ',' _ (by decide),
      skipRest_comma (b := .object) hmore]
    exact hr

/-- A value that nobody asks for is skipped as a whole, however deep it is. -/
theorem skipValue_isValue {gap s : List Char} (h : IsValue s) (hgap : Blank gap)
    (hrest : Follows rest) : skipValue (gap ++ (s ++ rest)) = .ok rest := by
  rw [skipValue, h.skipped [] gap rest hgap hrest, skipRest]

end BuoyGateway.Json
