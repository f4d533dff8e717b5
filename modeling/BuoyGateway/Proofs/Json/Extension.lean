import BuoyGateway.Spool.Record

/-!
# Texts that go on

A reader that has taken a value off the front of a text takes the same value when the text goes on,
and leaves what it left with the rest behind it. Strings, words, lists and records end by themselves;
a number ends only where something else follows, so for values in general something has to be left.
A record that goes on is therefore no other record.
-/

namespace BuoyGateway.Json

theorem skipSpace_append {s rest : List Char} {c : Char} (h : skipSpace s = c :: rest)
    (more : List Char) : skipSpace (s ++ more) = c :: (rest ++ more) := by
  induction s with
  | nil => cases h
  | cons d s ih =>
    simp only [skipSpace, List.cons_append, List.dropWhile_cons] at h ih ⊢
    by_cases hd : isSpace d = true
    · rw [if_pos hd] at h ⊢
      exact ih h
    · rw [if_neg hd] at h ⊢
      cases h
      rfl

theorem skipWord_append {word s rest : List Char} (h : skipWord word s = .ok rest)
    (more : List Char) : skipWord word (s ++ more) = .ok (rest ++ more) := by
  induction word generalizing s with
  | nil =>
    cases h
    rfl
  | cons letter word ih =>
    cases s with
    | nil => cases h
    | cons c s =>
      simp only [List.cons_append, skipWord] at h ⊢
      by_cases hc : c = letter
      · rw [if_pos hc] at h ⊢
        exact ih h
      · rw [if_neg hc] at h
        cases h

/-! ### Strings -/

theorem hexQuad_append {s rest : List Char} {n : Nat} (h : hexQuad s = .ok (n, rest))
    (more : List Char) : hexQuad (s ++ more) = .ok (n, rest ++ more) := by
  unfold hexQuad at h
  split at h
  · next a b c d r =>
    simp only [hexQuad, List.cons_append]
    split at h
    · cases h
      rfl
    · cases h
  · split at h <;> cases h

theorem secondSurrogate_append {high : Nat} {s rest : List Char} {c : Char}
    (h : secondSurrogate high s = .ok (c, rest)) (more : List Char) :
    secondSurrogate high (s ++ more) = .ok (c, rest ++ more) := by
  unfold secondSurrogate at h
  split at h
  · cases h
  · cases h
  · next r =>
    split at h
    · cases h
    · next low r' hq =>
      rw [List.cons_append, List.cons_append, secondSurrogate, hexQuad_append hq]
      split at h
      · next hl =>
        rw [Except.ok.injEq, Prod.mk.injEq] at h
        obtain ⟨rfl, rfl⟩ := h
        exact if_pos hl
      · cases h
  · cases h

theorem escape_append {s rest : List Char} {c : Char} (h : escape s = .ok (c, rest))
    (more : List Char) : escape (s ++ more) = .ok (c, rest ++ more) := by
  unfold escape at h
  split at h
  case h_1 => cases h
  case h_11 => cases h
  case h_10 r =>
    split at h
    · cases h
    · next n r' hq =>
      simp only [List.cons_append, escape, hexQuad_append hq]
      by_cases hlow : (0xDC00 ≤ n && n ≤ 0xDFFF) = true
      · rw [if_pos hlow] at h
        cases h
      · rw [if_neg hlow] at h ⊢
        by_cases hhigh : (0xD800 ≤ n && n ≤ 0xDBFF) = true
        · rw [if_pos hhigh] at h ⊢
          exact secondSurrogate_append h more
        · rw [if_neg hhigh] at h ⊢
          cases h
          rfl
  all_goals
    cases h
    rfl

theorem stringBody_append {s t rest : List Char} (h : stringBody s = .ok (t, rest))
    (more : List Char) : stringBody (s ++ more) = .ok (t, rest ++ more) := by
  fun_induction stringBody s generalizing t rest with
  | case1 => cases h
  | case2 r =>
    cases h
    rw [List.cons_append, stringBody, if_pos rfl]
  | case3 => cases h
  | case4 => cases h
  | case5 r d r' he t' after hb hq ih =>
    cases h
    rw [List.cons_append, stringBody, if_neg hq, if_pos rfl]
    split
    · next e he' =>
      rw [escape_append he] at he'
      cases he'
    · next d' r'' he' =>
      rw [escape_append he] at he'
      cases he'
      rw [ih hb]
  | case6 => cases h
  | case7 => cases h
  | case8 c r hq hb hc t' after ht ih =>
    cases h
    rw [List.cons_append, stringBody, if_neg hq, if_neg hb, if_neg hc, ih ht]

theorem skipEscape_append {s rest : List Char} (h : skipEscape s = .ok rest) (more : List Char) :
    skipEscape (s ++ more) = .ok (rest ++ more) := by
  unfold skipEscape at h
  split at h
  · cases h
  · split at h
    · cases h
    · next hq =>
      simp only [List.cons_append, skipEscape, hexQuad_append hq]
      cases h
      rfl
  · next c r hu =>
    split at h
    · next hc =>
      rw [List.cons_append]
      unfold skipEscape
      split
      · next he => cases he
      · next he =>
        cases he
        exact absurd rfl hu
      · next he =>
        cases he
        rw [if_pos hc]
        cases h
        rfl
    · cases h

theorem skipString_append {s rest : List Char} (h : skipString s = .ok rest) (more : List Char) :
    skipString (s ++ more) = .ok (rest ++ more) := by
  fun_induction skipString s with
  | case1 => cases h
  | case2 r =>
    cases h
    rw [List.cons_append, skipString, if_pos rfl]
  | case3 => cases h
  | case4 r r' he hq ih =>
    rw [List.cons_append, skipString, if_neg hq, if_pos rfl]
    split
    · next e he' =>
      rw [skipEscape_append he] at he'
      cases he'
    · next r'' he' =>
      rw [skipEscape_append he] at he'
      cases he'
      exact ih h
  | case5 => cases h
  | case6 c r hq hb hc ih =>
    rw [List.cons_append, skipString, if_neg hq, if_neg hb, if_neg hc]
    exact ih h

/-! ### Numbers -/

theorem ne_nil_of_length_lt {s t : List Char} (h : s.length < t.length) : t ≠ [] := by
  rintro rfl
  cases h

theorem takeWhile_append_of_rest (p : Char → Bool) {s : List Char} (h : s.dropWhile p ≠ [])
    (more : List Char) : (s ++ more).takeWhile p = s.takeWhile p ∧
      (s ++ more).dropWhile p = s.dropWhile p ++ more := by
  induction s with
  | nil => exact absurd rfl h
  | cons c s ih =>
    rw [List.cons_append, List.takeWhile_cons, List.takeWhile_cons, List.dropWhile_cons,
      List.dropWhile_cons]
    by_cases hc : p c = true
    · rw [List.dropWhile_cons, if_pos hc] at h
      obtain ⟨htake, hdrop⟩ := ih h
      simp only [hc, ↓reduceIte, htake, hdrop, true_and]
    · simp only [hc, Bool.false_eq_true, ↓reduceIte, List.cons_append, true_and]

theorem digitRun_append {ended : Error} {s run rest : List Char}
    (h : digitRun ended s = .ok (run, rest)) (hrest : rest ≠ []) (more : List Char) :
    digitRun ended (s ++ more) = .ok (run, rest ++ more) := by
  unfold digitRun at h
  split at h
  · cases h
  · next c r =>
    split at h
    · next hc =>
      rw [Except.ok.injEq, Prod.mk.injEq] at h
      obtain ⟨rfl, rfl⟩ := h
      obtain ⟨htake, hdrop⟩ := takeWhile_append_of_rest Char.isDigit hrest more
      rw [← htake, ← hdrop, List.cons_append, digitRun, if_pos hc]
    · cases h

theorem wholeDigits_append {ended : Error} {s run rest : List Char}
    (h : wholeDigits ended s = .ok (run, rest)) (hrest : rest ≠ []) (more : List Char) :
    wholeDigits ended (s ++ more) = .ok (run, rest ++ more) := by
  unfold wholeDigits at h
  split at h
  · next c r =>
    split at h
    · cases h
    · next hc =>
      cases h
      rw [List.cons_append, List.cons_append, wholeDigits, if_neg hc]
  · next hzero =>
    have happend := digitRun_append h hrest more
    unfold wholeDigits
    split
    · next c r he =>
      cases s with
      | nil => cases h
      | cons first s =>
        cases s with
        | nil =>
          -- A lone digit leaves nothing.
          have hlength := digitRun_length h
          exact absurd (List.length_eq_zero_iff.1 (by simpa using hlength)) hrest
        | cons second s =>
          rw [List.cons_append, List.cons_append] at he
          cases he
          exact absurd rfl (hzero c s)
    · exact happend

theorem fractionDigits_append {ended : Error} {s run rest : List Char}
    (h : fractionDigits ended s = .ok (run, rest)) (hrest : rest ≠ []) (more : List Char) :
    fractionDigits ended (s ++ more) = .ok (run, rest ++ more) := by
  unfold fractionDigits at h
  split at h
  · next r => exact digitRun_append h hrest more
  · next hpoint =>
    cases h
    cases s with
    | nil => exact absurd rfl hrest
    | cons c s =>
      rw [List.cons_append]
      unfold fractionDigits
      split
      · next r he =>
        cases he
        exact absurd rfl (hpoint s)
      · rfl

theorem sign_append {s : List Char} (h : s ≠ []) (more : List Char) :
    sign (s ++ more) = ((sign s).1, (sign s).2 ++ more) := by
  cases s with
  | nil => exact absurd rfl h
  | cons c s =>
    rw [List.cons_append]
    unfold sign
    split
    · next he =>
      cases he
      rfl
    · next he =>
      cases he
      rfl
    · next hplus hminus =>
      split
      · next he =>
        cases he
        exact absurd rfl (hplus _)
      · next he =>
        cases he
        exact absurd rfl (hminus _)
      · rfl

theorem exponentDigits_append {ended : Error} {s rest : List Char} {e : Option (Bool × List Char)}
    (h : exponentDigits ended s = .ok (e, rest)) (hrest : rest ≠ []) (more : List Char) :
    exponentDigits ended (s ++ more) = .ok (e, rest ++ more) := by
  unfold exponentDigits at h
  split at h
  · cases h
    exact absurd rfl hrest
  · next c r =>
    rw [List.cons_append, exponentDigits]
    split at h
    · next hc =>
      rw [if_pos hc]
      split at h
      · cases h
      · next digits after hd =>
        cases h
        have hr : r ≠ [] := by
          rintro rfl
          cases hd
        rw [sign_append hr, digitRun_append hd hrest]
    · next hc =>
      cases h
      exact if_neg hc

theorem unsigned_append {ended : Error} {negative : Bool} {s rest : List Char} {n : Numeral}
    (h : unsigned ended negative s = .ok (n, rest)) (hrest : rest ≠ []) (more : List Char) :
    unsigned ended negative (s ++ more) = .ok (n, rest ++ more) := by
  unfold unsigned at h
  split at h
  · cases h
  · next whole s₁ hw =>
    split at h
    · cases h
    · next fraction s₂ hf =>
      split at h
      · cases h
      · next exponent s₃ he =>
        cases h
        have hlength := List.length_pos_iff.2 hrest
        have h₂ := exponentDigits_length he
        have h₁ := fractionDigits_length hf
        have hs₂ : s₂ ≠ [] := List.length_pos_iff.1 (by omega)
        have hs₁ : s₁ ≠ [] := List.length_pos_iff.1 (by omega)
        simp only [unsigned, wholeDigits_append hw hs₁, fractionDigits_append hf hs₂,
          exponentDigits_append he hrest]

theorem numeral_append {ended : Error} {s rest : List Char} {n : Numeral}
    (h : numeral ended s = .ok (n, rest)) (hrest : rest ≠ []) (more : List Char) :
    numeral ended (s ++ more) = .ok (n, rest ++ more) := by
  unfold numeral at h
  split at h
  · next r => exact unsigned_append h hrest more
  · next hminus =>
    cases s with
    | nil => cases h
    | cons c s =>
      have happend := unsigned_append h hrest more
      rw [List.cons_append] at happend ⊢
      unfold numeral
      split
      · next he =>
        cases he
        exact absurd rfl (hminus _)
      · exact happend

/-! ### Values that are skipped -/

theorem skipColon_append {s rest : List Char} (h : skipColon s = .ok rest) (more : List Char) :
    skipColon (s ++ more) = .ok (rest ++ more) := by
  unfold skipColon at h
  split at h
  · cases h
  · next c r hs =>
    simp only [skipColon, skipSpace_append hs]
    split at h
    · next hc =>
      cases h
      exact if_pos hc
    · cases h

theorem skipKey_append {s rest : List Char} (h : skipKey s = .ok rest) (more : List Char) :
    skipKey (s ++ more) = .ok (rest ++ more) := by
  unfold skipKey at h
  split at h
  · cases h
  · next c r hs =>
    simp only [skipKey, skipSpace_append hs]
    split at h
    · next hc =>
      rw [if_pos hc]
      split at h
      · cases h
      · next hk =>
        rw [skipString_append hk]
        exact skipColon_append h more
    · cases h

theorem Bracket.skipToValue_append {b : Bracket} {s rest : List Char}
    (h : b.skipToValue s = .ok rest) (more : List Char) :
    b.skipToValue (s ++ more) = .ok (rest ++ more) := by
  cases b with
  | list =>
    cases h
    rfl
  | object => exact skipKey_append h more

theorem skipScalar_append {c : Char} {s rest : List Char} (h : skipScalar c s = .ok rest)
    (hrest : rest ≠ []) (more : List Char) : skipScalar c (s ++ more) = .ok (rest ++ more) := by
  unfold skipScalar at h ⊢
  split at h
  · exact skipWord_append h more
  · exact skipWord_append h more
  · exact skipWord_append h more
  · exact skipString_append h more
  · split at h
    · next hc =>
      rw [if_pos hc]
      unfold skipNumber at h ⊢
      split at h
      · cases h
      · next hn =>
        cases h
        rw [← List.cons_append, numeral_append hn hrest]
    · cases h

/-! The three turns, once the next word is known. -/

theorem skipRest_value {brackets : List Bracket} {s r : List Char} {c : Char}
    (hs : skipSpace s = c :: r) : skipRest .value brackets s =
      if c = '[' then skipRest .first (.list :: brackets) r
      else if c = '\x7b' then skipRest .first (.object :: brackets) r
      else match skipScalar c r with
        | .error e => .error e
        | .ok rest => skipRest .after brackets rest := by
  rw [skipRest]
  split
  · next he =>
    rw [hs] at he
    cases he
  · next he =>
    rw [hs] at he
    cases he
    split
    · rfl
    · split
      · rfl
      · split <;>
        · next hv => rw [hv]

theorem skipRest_first {b : Bracket} {outer : List Bracket} {s r : List Char} {c : Char}
    (hs : skipSpace s = c :: r) : skipRest .first (b :: outer) s =
      if c = b.closer then skipRest .after outer r
      else match b.skipToValue (c :: r) with
        | .error e => .error e
        | .ok rest => skipRest .value (b :: outer) rest := by
  rw [skipRest]
  split
  · next he =>
    rw [hs] at he
    cases he
  · next he =>
    rw [hs] at he
    cases he
    split
    · rfl
    · split <;>
      · next hv => rw [hv]

theorem skipRest_after {b : Bracket} {outer : List Bracket} {s r : List Char} {c : Char}
    (hs : skipSpace s = c :: r) : skipRest .after (b :: outer) s =
      if c = b.closer then skipRest .after outer r
      else if c = ',' then
        match b.skipToValue r with
        | .error e => .error e
        | .ok rest => skipRest .value (b :: outer) rest
      else .error b.expectedEnd := by
  rw [skipRest]
  split
  · next he =>
    rw [hs] at he
    cases he
  · next he =>
    rw [hs] at he
    cases he
    split
    · rfl
    · split
      · split <;>
        · next hv => rw [hv]
      · rfl

theorem skipRest_append {turn : Turn} {brackets : List Bracket} {s rest : List Char}
    (h : skipRest turn brackets s = .ok rest) (hrest : rest ≠ []) (more : List Char) :
    skipRest turn brackets (s ++ more) = .ok (rest ++ more) := by
  fun_induction skipRest turn brackets s with
  | case1 => cases h
  | case2 brackets s r hs ih =>
    rw [skipRest_value (skipSpace_append hs more), if_pos rfl]
    exact ih h
  | case3 brackets s r hs hl ih =>
    rw [skipRest_value (skipSpace_append hs more), if_neg hl, if_pos rfl]
    exact ih h
  | case4 => cases h
  | case5 brackets s c r hs hl ho r' hv ih =>
    -- Only a number needs it: something is left behind the value.
    have hr' : r' ≠ [] := by
      have hlength := (skipRest_length h).1
      have hpos := List.length_pos_iff.2 hrest
      exact List.length_pos_iff.1 (by omega)
    rw [skipRest_value (skipSpace_append hs more), if_neg hl, if_neg ho,
      skipScalar_append hv hr']
    exact ih h
  | case6 =>
    cases h
    rw [skipRest]
  | case7 => cases h
  | case8 s b outer r hs ih =>
    rw [skipRest_first (skipSpace_append hs more), if_pos rfl]
    exact ih h
  | case9 => cases h
  | case10 s b outer c r hs hc r' hv ih =>
    rw [skipRest_first (skipSpace_append hs more), if_neg hc, ← List.cons_append,
      Bracket.skipToValue_append hv]
    exact ih h
  | case11 =>
    cases h
    rw [skipRest]
  | case12 => cases h
  | case13 s b outer r hs ih =>
    rw [skipRest_after (skipSpace_append hs more), if_pos rfl]
    exact ih h
  | case14 => cases h
  | case15 s b outer r r' hv hs hc ih =>
    rw [skipRest_after (skipSpace_append hs more), if_neg hc, if_pos rfl,
      Bracket.skipToValue_append hv]
    exact ih h
  | case16 => cases h

end BuoyGateway.Json
