import BuoyGateway.Proofs.Decimal.Numeral
import BuoyGateway.Proofs.Json.Writing
import BuoyGateway.Proofs.Text.Run

/-!
# How strings and numbers are spelled

The grammar of strings with any escapes and of numbers of any size, apart from the readers. What the
grammar derives is taken off the front of a text as a whole: `stringBody_quoted`,
`skipString_quotable` and `numeral_shown` say so of the words, `accepts_string` and `accepts_word` of
values among blanks.
-/

namespace BuoyGateway.Json

def Blank (s : List Char) : Prop := ∀ c ∈ s, isSpace c = true

theorem blank_nil : Blank [] := nofun

/-! ### Strings -/

def smallDigits : List Char :=
  ['0', '1', '2', '3', '4', '5', '6', '7', '8', '9', 'a', 'b', 'c', 'd', 'e', 'f']

def capitalDigits : List Char :=
  ['0', '1', '2', '3', '4', '5', '6', '7', '8', '9', 'A', 'B', 'C', 'D', 'E', 'F']

def IsHex (c : Char) (n : Nat) : Prop := smallDigits[n]? = some c ∨ capitalDigits[n]? = some c

inductive IsQuad : List Char → Nat → Prop
  | digits {a b c d : Char} {i j k l : Nat} : IsHex a i → IsHex b j → IsHex c k → IsHex d l →
      IsQuad [a, b, c, d] (16 * (16 * (16 * i + j) + k) + l)

def escapeLetters : List (Char × Char) :=
  [('"', '"'), ('\\', '\\'), ('/', '/'), ('b', '\x08'), ('f', '\x0c'), ('n', '\n'), ('r', '\r'),
    ('t', '\t')]

/-- The first text, between quotes, is a string of the characters of the second. -/
inductive Quoted : List Char → List Char → Prop
  | done : Quoted [] []
  | plain {c : Char} {s t : List Char} :
      c ≠ '"' → c ≠ '\\' → 0x20 ≤ c.toNat → Quoted s t → Quoted (c :: s) (c :: t)
  | letter {letter c : Char} {s t : List Char} :
      (letter, c) ∈ escapeLetters → Quoted s t → Quoted ('\\' :: letter :: s) (c :: t)
  | unit {quad s t : List Char} {c : Char} :
      IsQuad quad c.toNat → Quoted s t → Quoted ('\\' :: 'u' :: (quad ++ s)) (c :: t)
  | pair {first second s t : List Char} {high low : Nat} {c : Char} :
      IsQuad first high → IsQuad second low → 0xD800 ≤ high → high ≤ 0xDBFF → 0xDC00 ≤ low →
      low ≤ 0xDFFF → c.toNat = (high - 0xD800) * 0x400 + (low - 0xDC00) + 0x10000 → Quoted s t →
      Quoted ('\\' :: 'u' :: (first ++ '\\' :: 'u' :: (second ++ s))) (c :: t)

/-- The text, between quotes, is a string, if only after the grammar: escapes in it may stand for
half pairs of surrogates. -/
inductive Quotable : List Char → Prop
  | done : Quotable []
  | plain {c : Char} {s : List Char} :
      c ≠ '"' → c ≠ '\\' → 0x20 ≤ c.toNat → Quotable s → Quotable (c :: s)
  | letter {letter c : Char} {s : List Char} :
      (letter, c) ∈ escapeLetters → Quotable s → Quotable ('\\' :: letter :: s)
  | unit {quad s : List Char} {n : Nat} :
      IsQuad quad n → Quotable s → Quotable ('\\' :: 'u' :: (quad ++ s))

theorem hexValue?_of_isHex {c : Char} {n : Nat} (h : IsHex c n) : hexValue? c = some n := by
  have hsmall : ∀ n < 16, smallDigits[n]?.bind hexValue? = some n := by decide
  have hcapital : ∀ n < 16, capitalDigits[n]?.bind hexValue? = some n := by decide
  rcases h with h | h
  · rw [← hsmall n (List.getElem?_eq_some_iff.1 h).1, h, Option.bind_some]
  · rw [← hcapital n (List.getElem?_eq_some_iff.1 h).1, h, Option.bind_some]

theorem hexQuad_quad {quad : List Char} {n : Nat} (h : IsQuad quad n) (rest : List Char) :
    hexQuad (quad ++ rest) = .ok (n, rest) := by
  cases h with
  | @digits a b c d i j k l ha hb hc hd =>
    have hvalues : [a, b, c, d].mapM hexValue? = some [i, j, k, l] := by
      simp only [List.mapM_cons, List.mapM_nil, hexValue?_of_isHex ha, hexValue?_of_isHex hb,
        hexValue?_of_isHex hc, hexValue?_of_isHex hd]
      rfl
    simp only [List.cons_append, List.nil_append, hexQuad, hvalues, List.foldl_cons,
      List.foldl_nil, Nat.mul_zero, Nat.zero_add]

theorem escape_letter {letter c : Char} (h : (letter, c) ∈ escapeLetters) (rest : List Char) :
    escape (letter :: rest) = .ok (c, rest) := by
  simp only [escapeLetters, List.mem_cons, Prod.mk.injEq, List.not_mem_nil, or_false] at h
  rcases h with ⟨rfl, rfl⟩ | ⟨rfl, rfl⟩ | ⟨rfl, rfl⟩ | ⟨rfl, rfl⟩ | ⟨rfl, rfl⟩ | ⟨rfl, rfl⟩ |
    ⟨rfl, rfl⟩ | ⟨rfl, rfl⟩ <;> rfl

/-- A character is no half of a pair of surrogates. -/
theorem not_surrogate (c : Char) : c.toNat < 0xD800 ∨ 0xDFFF < c.toNat := by
  rcases c.valid with h | h
  · exact .inl h
  · exact .inr h.1

theorem escape_unit {quad : List Char} {c : Char} (h : IsQuad quad c.toNat) (rest : List Char) :
    escape ('u' :: (quad ++ rest)) = .ok (c, rest) := by
  have hvalid := not_surrogate c
  have hlow : ¬(0xDC00 ≤ c.toNat && c.toNat ≤ 0xDFFF) = true := by
    rw [Bool.and_eq_true, decide_eq_true_eq, decide_eq_true_eq]
    omega
  have hhigh : ¬(0xD800 ≤ c.toNat && c.toNat ≤ 0xDBFF) = true := by
    rw [Bool.and_eq_true, decide_eq_true_eq, decide_eq_true_eq]
    omega
  simp only [escape, hexQuad_quad h, if_neg hlow, if_neg hhigh, Char.ofNat_toNat]

theorem escape_pair {first second : List Char} {high low : Nat} {c : Char}
    (hfirst : IsQuad first high) (hsecond : IsQuad second low) (hhigh : 0xD800 ≤ high)
    (hhigh' : high ≤ 0xDBFF) (hlow : 0xDC00 ≤ low) (hlow' : low ≤ 0xDFFF)
    (hc : c.toNat = (high - 0xD800) * 0x400 + (low - 0xDC00) + 0x10000) (rest : List Char) :
    escape ('u' :: (first ++ '\\' :: 'u' :: (second ++ rest))) = .ok (c, rest) := by
  have hnot : ¬(0xDC00 ≤ high && high ≤ 0xDFFF) = true := by
    rw [Bool.and_eq_true, decide_eq_true_eq, decide_eq_true_eq]
    omega
  simp only [escape, hexQuad_quad hfirst, if_neg hnot, hhigh, hhigh', decide_true, Bool.and_self,
    if_true, secondSurrogate, hexQuad_quad hsecond, hlow, hlow', ← hc, Char.ofNat_toNat]

/-- The reader of a string stops at the quote behind it, with its characters. -/
theorem stringBody_quoted {body t : List Char} (h : Quoted body t) (rest : List Char) :
    stringBody (body ++ '"' :: rest) = .ok (t, rest) := by
  induction h with
  | done => rw [List.nil_append, stringBody, if_pos rfl]
  | plain hquote hslash hcontrol _ ih =>
    exact stringBody_plain hquote hslash (Nat.not_lt.2 hcontrol) ih
  | letter hletter _ ih => exact stringBody_escape (escape_letter hletter _) ih
  | unit hquad _ ih =>
    rw [List.cons_append, List.cons_append, List.append_assoc]
    exact stringBody_escape (escape_unit hquad _) ih
  | pair hfirst hsecond hhigh hhigh' hlow hlow' hc _ ih =>
    simp only [List.cons_append, List.append_assoc]
    exact stringBody_escape (escape_pair hfirst hsecond hhigh hhigh' hlow hlow' hc _) ih

theorem quoted_self {s : List Char}
    (h : s.all (fun c => c != '"' && c != '\\' && decide (0x20 ≤ c.toNat)) = true) : Quoted s s := by
  induction s with
  | nil => exact .done
  | cons c s ih =>
    simp only [List.all_cons, Bool.and_eq_true, bne_iff_ne, decide_eq_true_eq] at h
    exact .plain h.1.1.1 h.1.1.2 h.1.2 (ih h.2)

theorem skipEscape_letter {letter c : Char} (h : (letter, c) ∈ escapeLetters) (rest : List Char) :
    skipEscape (letter :: rest) = .ok rest := by
  simp only [escapeLetters, List.mem_cons, Prod.mk.injEq, List.not_mem_nil, or_false] at h
  rcases h with ⟨rfl, -⟩ | ⟨rfl, -⟩ | ⟨rfl, -⟩ | ⟨rfl, -⟩ | ⟨rfl, -⟩ | ⟨rfl, -⟩ | ⟨rfl, -⟩ |
    ⟨rfl, -⟩ <;> rfl

theorem skipEscape_unit {quad : List Char} {n : Nat} (h : IsQuad quad n) (rest : List Char) :
    skipEscape ('u' :: (quad ++ rest)) = .ok rest := by
  simp only [skipEscape, hexQuad_quad h]

theorem skipString_escape {s rest : List Char} (h : skipEscape s = .ok rest) :
    skipString ('\\' :: s) = skipString rest := by
  rw [skipString, if_neg (by decide), if_pos rfl]
  split
  · next he =>
    rw [h] at he
    cases he
  · next he =>
    rw [h] at he
    cases he
    rfl

theorem skipString_quotable {body : List Char} (h : Quotable body) (rest : List Char) :
    skipString (body ++ '"' :: rest) = .ok rest := by
  induction h with
  | done => rw [List.nil_append, skipString, if_pos rfl]
  | plain hquote hslash hcontrol _ ih =>
    rw [List.cons_append, skipString, if_neg hquote, if_neg hslash, if_neg (Nat.not_lt.2 hcontrol)]
    exact ih
  | letter hletter _ ih =>
    rw [List.cons_append, List.cons_append, skipString_escape (skipEscape_letter hletter _)]
    exact ih
  | unit hquad _ ih =>
    rw [List.cons_append, List.cons_append, List.append_assoc,
      skipString_escape (skipEscape_unit hquad _)]
    exact ih

/-! ### Numbers -/

def IsRun (s : List Char) : Prop := s ≠ [] ∧ ∀ c ∈ s, c.isDigit = true

/-- The digits of a number before its point: a zero stands alone. -/
inductive IsWhole : List Char → Prop
  | zero : IsWhole ['0']
  | run {s : List Char} : IsRun s → s.head? ≠ some '0' → IsWhole s

/-- The point of a number and the digits behind it, if there are any. -/
inductive ShowsFraction : List Char → List Char → Prop
  | none : ShowsFraction [] []
  | point {s : List Char} : IsRun s → ShowsFraction ('.' :: s) s

/-- The exponent of a number, if there is one: whether it is negative, and its digits. -/
inductive ShowsExponent : List Char → Option (Bool × List Char) → Prop
  | none : ShowsExponent [] none
  | plain {e : Char} {s : List Char} :
      e ∈ ['e', 'E'] → IsRun s → ShowsExponent (e :: s) (some (false, s))
  | plus {e : Char} {s : List Char} :
      e ∈ ['e', 'E'] → IsRun s → ShowsExponent (e :: '+' :: s) (some (false, s))
  | minus {e : Char} {s : List Char} :
      e ∈ ['e', 'E'] → IsRun s → ShowsExponent (e :: '-' :: s) (some (true, s))

inductive ShowsNumeral : List Char → Numeral → Prop
  | plain {whole point fraction power : List Char} {exponent : Option (Bool × List Char)} :
      IsWhole whole → ShowsFraction point fraction → ShowsExponent power exponent →
      ShowsNumeral (whole ++ (point ++ power)) ⟨false, whole, fraction, exponent⟩
  | minus {whole point fraction power : List Char} {exponent : Option (Bool × List Char)} :
      IsWhole whole → ShowsFraction point fraction → ShowsExponent power exponent →
      ShowsNumeral ('-' :: (whole ++ (point ++ power))) ⟨true, whole, fraction, exponent⟩

/-- A number that stands in front of the text does not go on in it. -/
def EndsNumber (rest : List Char) : Prop :=
  ∀ c ∈ rest.head?, c.isDigit = false ∧ c ∉ ['.', 'e', 'E']

variable {rest : List Char} (ended : Error)

theorem IsRun.exists_cons {s : List Char} (h : IsRun s) :
    ∃ d more, s = d :: more ∧ d.isDigit = true := by
  obtain ⟨hne, hdigits⟩ := h
  cases s with
  | nil => exact absurd rfl hne
  | cons d more => exact ⟨d, more, rfl, hdigits d List.mem_cons_self⟩

theorem IsWhole.isRun {s : List Char} (h : IsWhole s) : IsRun s := by
  cases h with
  | zero => exact ⟨nofun, fun c hc => List.mem_singleton.1 hc ▸ rfl⟩
  | run hrun _ => exact hrun

theorem digitRun_run {s : List Char} (h : IsRun s) (hrest : ∀ c ∈ rest.head?, c.isDigit = false) :
    digitRun ended (s ++ rest) = .ok (s, rest) := by
  obtain ⟨d, more, rfl, hd⟩ := h.exists_cons
  rw [List.cons_append, digitRun, if_pos hd, ← List.cons_append, Text.takeWhile_run h.2 hrest,
    Text.dropWhile_run h.2 hrest]

theorem wholeDigits_whole {s : List Char} (h : IsWhole s)
    (hrest : ∀ c ∈ rest.head?, c.isDigit = false) :
    wholeDigits ended (s ++ rest) = .ok (s, rest) := by
  cases h with
  | zero =>
    cases rest with
    | nil => rfl
    | cons c rest =>
      rw [List.cons_append, List.nil_append, wholeDigits,
        if_neg (by rw [hrest c rfl]; decide)]
  | run hrun hzero =>
    obtain ⟨d, more, rfl, -⟩ := hrun.exists_cons
    unfold wholeDigits
    split
    · next he => exact absurd (congrArg some (List.head_eq_of_cons_eq he)) hzero
    · exact digitRun_run ended hrun hrest

theorem fractionDigits_shown {s fraction : List Char} (h : ShowsFraction s fraction)
    (hrest : ∀ c ∈ rest.head?, c.isDigit = false ∧ c ≠ '.') :
    fractionDigits ended (s ++ rest) = .ok (fraction, rest) := by
  cases h with
  | none =>
    rw [List.nil_append]
    unfold fractionDigits
    split
    · exact absurd rfl (hrest '.' rfl).2
    · rfl
  | point hrun => exact digitRun_run ended hrun (fun c hc => (hrest c hc).1)

theorem exponentDigits_sign {e : Char} {s run : List Char} (he : e ∈ ['e', 'E'])
    (hrun : IsRun run) (hsign : (sign (s ++ rest)).2 = run ++ rest) (hrest : EndsNumber rest) :
    exponentDigits ended (e :: (s ++ rest)) = .ok (some ((sign (s ++ rest)).1, run), rest) := by
  have he' : (e = 'e' || e = 'E') = true := by
    simp only [List.mem_cons, List.not_mem_nil, or_false] at he
    simpa using he
  rw [exponentDigits, if_pos he', hsign, digitRun_run ended hrun (fun c hc => (hrest c hc).1)]

theorem exponentDigits_shown {s : List Char} {exponent : Option (Bool × List Char)}
    (h : ShowsExponent s exponent) (hrest : EndsNumber rest) :
    exponentDigits ended (s ++ rest) = .ok (exponent, rest) := by
  cases h with
  | none =>
    cases rest with
    | nil => rfl
    | cons c rest =>
      have hc := (hrest c rfl).2
      simp only [List.mem_cons, List.not_mem_nil, or_false, not_or] at hc
      rw [List.nil_append, exponentDigits, if_neg (by simpa using hc.2)]
  | @plain e s he hrun =>
    -- The first digit is no sign.
    obtain ⟨d, more, rfl, hd⟩ := hrun.exists_cons
    have hsign : sign (d :: more ++ rest) = (false, d :: more ++ rest) := by
      unfold sign
      split
      · next hplus =>
        cases hplus
        cases hd
      · next hminus =>
        cases hminus
        cases hd
      · rfl
    have hdigits := exponentDigits_sign ended he hrun (congrArg Prod.snd hsign) hrest
    rwa [hsign] at hdigits
  | @plus e s he hrun => exact exponentDigits_sign (s := '+' :: s) ended he hrun rfl hrest
  | @minus e s he hrun => exact exponentDigits_sign (s := '-' :: s) ended he hrun rfl hrest

theorem not_isDigit_of_letter {e : Char} (h : e ∈ ['e', 'E']) : e.isDigit = false ∧ e ≠ '.' := by
  simp only [List.mem_cons, List.not_mem_nil, or_false] at h
  rcases h with rfl | rfl <;> decide

theorem ShowsExponent.follows {s : List Char} {exponent : Option (Bool × List Char)}
    (h : ShowsExponent s exponent) (hrest : EndsNumber rest) :
    ∀ c ∈ (s ++ rest).head?, c.isDigit = false ∧ c ≠ '.' := by
  intro c hc
  cases h with
  | none => exact ⟨(hrest c hc).1, fun h => (hrest c hc).2 (h ▸ List.mem_cons_self)⟩
  | plain he _ =>
    cases hc
    exact not_isDigit_of_letter he
  | plus he _ =>
    cases hc
    exact not_isDigit_of_letter he
  | minus he _ =>
    cases hc
    exact not_isDigit_of_letter he

theorem ShowsFraction.follows {s fraction : List Char} (h : ShowsFraction s fraction)
    (hrest : ∀ c ∈ rest.head?, c.isDigit = false ∧ c ≠ '.') :
    ∀ c ∈ (s ++ rest).head?, c.isDigit = false := by
  intro c hc
  cases h with
  | none => exact (hrest c hc).1
  | point _ =>
    cases hc
    rfl

theorem unsigned_shown (negative : Bool) {whole point fraction power : List Char}
    {exponent : Option (Bool × List Char)} (hwhole : IsWhole whole)
    (hpoint : ShowsFraction point fraction) (hpower : ShowsExponent power exponent)
    (hrest : EndsNumber rest) :
    unsigned ended negative (whole ++ (point ++ (power ++ rest))) =
      .ok (⟨negative, whole, fraction, exponent⟩, rest) := by
  have hfollows := hpower.follows hrest
  simp only [unsigned, wholeDigits_whole ended hwhole (hpoint.follows hfollows),
    fractionDigits_shown ended hpoint hfollows, exponentDigits_shown ended hpower hrest]

/-- The reader of a number takes all of it, where it does not go on. -/
theorem numeral_shown {s : List Char} {n : Numeral} (h : ShowsNumeral s n)
    (hrest : EndsNumber rest) : numeral ended (s ++ rest) = .ok (n, rest) := by
  cases h with
  | @plain whole point fraction power exponent hwhole hpoint hpower =>
    have hunsigned := unsigned_shown ended false hwhole hpoint hpower hrest
    obtain ⟨d, more, rfl, hd⟩ := hwhole.isRun.exists_cons
    simp only [List.append_assoc]
    unfold numeral
    split
    · next he =>
      cases he
      cases hd
    · exact hunsigned
  | @minus whole point fraction power exponent hwhole hpoint hpower =>
    simp only [List.cons_append, List.append_assoc]
    exact unsigned_shown ended true hwhole hpoint hpower hrest

theorem ShowsNumeral.exists_cons {s : List Char} {n : Numeral} (h : ShowsNumeral s n) :
    ∃ c more, s = c :: more ∧ (c = '-' || c.isDigit) = true := by
  cases h with
  | plain hwhole _ _ =>
    obtain ⟨d, more, rfl, hd⟩ := hwhole.isRun.exists_cons
    exact ⟨d, _, rfl, by rw [hd, Bool.or_true]⟩
  | minus _ _ _ => exact ⟨'-', _, rfl, rfl⟩

theorem isWhole_digits (n : Nat) : IsWhole (Decimal.digits n) := by
  by_cases hzero : n = 0
  · subst hzero
    exact .zero
  · refine .run ⟨Nat.toDigits_ne_nil, fun _ => Decimal.isDigit_of_mem_digits⟩ ?_
    intro hhead
    cases hn : Decimal.digits n with
    | nil => exact Nat.toDigits_ne_nil hn
    | cons d more =>
      rw [hn, List.head?_cons, Option.some.injEq] at hhead
      exact hzero (Decimal.eq_zero_of_digits_eq_cons (hhead ▸ hn))

theorem showsNumeral_digits (n : Nat) :
    ShowsNumeral (Decimal.digits n) ⟨false, Decimal.digits n, [], none⟩ := by
  have hshows := ShowsNumeral.plain (isWhole_digits n) .none .none
  rwa [List.append_nil, List.append_nil] at hshows

theorem le_foldl_digits (v : Nat) (digits : List Char) :
    v ≤ digits.foldl (fun n c => 10 * n + Decimal.digitValue c) v := by
  induction digits generalizing v with
  | nil => exact Nat.le_refl v
  | cons c digits ih =>
    have hstep := ih (10 * v + Decimal.digitValue c)
    rw [List.foldl_cons]
    omega

def wholeStep (part : Nat × Nat) (c : Char) : Nat × Nat :=
  if part.2 = 0 && 10 * part.1 + Decimal.digitValue c ≤ greatestWord then
    (10 * part.1 + Decimal.digitValue c, 0)
  else (part.1, part.2 + 1)

theorem wholePart_eq (digits : List Char) : wholePart digits = digits.foldl wholeStep (0, 0) := rfl

theorem foldl_wholeStep (digits : List Char) (v : Nat)
    (hv : digits.foldl (fun n c => 10 * n + Decimal.digitValue c) v ≤ greatestWord) :
    digits.foldl wholeStep (v, 0) =
      (digits.foldl (fun n c => 10 * n + Decimal.digitValue c) v, 0) := by
  induction digits generalizing v with
  | nil => rfl
  | cons c digits ih =>
    have hle : 10 * v + Decimal.digitValue c ≤ greatestWord :=
      Nat.le_trans (le_foldl_digits _ digits) hv
    have hstep : wholeStep (v, 0) c = (10 * v + Decimal.digitValue c, 0) := by
      rw [wholeStep, if_pos (by simpa using hle)]
    rw [List.foldl_cons, hstep, ih _ hv, List.foldl_cons]

theorem wholePart_digits {n : Nat} (h : n ≤ greatestWord) : wholePart (Decimal.digits n) = (n, 0) := by
  have hvalue := Decimal.ofDigits_digits n
  rw [Decimal.ofDigits] at hvalue
  rw [wholePart_eq, foldl_wholeStep _ 0 (by rw [hvalue]; exact h), hvalue]

theorem value_digits {n : Nat} (h : n ≤ greatestWord) :
    Numeral.value ⟨false, Decimal.digits n, [], none⟩ = .ok (.natural n) := by
  simp only [Numeral.value, wholePart_digits h]
  rfl

/-! ### Words among blanks -/

/-- The text is the end of all, or goes on with what may follow a value. -/
def Follows (rest : List Char) : Prop :=
  ∀ c ∈ rest.head?, isSpace c = true ∨ c ∈ [',', ']', '\x7d']

theorem Follows.blank {gap : List Char} (hgap : Blank gap) (hrest : Follows rest) :
    Follows (gap ++ rest) := by
  cases gap with
  | nil => exact hrest
  | cons c gap =>
    intro d hd
    cases hd
    exact .inl (hgap c List.mem_cons_self)

theorem Follows.word {c : Char} (hc : c ∈ [',', ']', '\x7d']) : Follows (c :: rest) := by
  intro d hd
  cases hd
  exact .inr hc

theorem eq_of_isSpace {c : Char} (h : isSpace c = true) :
    c = ' ' ∨ c = '\n' ∨ c = '\t' ∨ c = '\r' := by
  simpa only [isSpace, Bool.or_eq_true, beq_iff_eq, or_assoc] using h

theorem isSpace_of_isDigit {c : Char} (h : c.isDigit = true) : isSpace c = false := by
  cases hc : isSpace c with
  | false => rfl
  | true => rcases eq_of_isSpace hc with rfl | rfl | rfl | rfl <;> cases h

theorem Follows.endsNumber (h : Follows rest) : EndsNumber rest := by
  intro c hc
  rcases h c hc with hc | hc
  · rcases eq_of_isSpace hc with rfl | rfl | rfl | rfl <;> decide
  · simp only [List.mem_cons, List.not_mem_nil, or_false] at hc
    rcases hc with rfl | rfl | rfl <;> decide

theorem Closes.follows (h : Closes rest) : Follows rest := by
  intro c hc
  have hclose := h c hc
  simp only [List.mem_cons, List.not_mem_nil, or_false] at hclose
  rcases hclose with rfl | rfl | rfl | rfl <;> decide

/-- Behind blanks and in front of whatever may follow a value, which may be blanks too, the reader takes
the text for the value. -/
def Reader.Accepts {α : Type} (reader : Reader α) (text : List Char) (a : α) : Prop :=
  ∀ gap rest, Blank gap → Follows rest → reader.read (gap ++ (text ++ rest)) = .ok (a, rest)

variable {α β : Type} {reader : Reader α} {text : List Char}

theorem Reader.Accepts.takes {a : α} (h : reader.Accepts text a) : reader.Takes text a :=
  fun gap rest hgap hrest => h gap rest hgap hrest.follows

theorem Reader.Accepts.map {a : α} (h : reader.Accepts text a) (f : α → β) :
    (reader.map f).Accepts text (f a) := by
  intro gap rest hgap hrest
  simp only [Reader.map, Reader.refine, h gap rest hgap hrest]

theorem Reader.Accepts.unique {a b : α} (ha : reader.Accepts text a) (hb : reader.Accepts text b) :
    a = b := by
  have hread := ha [] [] nofun nofun
  rw [hb [] [] nofun nofun] at hread
  cases hread
  rfl

/-- The value is all that a text has but blanks. -/
theorem Reader.Accepts.parse {a : α} (h : reader.Accepts text a) {gap gap' : List Char}
    (hgap : Blank gap) (hgap' : Blank gap') : reader.parse (gap ++ (text ++ gap')) = .ok a := by
  have hend : Follows (gap' ++ []) := Follows.blank hgap' nofun
  have hblank : skipSpace (gap' ++ []) = [] := skipSpace_blanks hgap' []
  rw [List.append_nil] at hend hblank
  rw [Reader.parse, h gap gap' hgap hend]
  simp only [hblank]

inductive ShowsString : List Char → String → Prop
  | quoted {body : List Char} {s : String} :
      Quoted body s.toList → ShowsString ('"' :: (body ++ ['"'])) s

theorem accepts_string (wanted : Wanted) {s : String} (h : ShowsString text s) :
    (string wanted).Accepts text s := by
  intro gap rest hgap _
  cases h with
  | quoted hbody =>
    change readString wanted _ = _
    simp only [readString, List.cons_append, List.append_assoc, List.nil_append,
      skipSpace_blanks_word hgap (show isSpace '"' = false by decide), if_true,
      stringBody_quoted hbody, String.ofList_toList]

theorem accepts_word (wanted : Wanted) (n : UInt64) :
    (word wanted).Accepts (Decimal.digits n.toNat) n := by
  intro gap rest hgap hrest
  have hbound : n.toNat ≤ greatestWord := Nat.le_sub_one_of_lt n.toNat_lt
  obtain ⟨d, more, hn, hd⟩ := (isWhole_digits n.toNat).isRun.exists_cons
  have hnumeral := numeral_shown (.ended .value) (showsNumeral_digits n.toNat) hrest.endsNumber
  have hvalue := value_digits hbound
  rw [hn] at hnumeral hvalue ⊢
  rw [List.cons_append] at hnumeral
  change readWord wanted _ = _
  rw [List.cons_append, readWord, skipSpace_blanks_word hgap (isSpace_of_isDigit hd)]
  simp only [hd, Bool.or_true, if_true, hnumeral, hvalue, UInt64.ofNat_toNat]

end BuoyGateway.Json
