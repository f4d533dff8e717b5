import BuoyGateway.Json.Error
import BuoyGateway.Text.Clip

/-!
# The words of JSON

Blanks, words, strings and numbers, read from the front of a list of characters. Each reader gives
what it read and the characters after it, which are never more than it was given; the lemmas
`*_length` say so, and the readers of whole values end by them.
-/

namespace BuoyGateway.Json

def isSpace (c : Char) : Bool := c == ' ' || c == '\n' || c == '\t' || c == '\r'

def skipSpace (s : List Char) : List Char := s.dropWhile isSpace

theorem skipSpace_length (s : List Char) : (skipSpace s).length ≤ s.length := by
  induction s with
  | nil => simp [skipSpace]
  | cons c s ih =>
    simp only [skipSpace, List.dropWhile_cons] at ih ⊢
    split
    · simp only [List.length_cons]
      omega
    · simp

theorem length_of_skipSpace_eq_cons {s rest : List Char} {c : Char}
    (h : skipSpace s = c :: rest) : rest.length < s.length := by
  have := skipSpace_length s
  rw [h, List.length_cons] at this
  omega

def skipWord : List Char → List Char → Except Error (List Char)
  | [], s => .ok s
  | _ :: _, [] => .error (.ended .value)
  | letter :: word, c :: s => if c = letter then skipWord word s else .error .expectedWord

theorem skipWord_length {word s rest : List Char} (h : skipWord word s = .ok rest) :
    rest.length ≤ s.length := by
  induction word generalizing s with
  | nil => simp_all [skipWord]
  | cons letter word ih =>
    cases s with
    | nil => simp [skipWord] at h
    | cons c s =>
      simp only [skipWord] at h
      split at h
      · have := ih h
        simp only [List.length_cons]
        omega
      · cases h

/-! ### Strings -/

def hexValue? (c : Char) : Option Nat :=
  if c.isDigit then some (c.toNat - '0'.toNat)
  else if 'a' ≤ c && c ≤ 'f' then some (c.toNat - 'a'.toNat + 10)
  else if 'A' ≤ c && c ≤ 'F' then some (c.toNat - 'A'.toNat + 10)
  else none

def hexQuad (s : List Char) : Except Error (Nat × List Char) :=
  match s with
  | a :: b :: c :: d :: rest =>
    match [a, b, c, d].mapM hexValue? with
    | some values => .ok (values.foldl (fun n v => 16 * n + v) 0, rest)
    | none => .error .invalidEscape
  | _ => if Text.octets s < 4 then .error (.ended .string) else .error .invalidEscape

theorem hexQuad_length {s rest : List Char} {n : Nat} (h : hexQuad s = .ok (n, rest)) :
    rest.length < s.length := by
  unfold hexQuad at h
  split at h
  · split at h
    · simp only [Except.ok.injEq, Prod.mk.injEq] at h
      simp only [← h.2, List.length_cons]
      omega
    · cases h
  · split at h <;> cases h

/-- The second half of a pair of surrogates, as the character of the pair. -/
def secondSurrogate (high : Nat) (s : List Char) : Except Error (Char × List Char) :=
  match s with
  | [] => .error (.ended .string)
  | ['\\'] => .error (.ended .string)
  | '\\' :: 'u' :: rest =>
    match hexQuad rest with
    | .error e => .error e
    | .ok (low, rest) =>
      if 0xDC00 ≤ low && low ≤ 0xDFFF then
        .ok (Char.ofNat ((high - 0xD800) * 0x400 + (low - 0xDC00) + 0x10000), rest)
      else .error .loneSurrogate
  | _ => .error .unfinishedPair

def escape (s : List Char) : Except Error (Char × List Char) :=
  match s with
  | [] => .error (.ended .string)
  | '"' :: rest => .ok ('"', rest)
  | '\\' :: rest => .ok ('\\', rest)
  | '/' :: rest => .ok ('/', rest)
  | 'b' :: rest => .ok ('\x08', rest)
  | 'f' :: rest => .ok ('\x0c', rest)
  | 'n' :: rest => .ok ('\n', rest)
  | 'r' :: rest => .ok ('\r', rest)
  | 't' :: rest => .ok ('\t', rest)
  | 'u' :: rest =>
    match hexQuad rest with
    | .error e => .error e
    | .ok (n, rest) =>
      if 0xDC00 ≤ n && n ≤ 0xDFFF then .error .loneSurrogate
      else if 0xD800 ≤ n && n ≤ 0xDBFF then secondSurrogate n rest
      else .ok (Char.ofNat n, rest)
  | _ => .error .invalidEscape

theorem secondSurrogate_length {high : Nat} {s rest : List Char} {c : Char}
    (h : secondSurrogate high s = .ok (c, rest)) : rest.length < s.length := by
  unfold secondSurrogate at h
  split at h
  · cases h
  · cases h
  · split at h
    · cases h
    · next hq =>
      split at h
      · simp only [Except.ok.injEq, Prod.mk.injEq] at h
        have := hexQuad_length hq
        simp only [← h.2, List.length_cons]
        omega
      · cases h
  · cases h

theorem escape_length {s rest : List Char} {c : Char} (h : escape s = .ok (c, rest)) :
    rest.length < s.length := by
  unfold escape at h
  split at h
  case h_10 =>
    split at h
    · cases h
    · next hq =>
      have := hexQuad_length hq
      split at h
      · cases h
      · split at h
        · have := secondSurrogate_length h
          simp only [List.length_cons]
          omega
        · simp only [Except.ok.injEq, Prod.mk.injEq] at h
          simp only [← h.2, List.length_cons]
          omega
  case h_1 => cases h
  case h_11 => cases h
  all_goals
    simp only [Except.ok.injEq, Prod.mk.injEq] at h
    simp [← h.2]

/-- The characters of a string, read from after its opening quote. -/
def stringBody (s : List Char) : Except Error (List Char × List Char) :=
  match s with
  | [] => .error (.ended .string)
  | c :: rest =>
    if c = '"' then .ok ([], rest)
    else if c = '\\' then
      match _h : escape rest with
      | .error e => .error e
      | .ok (d, rest) =>
        match stringBody rest with
        | .error e => .error e
        | .ok (t, after) => .ok (d :: t, after)
    else if c.toNat < 0x20 then .error .controlCharacter
    else
      match stringBody rest with
      | .error e => .error e
      | .ok (t, after) => .ok (c :: t, after)
termination_by s.length
decreasing_by
  · have := escape_length _h
    simp only [List.length_cons]
    omega
  · simp

theorem stringBody_length {s t rest : List Char} (h : stringBody s = .ok (t, rest)) :
    rest.length < s.length := by
  fun_induction stringBody s generalizing t rest with
  | case1 => cases h
  | case2 => simp_all
  | case3 => cases h
  | case4 => cases h
  | case5 r _ r' he _ after hb _ ih =>
    have := escape_length he
    have := ih hb
    simp only [Except.ok.injEq, Prod.mk.injEq] at h
    simp only [← h.2, List.length_cons]
    omega
  | case6 => cases h
  | case7 => cases h
  | case8 c r _ _ _ t' after hb ih =>
    have := ih hb
    simp only [Except.ok.injEq, Prod.mk.injEq] at h
    simp only [← h.2, List.length_cons]
    omega

/-- The text after an escape in a string whose characters do not matter. Half pairs of surrogates
pass. -/
def skipEscape (s : List Char) : Except Error (List Char) :=
  match s with
  | [] => .error (.ended .string)
  | 'u' :: rest =>
    match hexQuad rest with
    | .error e => .error e
    | .ok (_, rest) => .ok rest
  | c :: rest =>
    if c ∈ ['"', '\\', '/', 'b', 'f', 'n', 'r', 't'] then .ok rest else .error .invalidEscape

theorem skipEscape_length {s rest : List Char} (h : skipEscape s = .ok rest) :
    rest.length < s.length := by
  unfold skipEscape at h
  split at h
  · cases h
  · split at h
    · cases h
    · next hq =>
      have := hexQuad_length hq
      simp only [Except.ok.injEq] at h
      simp only [← h, List.length_cons]
      omega
  · split at h
    · simp_all
    · cases h

/-- The text after a string whose characters do not matter, read from after its opening quote. -/
def skipString (s : List Char) : Except Error (List Char) :=
  match s with
  | [] => .error (.ended .string)
  | c :: rest =>
    if c = '"' then .ok rest
    else if c = '\\' then
      match _h : skipEscape rest with
      | .error e => .error e
      | .ok rest => skipString rest
    else if c.toNat < 0x20 then .error .controlCharacter
    else skipString rest
termination_by s.length
decreasing_by
  · have := skipEscape_length _h
    simp only [List.length_cons]
    omega
  · simp

theorem skipString_length {s rest : List Char} (h : skipString s = .ok rest) :
    rest.length < s.length := by
  fun_induction skipString s with
  | case1 => cases h
  | case2 => simp_all
  | case3 => cases h
  | case4 r r' he _ ih =>
    have := skipEscape_length he
    have := ih h
    simp only [List.length_cons]
    omega
  | case5 => cases h
  | case6 c r _ _ _ ih =>
    have := ih h
    simp only [List.length_cons]
    omega

/-! ### Numbers -/

structure Numeral where
  negative : Bool
  whole : List Char
  fraction : List Char
  exponent : Option (Bool × List Char)
  deriving DecidableEq, Repr

/-- A run of at least one digit. A text that ends before it has the fault `ended`. -/
def digitRun (ended : Error) (s : List Char) : Except Error (List Char × List Char) :=
  match s with
  | [] => .error ended
  | c :: _ =>
    if c.isDigit then .ok (s.takeWhile Char.isDigit, s.dropWhile Char.isDigit)
    else .error .invalidNumber

/-- The digits before the point: a zero stands alone. -/
def wholeDigits (ended : Error) (s : List Char) : Except Error (List Char × List Char) :=
  match s with
  | '0' :: c :: rest => if c.isDigit then .error .invalidNumber else .ok (['0'], c :: rest)
  | s => digitRun ended s

def fractionDigits (ended : Error) (s : List Char) : Except Error (List Char × List Char) :=
  match s with
  | '.' :: rest => digitRun ended rest
  | s => .ok ([], s)

/-- A sign, if there is one: whether it is a minus. -/
def sign (s : List Char) : Bool × List Char :=
  match s with
  | '+' :: rest => (false, rest)
  | '-' :: rest => (true, rest)
  | s => (false, s)

/-- The exponent, if there is one: whether it is negative, and its digits. -/
def exponentDigits (ended : Error) (s : List Char) :
    Except Error (Option (Bool × List Char) × List Char) :=
  match s with
  | [] => .ok (none, [])
  | c :: rest =>
    if c = 'e' || c = 'E' then
      match digitRun ended (sign rest).2 with
      | .error e => .error e
      | .ok (digits, after) => .ok (some ((sign rest).1, digits), after)
    else .ok (none, c :: rest)

/-- The spelling of a number, read from after its sign. -/
def unsigned (ended : Error) (negative : Bool) (s : List Char) :
    Except Error (Numeral × List Char) :=
  match wholeDigits ended s with
  | .error e => .error e
  | .ok (whole, s) =>
    match fractionDigits ended s with
    | .error e => .error e
    | .ok (fraction, s) =>
      match exponentDigits ended s with
      | .error e => .error e
      | .ok (exponent, s) => .ok (⟨negative, whole, fraction, exponent⟩, s)

/-- The spelling of a number, read from its minus sign or its first digit. -/
def numeral (ended : Error) (s : List Char) : Except Error (Numeral × List Char) :=
  match s with
  | '-' :: rest => unsigned ended true rest
  | s => unsigned ended false s

theorem dropWhile_length (p : Char → Bool) (s : List Char) :
    (s.dropWhile p).length ≤ s.length := by
  induction s with
  | nil => simp
  | cons c s ih =>
    rw [List.dropWhile_cons]
    split
    · simp only [List.length_cons]
      omega
    · simp

theorem digitRun_length {ended : Error} {s run rest : List Char}
    (h : digitRun ended s = .ok (run, rest)) : rest.length < s.length := by
  unfold digitRun at h
  split at h
  · cases h
  · next c r =>
    split at h
    · next hc =>
      simp only [Except.ok.injEq, Prod.mk.injEq] at h
      rw [← h.2, List.dropWhile_cons, if_pos hc]
      have := dropWhile_length Char.isDigit r
      simp only [List.length_cons]
      omega
    · cases h

theorem wholeDigits_length {ended : Error} {s run rest : List Char}
    (h : wholeDigits ended s = .ok (run, rest)) : rest.length < s.length := by
  unfold wholeDigits at h
  split at h
  · split at h
    · cases h
    · simp only [Except.ok.injEq, Prod.mk.injEq] at h
      simp [← h.2]
  · exact digitRun_length h

theorem fractionDigits_length {ended : Error} {s run rest : List Char}
    (h : fractionDigits ended s = .ok (run, rest)) : rest.length ≤ s.length := by
  unfold fractionDigits at h
  split at h
  · have := digitRun_length h
    simp only [List.length_cons]
    omega
  · simp_all

theorem sign_length (s : List Char) : (sign s).2.length ≤ s.length := by
  unfold sign
  split <;> simp

theorem exponentDigits_length {ended : Error} {s rest : List Char} {e : Option (Bool × List Char)}
    (h : exponentDigits ended s = .ok (e, rest)) : rest.length ≤ s.length := by
  unfold exponentDigits at h
  split at h
  · simp_all
  · next c r =>
    split at h
    · split at h
      · cases h
      · next hd =>
        have := digitRun_length hd
        have := sign_length r
        simp only [Except.ok.injEq, Prod.mk.injEq] at h
        simp only [← h.2, List.length_cons]
        omega
    · simp_all

theorem unsigned_length {ended : Error} {negative : Bool} {s rest : List Char} {n : Numeral}
    (h : unsigned ended negative s = .ok (n, rest)) : rest.length < s.length := by
  unfold unsigned at h
  split at h
  · cases h
  · next hw =>
    split at h
    · cases h
    · next hf =>
      split at h
      · cases h
      · next he =>
        simp only [Except.ok.injEq, Prod.mk.injEq] at h
        have := wholeDigits_length hw
        have := fractionDigits_length hf
        have := exponentDigits_length he
        rw [← h.2]
        omega

theorem numeral_length {ended : Error} {s rest : List Char} {n : Numeral}
    (h : numeral ended s = .ok (n, rest)) : rest.length < s.length := by
  unfold numeral at h
  split at h
  · have := unsigned_length h
    simp only [List.length_cons]
    omega
  · exact unsigned_length h

end BuoyGateway.Json
