import BuoyGateway.Json.Lexical

/-!
# Values that are skipped

A value under a key that nobody asks for has to be well formed, but it may nest as deeply as it
likes: the brackets that are open are kept in a list. Strings in it may hold half pairs of
surrogates, and numbers may have any size.
-/

namespace BuoyGateway.Json

inductive Bracket
  | list
  | object
  deriving DecidableEq, Repr

/-- What comes next in a value that is skipped: a value; the first item after an opening bracket
or its end; or what follows a whole value. -/
inductive Turn
  | value
  | first
  | after
  deriving DecidableEq, Repr

def Bracket.closer : Bracket → Char
  | .list => ']'
  | .object => '\x7d'

def Bracket.ended : Bracket → Error
  | .list => .ended .list
  | .object => .ended .object

/-- The fault of an item that neither a comma nor the closing bracket follows. -/
def Bracket.expectedEnd : Bracket → Error
  | .list => .expectedListEnd
  | .object => .expectedObjectEnd

def skipColon (s : List Char) : Except Error (List Char) :=
  match skipSpace s with
  | [] => .error (.ended .object)
  | c :: rest => if c = ':' then .ok rest else .error .expectedColon

def skipKey (s : List Char) : Except Error (List Char) :=
  match skipSpace s with
  | [] => .error (.ended .object)
  | c :: rest =>
    if c = '"' then
      match skipString rest with
      | .error e => .error e
      | .ok rest => skipColon rest
    else .error .keyNotString

def Bracket.skipToValue (b : Bracket) (s : List Char) : Except Error (List Char) :=
  match b with
  | .list => .ok s
  | .object => skipKey s

def skipNumber (s : List Char) : Except Error (List Char) :=
  match numeral .invalidNumber s with
  | .error e => .error e
  | .ok (_, rest) => .ok rest

/-- The text after a value that is no list and no object, if one starts here. -/
def skipScalar (c : Char) (rest : List Char) : Except Error (List Char) :=
  match c with
  | 'n' => skipWord ['u', 'l', 'l'] rest
  | 't' => skipWord ['r', 'u', 'e'] rest
  | 'f' => skipWord ['a', 'l', 's', 'e'] rest
  | '"' => skipString rest
  | c => if c = '-' || c.isDigit then skipNumber (c :: rest) else .error .expectedValue

theorem skipColon_length {s rest : List Char} (h : skipColon s = .ok rest) :
    rest.length < s.length := by
  unfold skipColon at h
  split at h
  · cases h
  · next hs =>
    split at h
    · have := length_of_skipSpace_eq_cons hs
      simp_all
    · cases h

theorem skipKey_length {s rest : List Char} (h : skipKey s = .ok rest) :
    rest.length < s.length := by
  unfold skipKey at h
  split at h
  · cases h
  · next hs =>
    have := length_of_skipSpace_eq_cons hs
    split at h
    · split at h
      · cases h
      · next hk =>
        have := skipString_length hk
        have := skipColon_length h
        omega
    · cases h

theorem Bracket.skipToValue_length {b : Bracket} {s rest : List Char}
    (h : b.skipToValue s = .ok rest) : rest.length ≤ s.length := by
  cases b with
  | list => simp_all [Bracket.skipToValue]
  | object =>
    have := skipKey_length h
    omega

theorem skipNumber_length {s rest : List Char} (h : skipNumber s = .ok rest) :
    rest.length < s.length := by
  unfold skipNumber at h
  split at h
  · cases h
  · next hn =>
    simp only [Except.ok.injEq] at h
    exact h ▸ numeral_length hn

theorem skipScalar_length {c : Char} {s rest : List Char} (h : skipScalar c s = .ok rest) :
    rest.length ≤ s.length := by
  unfold skipScalar at h
  split at h
  · exact skipWord_length h
  · exact skipWord_length h
  · exact skipWord_length h
  · exact Nat.le_of_lt (skipString_length h)
  · split at h
    · have := skipNumber_length h
      simp only [List.length_cons] at this
      omega
    · cases h

/-- The text after the rest of a value, whose open brackets are listed from the inside out. -/
def skipRest (turn : Turn) (brackets : List Bracket) (s : List Char) : Except Error (List Char) :=
  match turn, brackets with
  | .value, brackets =>
    match _h : skipSpace s with
    | [] => .error (.ended .value)
    | c :: rest =>
      if c = '[' then skipRest .first (.list :: brackets) rest
      else if c = '\x7b' then skipRest .first (.object :: brackets) rest
      else
        match _h : skipScalar c rest with
        | .error e => .error e
        | .ok rest => skipRest .after brackets rest
  | .first, [] => .ok s
  | .first, b :: outer =>
    match _h : skipSpace s with
    | [] => .error b.ended
    | c :: rest =>
      if c = b.closer then skipRest .after outer rest
      else
        match _h : b.skipToValue (c :: rest) with
        | .error e => .error e
        | .ok rest => skipRest .value (b :: outer) rest
  | .after, [] => .ok s
  | .after, b :: outer =>
    match _h : skipSpace s with
    | [] => .error b.ended
    | c :: rest =>
      if c = b.closer then skipRest .after outer rest
      else if c = ',' then
        match _h : b.skipToValue rest with
        | .error e => .error e
        | .ok rest => skipRest .value (b :: outer) rest
      else .error b.expectedEnd
termination_by 2 * s.length + (if turn = .first then 1 else 0)
decreasing_by
  all_goals simp only [↓reduceIte]
  all_goals have hl := length_of_skipSpace_eq_cons (by assumption)
  · omega
  · omega
  · have := skipScalar_length (by assumption)
    omega
  · omega
  · have := Bracket.skipToValue_length (by assumption)
    simp only [List.length_cons] at this
    omega
  · omega
  · have := Bracket.skipToValue_length (by assumption)
    omega

def skipValue (s : List Char) : Except Error (List Char) := skipRest .value [] s

theorem skipRest_length {turn : Turn} {brackets : List Bracket} {s rest : List Char}
    (h : skipRest turn brackets s = .ok rest) :
    rest.length ≤ s.length ∧ (turn = .value → rest.length < s.length) := by
  fun_induction skipRest turn brackets s <;> simp_all
  case case5 hs _ _ _ hc _ =>
    have := length_of_skipSpace_eq_cons hs
    have := skipScalar_length hc
    omega
  case case10 hs _ _ hc _ =>
    have := length_of_skipSpace_eq_cons hs
    have := Bracket.skipToValue_length hc
    simp only [List.length_cons] at this
    omega
  case case15 hc hs _ _ =>
    have := length_of_skipSpace_eq_cons hs
    have := Bracket.skipToValue_length hc
    omega
  all_goals
    have := length_of_skipSpace_eq_cons (by assumption)
    omega

theorem skipValue_length {s rest : List Char} (h : skipValue s = .ok rest) :
    rest.length < s.length := (skipRest_length h).2 rfl

end BuoyGateway.Json
