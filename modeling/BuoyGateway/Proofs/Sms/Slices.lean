import BuoyGateway.Proofs.Sms.Spelling

/-!
# Commands cut out of a text

A command can be read by slicing its text at places that are counted in octets: behind the key word,
behind the blanks, at the end of the first word, behind the sign and behind the digits. `readSlices`
does so and fails where a slice would split a character. The main statement is that it never fails: it
reads every text as the command that the text stands for.
-/

namespace BuoyGateway.Command

open Text (isBlank octets encode isDigitOctet cut?)

def sliceText (s : List Char) : Option (List Char) :=
  (cut? (octets (s.takeWhile isBlank)) s).map Prod.snd

def sliceWord (s : List Char) : Option (List Char) := do
  let text ← sliceText s
  let (word, _) ← cut? (octets (text.takeWhile (fun c => !isBlank c))) text
  return word

def signSize : List Char → Nat
  | '+' :: _ => 1
  | '-' :: _ => 1
  | _ => 0

def integerOf : List Char → Int
  | '+' :: digits => Decimal.ofDigits digits
  | '-' :: digits => -(Decimal.ofDigits digits : Int)
  | digits => Decimal.ofDigits digits

def sliceInteger (s : List Char) : Option (Option Int) := do
  let text ← sliceText s
  let (_, unsigned) ← cut? (signSize text) text
  let count := ((encode unsigned).takeWhile isDigitOctet).length
  if count = 0 then return none
  let (number, _) ← cut? (signSize text + count) text
  return some (integerOf number)

/-- The upgrade that a text asks for behind its key word; without a version it is unknown. -/
def sliceUpgrade (body : String) : Option Command := do
  let (_, rest) ← cut? (Text.size "UPGRADE ") body.toList
  let word ← sliceWord rest
  return if word = [] ∨ versionLimit < octets word then unknown body else upgrade (String.ofList word)

/-- The sleep that a text asks for behind its key word; without a number of seconds it is unknown. -/
def sliceSleep (body : String) : Option Command := do
  let (_, rest) ← cut? (Text.size "ULPM ") body.toList
  let number ← sliceInteger rest
  return ((number.filter isSeconds).map sleep).getD (unknown body)

def readSlices (body : String) : Option Command :=
  if textLimit < Text.size body then some (unknown body)
  else if "UPGRADE ".toList <+: body.toList then sliceUpgrade body
  else if body = "REBOOT" then some reboot
  else if "ULPM ".toList <+: body.toList then sliceSleep body
  else some (unknown body)

variable {body : String} {s rest : List Char} {sign : String}

theorem sliceText_eq (s : List Char) : sliceText s = some (Text.skipBlanks s) := by
  obtain ⟨blanks, text, rfl, hblanks, htext⟩ := Text.exists_run isBlank s
  rw [sliceText, Text.takeWhile_run hblanks htext, Text.cut?_octets, Text.skipBlanks_run hblanks htext]
  rfl

theorem sliceWord_eq (s : List Char) :
    sliceWord s = some ((Text.skipBlanks s).takeWhile (fun c => !isBlank c)) := by
  obtain ⟨word, rest, htext, hword, hrest⟩ :=
    Text.exists_run (fun c => !isBlank c) (Text.skipBlanks s)
  rw [sliceWord, sliceText_eq, htext, Text.takeWhile_run hword hrest, Option.bind_eq_bind,
    Option.bind_some, Text.takeWhile_run hword hrest, Text.cut?_octets]
  rfl

theorem signSize_append (hsign : sign ∈ ["", "+", "-"])
    (hplain : sign = "" → ∀ c ∈ rest.head?, c ≠ '+' ∧ c ≠ '-') :
    signSize (sign.toList ++ rest) = octets sign.toList := by
  simp only [List.mem_cons, List.not_mem_nil, or_false] at hsign
  rcases hsign with rfl | rfl | rfl
  · change signSize rest = 0
    unfold signSize
    split
    · exact absurd rfl (hplain rfl '+' rfl).1
    · exact absurd rfl (hplain rfl '-' rfl).2
    · rfl
  · rfl
  · rfl

theorem integerOf_append {digits : List Char} (hsign : sign ∈ ["", "+", "-"])
    (hdigits : ∀ c ∈ digits, c.isDigit = true) :
    integerOf (sign.toList ++ digits) = signed sign (String.ofList digits) := by
  simp only [List.mem_cons, List.not_mem_nil, or_false] at hsign
  simp only [signed, String.toList_ofList]
  rcases hsign with rfl | rfl | rfl
  · change integerOf digits = Decimal.ofDigits digits
    unfold integerOf
    split
    · cases hdigits '+' List.mem_cons_self
    · cases hdigits '-' List.mem_cons_self
    · rfl
  · rfl
  · rfl

theorem sliceInteger_eq (s : List Char) : sliceInteger s = some (leadingInteger? s) := by
  obtain ⟨sign, hsign, unsigned, htext, hinteger, hplain⟩ := exists_sign s
  obtain ⟨digits, rest, rfl, hdigits, hrest⟩ := Text.exists_run Char.isDigit unsigned
  rw [sliceInteger, sliceText_eq, htext, Option.bind_eq_bind, Option.bind_some,
    signSize_append hsign hplain, Text.cut?_octets, Option.bind_eq_bind, Option.bind_some]
  dsimp only
  rw [Text.takeWhile_isDigitOctet hdigits hrest, Text.length_encode, ← Text.octets_append,
    ← List.append_assoc, Text.cut?_octets, hinteger, integerBehind?,
    Text.takeWhile_run hdigits hrest]
  by_cases hne : digits = []
  · rw [if_pos (Text.octets_eq_zero_iff.2 hne), hne]
    rfl
  · rw [if_neg (Text.octets_eq_zero_iff.not.2 hne), Option.bind_some, integerOf_append hsign hdigits]
    split
    · exact absurd rfl hne
    · rfl

theorem sliceUpgrade_eq (hbody : body.toList = "UPGRADE ".toList ++ rest) :
    sliceUpgrade body = some (((version? rest).map upgrade).getD (unknown body)) := by
  rw [sliceUpgrade, hbody, Text.size, Text.cut?_octets, Option.bind_eq_bind, Option.bind_some]
  dsimp only
  rw [sliceWord_eq, Option.bind_eq_bind, Option.bind_some, version?, Text.firstWord?]
  generalize (Text.skipBlanks rest).takeWhile (fun c => !isBlank c) = word
  cases word with
  | nil => rfl
  | cons c word =>
    dsimp only
    rw [Option.map_some, Option.filter_some, Text.size, String.toList_ofList]
    by_cases hlimit : octets (c :: word) ≤ versionLimit
    · rw [if_neg (by simp only [List.cons_ne_nil, false_or]; omega), if_pos (decide_eq_true hlimit)]
      rfl
    · rw [if_pos (Or.inr (Nat.lt_of_not_le hlimit)), if_neg (by simpa using hlimit)]
      rfl

theorem sliceSleep_eq (hbody : body.toList = "ULPM ".toList ++ rest) :
    sliceSleep body = some (((seconds? rest).map sleep).getD (unknown body)) := by
  rw [sliceSleep, hbody, Text.size, Text.cut?_octets, Option.bind_eq_bind, Option.bind_some]
  dsimp only
  rw [sliceInteger_eq]
  rfl

/-- No slice splits a character. -/
theorem readSlices_eq (body : String) : readSlices body = some (parse body) := by
  unfold readSlices parse
  by_cases hsize : Text.size body ≤ textLimit
  · rw [if_neg (Nat.not_lt.2 hsize), if_pos hsize]
    by_cases hupgrade : "UPGRADE ".toList <+: body.toList
    · obtain ⟨rest, hrest⟩ := hupgrade
      rw [if_pos ⟨rest, hrest⟩, read?_upgrade hrest.symm, sliceUpgrade_eq hrest.symm]
    rw [if_neg hupgrade]
    by_cases hreboot : body = "REBOOT"
    · rw [if_pos hreboot, hreboot]
      rfl
    rw [if_neg hreboot]
    by_cases hsleep : "ULPM ".toList <+: body.toList
    · obtain ⟨rest, hrest⟩ := hsleep
      rw [if_pos ⟨rest, hrest⟩, read?_sleep hrest.symm, sliceSleep_eq hrest.symm]
    rw [if_neg hsleep, read?_other hupgrade hsleep, if_neg hreboot]
    rfl
  · rw [if_pos (Nat.lt_of_not_le hsize), if_neg hsize]

/-- Exactly the commands of the grammar are read, each text stands for one command, no slice of a text
splits a character, and a version that fits one message is within its own limit. -/
theorem parse_spelled (body : String) :
    (∀ version, parse body = upgrade version ↔
      Text.size body ≤ textLimit ∧ Spells body (upgrade version)) ∧
    (parse body = reboot ↔ body = "REBOOT") ∧
    (∀ n, parse body = sleep n ↔ Text.size body ≤ textLimit ∧ Spells body (sleep n)) ∧
    (∀ text, parse body = unknown text ↔
      text = body ∧ ¬ (Text.size body ≤ textLimit ∧ ∃ command, Spells body command)) ∧
    (∀ command other, Text.size body ≤ textLimit → Spells body command → Spells body other →
      command = other) ∧
    readSlices body = some (parse body) ∧
    ∀ rest, Text.size body ≤ textLimit → body.toList = "UPGRADE ".toList ++ rest →
      version? rest = (Text.firstWord? rest).map String.ofList := by
  refine ⟨fun version => parse_eq_iff_spells (by rintro _ ⟨⟩), ?_,
    fun n => parse_eq_iff_spells (by rintro _ ⟨⟩), fun text => parse_eq_unknown_iff,
    fun command other hsize h hother => h.unique hsize hother, readSlices_eq body,
    fun rest hsize hbody => version?_of_size hbody hsize⟩
  rw [parse_eq_iff_spells (by rintro _ ⟨⟩), spells_reboot_iff]
  constructor
  · exact fun h => h.2
  · rintro rfl
    exact ⟨by decide, rfl⟩

theorem parse_spelled_once : parse "UPGRADE \u3000é2 now" = upgrade "é2" ∧
    (∀ other, Spells "UPGRADE \u3000é2 now" other → upgrade "é2" = other) ∧
    version? "\u3000é2 now".toList = some "é2" := by
  have hspells : Spells "UPGRADE \u3000é2 now" (upgrade "é2") :=
    @Spells.upgrade "\u3000" "é2" " now" (List.all_eq_true.1 (by decide)) (by decide)
      (fun c hc => by
        simpa using List.all_eq_true.1 (show "é2".toList.all (!isBlank ·) by decide) c hc)
      (by rintro _ ⟨⟩; decide)
  obtain ⟨hupgrade, -, -, -, hunique, -, hversion⟩ := parse_spelled "UPGRADE \u3000é2 now"
  exact ⟨(hupgrade "é2").2 ⟨by decide, hspells⟩, fun other => hunique _ other (by decide) hspells,
    hversion _ (by decide) (by decide)⟩

end BuoyGateway.Command
