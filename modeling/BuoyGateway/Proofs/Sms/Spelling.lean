import Mathlib.Data.List.Infix
import BuoyGateway.Proofs.Text.Cut
import BuoyGateway.Proofs.Text.Run
import BuoyGateway.Proofs.Time.Rfc3339
import BuoyGateway.Sms.Command

/-!
# How commands are spelled

`Spells` is the grammar of the commands. The main statement is that the reader of commands takes a text
for the command that the text spells, if it has the length of one message; such a text spells at most
one command.
-/

namespace BuoyGateway.Command

open Text (isBlank skipBlanks firstWord? octets encode isDigitOctet)

def signed (sign : String) (digits : String) : Int :=
  if sign = "-" then -(Decimal.ofDigits digits.toList : Int) else Decimal.ofDigits digits.toList

inductive Spells : String → Command → Prop
  | upgrade {blanks version rest : String} (hblanks : ∀ c ∈ blanks.toList, isBlank c = true)
      (hne : version ≠ "") (hversion : ∀ c ∈ version.toList, isBlank c = false)
      (hrest : ∀ c ∈ rest.toList.head?, isBlank c = true) :
      Spells ("UPGRADE " ++ blanks ++ version ++ rest) (upgrade version)
  | reboot : Spells "REBOOT" reboot
  | sleep {blanks sign digits rest : String} (hblanks : ∀ c ∈ blanks.toList, isBlank c = true)
      (hsign : sign ∈ ["", "+", "-"]) (hne : digits ≠ "")
      (hdigits : ∀ c ∈ digits.toList, c.isDigit = true)
      (hrest : ∀ c ∈ rest.toList.head?, c.isDigit = false) (hrange : isSeconds (signed sign digits)) :
      Spells ("ULPM " ++ blanks ++ sign ++ digits ++ rest) (sleep (signed sign digits))

variable {body : String} {command : Command} {s rest : List Char} {n : Int}

/-! ### Integers -/

def integerBehind? (sign : String) (s : List Char) : Option Int :=
  match s.takeWhile Char.isDigit with
  | [] => none
  | digits => some (signed sign (String.ofList digits))

theorem integerBehind?_eq (sign : String) (s : List Char) : integerBehind? sign s =
    match s.takeWhile Char.isDigit with
    | [] => none
    | digits => some (if sign = "-" then -(Decimal.ofDigits digits : Int)
      else Decimal.ofDigits digits) := by
  rw [integerBehind?]
  split
  · rfl
  · rw [signed, String.toList_ofList]

theorem leadingInteger?_plus (h : skipBlanks s = '+' :: rest) :
    leadingInteger? s = integerBehind? "+" rest := by
  rw [leadingInteger?, h, integerBehind?_eq]
  rfl

theorem leadingInteger?_minus (h : skipBlanks s = '-' :: rest) :
    leadingInteger? s = integerBehind? "-" rest := by
  rw [leadingInteger?, h, integerBehind?_eq]
  rfl

theorem leadingInteger?_plain (h : ∀ c ∈ (skipBlanks s).head?, c ≠ '+' ∧ c ≠ '-') :
    leadingInteger? s = integerBehind? "" (skipBlanks s) := by
  rw [integerBehind?_eq]
  unfold leadingInteger?
  cases hs : skipBlanks s with
  | nil => rfl
  | cons c rest =>
    obtain ⟨hplus, hminus⟩ := h c (by rw [hs]; rfl)
    split
    next hsign =>
    split at hsign
    · next hc =>
      cases hc
      exact absurd rfl hplus
    · next hc =>
      cases hc
      exact absurd rfl hminus
    · cases hsign
      rfl

theorem integerBehind?_eq_some_iff {sign : String} : integerBehind? sign s = some n ↔
    ∃ digits rest, s = digits ++ rest ∧ digits ≠ [] ∧ (∀ c ∈ digits, c.isDigit = true) ∧
      (∀ c ∈ rest.head?, c.isDigit = false) ∧ n = signed sign (String.ofList digits) := by
  constructor
  · intro h
    obtain ⟨digits, rest, rfl, hdigits, hrest⟩ := Text.exists_run Char.isDigit s
    rw [integerBehind?, Text.takeWhile_run hdigits hrest] at h
    split at h
    · cases h
    · next hne =>
      cases h
      exact ⟨digits, rest, rfl, hne, hdigits, hrest, rfl⟩
  · rintro ⟨digits, rest, rfl, hne, hdigits, hrest, rfl⟩
    rw [integerBehind?, Text.takeWhile_run hdigits hrest]
    split
    · exact absurd rfl hne
    · rfl

/-- Behind its blanks a text begins with a sign, which may be empty. -/
theorem exists_sign (s : List Char) : ∃ sign ∈ ["", "+", "-"], ∃ rest,
    skipBlanks s = sign.toList ++ rest ∧ leadingInteger? s = integerBehind? sign rest ∧
      (sign = "" → ∀ c ∈ rest.head?, c ≠ '+' ∧ c ≠ '-') := by
  by_cases hplus : (skipBlanks s).head? = some '+'
  · obtain ⟨rest, h⟩ := List.head?_eq_some_iff.1 hplus
    exact ⟨"+", by simp, rest, h, leadingInteger?_plus h, nofun⟩
  by_cases hminus : (skipBlanks s).head? = some '-'
  · obtain ⟨rest, h⟩ := List.head?_eq_some_iff.1 hminus
    exact ⟨"-", by simp, rest, h, leadingInteger?_minus h, nofun⟩
  have hplain : ∀ c ∈ (skipBlanks s).head?, c ≠ '+' ∧ c ≠ '-' :=
    fun c hc => ⟨fun he => hplus (he ▸ hc), fun he => hminus (he ▸ hc)⟩
  exact ⟨"", by simp, skipBlanks s, rfl, leadingInteger?_plain hplain, fun _ => hplain⟩

theorem leadingInteger?_of_sign {sign : String} {blanks digits : List Char}
    (hblanks : ∀ c ∈ blanks, isBlank c = true) (hsign : sign ∈ ["", "+", "-"]) (hne : digits ≠ [])
    (hdigits : ∀ c ∈ digits, c.isDigit = true) :
    leadingInteger? (blanks ++ (sign.toList ++ (digits ++ rest))) =
      integerBehind? sign (digits ++ rest) := by
  simp only [List.mem_cons, List.not_mem_nil, or_false] at hsign
  rcases hsign with rfl | rfl | rfl
  · have hfirst : ∀ c ∈ (digits ++ rest).head?, c.isDigit = true := by
      intro c hc
      cases digits with
      | nil => exact absurd rfl hne
      | cons d digits =>
        cases hc
        exact hdigits _ List.mem_cons_self
    have hskip : skipBlanks (blanks ++ (digits ++ rest)) = digits ++ rest :=
      Text.skipBlanks_run hblanks (fun c hc => Time.Rfc3339.isBlank_of_isDigit (hfirst c hc))
    change leadingInteger? (blanks ++ (digits ++ rest)) = _
    rw [leadingInteger?_plain, hskip]
    intro c hc
    rw [hskip] at hc
    have hdigit := hfirst c hc
    constructor <;>
    · rintro rfl
      cases hdigit
  · exact leadingInteger?_plus (Text.skipBlanks_run hblanks (by rintro _ ⟨⟩; decide))
  · exact leadingInteger?_minus (Text.skipBlanks_run hblanks (by rintro _ ⟨⟩; decide))

theorem leadingInteger?_eq_some_iff : leadingInteger? s = some n ↔
    ∃ blanks sign digits rest, s = blanks ++ (sign.toList ++ (digits ++ rest)) ∧
      (∀ c ∈ blanks, isBlank c = true) ∧ sign ∈ ["", "+", "-"] ∧ digits ≠ [] ∧
      (∀ c ∈ digits, c.isDigit = true) ∧ (∀ c ∈ rest.head?, c.isDigit = false) ∧
      n = signed sign (String.ofList digits) := by
  constructor
  · intro h
    obtain ⟨blanks, text, rfl, hblanks, htext⟩ := Text.exists_run isBlank s
    obtain ⟨sign, hsign, number, hskip, hnumber, -⟩ := exists_sign (blanks ++ text)
    rw [Text.skipBlanks_run hblanks htext] at hskip
    obtain ⟨digits, rest, rfl, hne, hdigits, hrest, rfl⟩ :=
      integerBehind?_eq_some_iff.1 (hnumber.symm.trans h)
    exact ⟨blanks, sign, digits, rest, by rw [hskip], hblanks, hsign, hne, hdigits, hrest, rfl⟩
  · rintro ⟨blanks, sign, digits, rest, rfl, hblanks, hsign, hne, hdigits, hrest, rfl⟩
    rw [leadingInteger?_of_sign hblanks hsign hne hdigits]
    exact integerBehind?_eq_some_iff.2 ⟨digits, rest, rfl, hne, hdigits, hrest, rfl⟩

/-! ### The grammar -/

theorem spells_upgrade_iff {version : String} : Spells body (upgrade version) ↔
    ∃ rest, body.toList = "UPGRADE ".toList ++ rest ∧ firstWord? rest = some version.toList := by
  simp only [Text.firstWord?_eq_some_iff]
  constructor
  · rintro ⟨hblanks, hne, hversion, hrest⟩
    refine ⟨_, ?_, _, _, rfl, hblanks, by simpa using hne, hversion, hrest⟩
    simp only [String.toList_append, List.append_assoc]
  · rintro ⟨_, hbody, blanks, rest, rfl, hblanks, hne, hversion, hrest⟩
    have hbody : body = "UPGRADE " ++ String.ofList blanks ++ version ++ String.ofList rest := by
      rw [← String.toList_inj, hbody]
      simp only [String.toList_append, String.toList_ofList, List.append_assoc]
    rw [hbody]
    exact .upgrade (by simpa using hblanks) (by simpa using hne) hversion (by simpa using hrest)

theorem spells_sleep_iff : Spells body (sleep n) ↔
    ∃ rest, body.toList = "ULPM ".toList ++ rest ∧ leadingInteger? rest = some n ∧
      isSeconds n = true := by
  simp only [leadingInteger?_eq_some_iff]
  constructor
  · intro h
    cases h with | sleep hblanks hsign hne hdigits hrest hrange =>
    refine ⟨_, ?_, ⟨_, _, _, _, rfl, hblanks, hsign, by simpa using hne, hdigits, hrest, ?_⟩, hrange⟩
    · simp only [String.toList_append, List.append_assoc]
    · rw [String.ofList_toList]
  · rintro ⟨_, hbody, ⟨blanks, sign, digits, rest, rfl, hblanks, hsign, hne, hdigits, hrest, rfl⟩,
      hrange⟩
    have hbody : body = "ULPM " ++ String.ofList blanks ++ sign ++ String.ofList digits ++
        String.ofList rest := by
      rw [← String.toList_inj, hbody]
      simp only [String.toList_append, String.toList_ofList, List.append_assoc]
    rw [hbody]
    exact .sleep (by simpa using hblanks) hsign (by simpa using hne) (by simpa using hdigits)
      (by simpa using hrest) hrange

theorem spells_reboot_iff : Spells body reboot ↔ body = "REBOOT" :=
  ⟨fun h => by cases h; rfl, fun h => h ▸ .reboot⟩

theorem not_spells_unknown {text : String} : ¬ Spells body (unknown text) := nofun

/-! ### Reading -/

theorem version?_of_size {rest : List Char} (hbody : body.toList = "UPGRADE ".toList ++ rest)
    (hsize : Text.size body ≤ textLimit) :
    version? rest = (firstWord? rest).map String.ofList := by
  cases hword : firstWord? rest with
  | none => simp only [version?, hword, Option.map_none, Option.filter_none]
  | some word =>
    obtain ⟨blanks, after, rfl, -⟩ := Text.firstWord?_eq_some_iff.1 hword
    have hlimit : Text.size (String.ofList word) ≤ versionLimit := by
      rw [Text.size, hbody] at hsize
      simp only [Text.octets_append, textLimit] at hsize
      rw [Text.size, String.toList_ofList, versionLimit]
      omega
    simp only [version?, hword, Option.map_some, Option.filter_some, hlimit, decide_true, if_true]

theorem read?_upgrade (hbody : body.toList = "UPGRADE ".toList ++ rest) :
    read? body.toList = (version? rest).map upgrade := by
  have hkey : "UPGRADE ".toList.isPrefixOf? body.toList = some rest :=
    List.isPrefixOf?_eq_some_iff_append_eq.2 hbody.symm
  rw [read?, hkey]

theorem read?_sleep (hbody : body.toList = "ULPM ".toList ++ rest) :
    read? body.toList = (seconds? rest).map sleep := by
  have hkey : "ULPM ".toList.isPrefixOf? body.toList = some rest :=
    List.isPrefixOf?_eq_some_iff_append_eq.2 hbody.symm
  rw [read?, hkey, hbody]
  rfl

theorem read?_other (hupgrade : ¬ "UPGRADE ".toList <+: body.toList)
    (hsleep : ¬ "ULPM ".toList <+: body.toList) :
    read? body.toList = if body = "REBOOT" then some reboot else none := by
  have hkeys : ∀ key : String, ¬ key.toList <+: body.toList →
      key.toList.isPrefixOf? body.toList = none := by
    intro key hkey
    rw [Option.eq_none_iff_forall_ne_some]
    exact fun rest hrest => hkey ⟨rest, List.isPrefixOf?_eq_some_iff_append_eq.1 hrest⟩
  rw [read?, hkeys _ hupgrade, hkeys _ hsleep]
  simp only [String.toList_inj]

theorem read?_of_spells (hsize : Text.size body ≤ textLimit) (h : Spells body command) :
    read? body.toList = some command := by
  cases command with
  | upgrade version =>
    obtain ⟨rest, hrest, hword⟩ := spells_upgrade_iff.1 h
    rw [read?_upgrade hrest, version?_of_size hrest hsize, hword, Option.map_some, Option.map_some,
      String.ofList_toList]
  | reboot =>
    rw [spells_reboot_iff.1 h]
    rfl
  | sleep n =>
    obtain ⟨rest, hrest, hn, hrange⟩ := spells_sleep_iff.1 h
    rw [read?_sleep hrest, seconds?, hn, Option.filter_some, if_pos hrange, Option.map_some]
  | unknown text => exact absurd h not_spells_unknown

theorem spells_of_read? (hsize : Text.size body ≤ textLimit)
    (h : read? body.toList = some command) : Spells body command := by
  by_cases hupgrade : "UPGRADE ".toList <+: body.toList
  · obtain ⟨rest, hrest⟩ := hupgrade
    rw [read?_upgrade hrest.symm, version?_of_size hrest.symm hsize] at h
    obtain ⟨version, hversion, rfl⟩ := Option.map_eq_some_iff.1 h
    obtain ⟨word, hword, rfl⟩ := Option.map_eq_some_iff.1 hversion
    exact spells_upgrade_iff.2 ⟨rest, hrest.symm, by rw [hword, String.toList_ofList]⟩
  by_cases hsleep : "ULPM ".toList <+: body.toList
  · obtain ⟨rest, hrest⟩ := hsleep
    rw [read?_sleep hrest.symm] at h
    obtain ⟨n, hn, rfl⟩ := Option.map_eq_some_iff.1 h
    obtain ⟨hn, hrange⟩ := Option.filter_eq_some_iff.1 hn
    exact spells_sleep_iff.2 ⟨rest, hrest.symm, hn, hrange⟩
  rw [read?_other hupgrade hsleep] at h
  split at h
  · next hbody =>
    cases h
    exact spells_reboot_iff.2 hbody
  · cases h

theorem Spells.unique {other : Command} (hsize : Text.size body ≤ textLimit)
    (h : Spells body command) (hother : Spells body other) : command = other := by
  rw [← Option.some_inj, ← read?_of_spells hsize h, read?_of_spells hsize hother]

theorem parse_eq_iff_spells {command : Command} (hknown : ∀ text, command ≠ unknown text) :
    parse body = command ↔ Text.size body ≤ textLimit ∧ Spells body command := by
  by_cases hsize : Text.size body ≤ textLimit
  · rw [parse, if_pos hsize]
    constructor
    · intro h
      cases hread : read? body.toList with
      | none => exact absurd (hread ▸ h).symm (hknown body)
      | some read =>
        rw [hread, Option.getD_some] at h
        exact ⟨hsize, h ▸ spells_of_read? hsize hread⟩
    · rintro ⟨-, h⟩
      rw [read?_of_spells hsize h, Option.getD_some]
  · rw [parse, if_neg hsize]
    exact iff_of_false (hknown body).symm (fun h => hsize h.1)

theorem eq_of_parse_eq_unknown {text : String} (h : parse body = unknown text) : text = body := by
  by_cases hsize : Text.size body ≤ textLimit
  · rw [parse, if_pos hsize] at h
    cases hread : read? body.toList with
    | none =>
      rw [hread] at h
      cases h
      rfl
    | some read =>
      rw [hread, Option.getD_some] at h
      exact absurd (h ▸ spells_of_read? hsize hread) not_spells_unknown
  · rw [parse, if_neg hsize] at h
    cases h
    rfl

theorem parse_eq_unknown_iff {text : String} : parse body = unknown text ↔
    text = body ∧ ¬ (Text.size body ≤ textLimit ∧ ∃ command, Spells body command) := by
  constructor
  · intro h
    refine ⟨eq_of_parse_eq_unknown h, ?_⟩
    rintro ⟨hsize, command, hspells⟩
    rw [parse, if_pos hsize, read?_of_spells hsize hspells, Option.getD_some] at h
    exact not_spells_unknown (h ▸ hspells)
  · rintro ⟨rfl, hnone⟩
    cases hc : parse text with
    | unknown other => rw [eq_of_parse_eq_unknown hc]
    | upgrade | reboot | sleep =>
      obtain ⟨hsize, hspells⟩ := (parse_eq_iff_spells (by rintro _ ⟨⟩)).1 hc
      exact absurd ⟨hsize, _, hspells⟩ hnone

end BuoyGateway.Command
