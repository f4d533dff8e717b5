import BuoyGateway.Launch.Action
import BuoyGateway.Proofs.Sms.Spelling

/-!
# What a text can launch

All that a text hands to a program is one argument of a script that the settings name: a word of the
text itself, or a number in its shortest decimal form. The argument is canonical. Behind the key word
of its command it stands for the same command, whatever else the text held, and so it launches the
same again.
-/

namespace BuoyGateway

def Text.IsWord (s : String) : Prop := s ≠ "" ∧ ∀ c ∈ s.toList, isBlank c = false

/-- The digits of a number, with no sign and no zero in front of them. -/
structure Decimal.IsNumeral (n : Int) (s : String) : Prop where
  digits : ∀ c ∈ s.toList, c.isDigit = true
  first : ∀ c ∈ s.toList.head?, c ≠ '0'
  value : (ofDigits s.toList : Int) = n

namespace Decimal

variable {n : Int} {s : String}

theorem text_ofNat (n : Nat) : (text n).toList = digits n := String.toList_ofList

theorem text_negSucc (n : Nat) : (text (.negSucc n)).toList = '-' :: digits (n + 1) :=
  String.toList_ofList

theorem isNumeral_text (h : 0 < n) : IsNumeral n (text n) := by
  cases n with
  | negSucc n => exact absurd h (by omega)
  | ofNat n =>
    change IsNumeral n (text n)
    refine ⟨fun c hc => ?_, fun c hc hzero => ?_, ?_⟩
    · rw [text_ofNat] at hc
      exact isDigit_of_mem_digits hc
    · obtain ⟨rest, hrest⟩ := List.head?_eq_some_iff.1 hc
      rw [text_ofNat, hzero] at hrest
      have hn : n = 0 := eq_zero_of_digits_eq_cons hrest
      subst hn
      exact absurd h (by decide)
    · rw [text_ofNat, ofDigits_digits]

theorem IsNumeral.isWord (h : IsNumeral n s) (hn : 0 < n) : Text.IsWord s := by
  refine ⟨?_, fun c hc => Time.Rfc3339.isBlank_of_isDigit (h.digits c hc)⟩
  rintro rfl
  have hvalue := h.value
  change (0 : Int) = n at hvalue
  omega

theorem octets_of_digits {digits : List Char} (h : ∀ c ∈ digits, c.isDigit = true) :
    Text.octets digits = digits.length := by
  induction digits with
  | nil => rfl
  | cons c digits ih =>
    have hc : c.utf8Size = 1 := by
      have hdigit := isDigit_iff.1 (h c List.mem_cons_self)
      rw [Char.utf8Size_eq_one_iff, UInt32.le_iff_toNat_le]
      exact Nat.le_trans hdigit.2 (by decide)
    rw [Text.octets_cons, hc, ih (fun d hd => h d (List.mem_cons_of_mem c hd)), List.length_cons,
      Nat.add_comm]

theorem octets_digits_le {m width : Nat} (hw : 0 < width) (h : m < Nat.pow 10 width) :
    Text.octets (digits m) ≤ width := by
  rw [octets_of_digits (fun c hc => isDigit_of_mem_digits hc)]
  exact (Nat.length_toDigits_le_iff (by decide) hw).2 h

/-- An integer of 32 bits is written in at most eleven octets. -/
theorem size_text_le (h : Command.isSeconds n = true) : Text.size (text n) ≤ 11 := by
  simp only [Command.isSeconds, Bool.and_eq_true, decide_eq_true_eq] at h
  obtain ⟨hlow, hhigh⟩ := h
  cases n with
  | ofNat n =>
    change (n : Int) ≤ _ at hhigh
    have hbound : n < Nat.pow 10 10 := by
      change n < 10000000000
      omega
    change Text.octets (text n).toList ≤ 11
    rw [text_ofNat]
    exact Nat.le_succ_of_le (octets_digits_le (by decide) hbound)
  | negSucc n =>
    have hbound : n + 1 < Nat.pow 10 10 := by
      change n + 1 < 10000000000
      omega
    have hdigits := octets_digits_le (by decide) hbound
    rw [Text.size, text_negSucc, Text.octets_cons]
    change 1 + _ ≤ 11
    omega

end Decimal

namespace Command

open Text (IsWord)
open Decimal (IsNumeral)

variable {settings : Settings} {body version : String} {n : Int} {action : Action}

/-! ### Canonical texts -/

theorem leadingInteger?_text (n : Int) : leadingInteger? (Decimal.text n).toList = some n := by
  refine leadingInteger?_eq_some_iff.2 ?_
  cases n with
  | ofNat n =>
    refine ⟨[], "", Decimal.digits n, [], ?_, nofun, by simp, Nat.toDigits_ne_nil,
      fun c hc => Decimal.isDigit_of_mem_digits hc, nofun, ?_⟩
    · exact (Decimal.text_ofNat n).trans (List.append_nil _).symm
    · rw [signed, if_neg (by decide), String.toList_ofList, Decimal.ofDigits_digits]
      rfl
  | negSucc n =>
    refine ⟨[], "-", Decimal.digits (n + 1), [], ?_, nofun, by simp, Nat.toDigits_ne_nil,
      fun c hc => Decimal.isDigit_of_mem_digits hc, nofun, ?_⟩
    · rw [Decimal.text_negSucc, List.append_nil]
      rfl
    · rw [signed, if_pos rfl, String.toList_ofList, Decimal.ofDigits_digits]
      rfl

theorem parse_ulpm_text (h : isSeconds n = true) : parse ("ULPM " ++ Decimal.text n) = sleep n := by
  refine (parse_eq_iff_spells (by rintro _ ⟨⟩)).2 ⟨?_, spells_sleep_iff.2
    ⟨(Decimal.text n).toList, String.toList_append, leadingInteger?_text n, h⟩⟩
  have hsize := Decimal.size_text_le h
  rw [Text.size, String.toList_append, Text.octets_append]
  exact Nat.le_trans (Nat.add_le_add_left hsize _) (by decide)

theorem firstWord?_word (h : IsWord version) :
    Text.firstWord? version.toList = some version.toList := by
  refine Text.firstWord?_eq_some_iff.2 ⟨[], [], (List.append_nil _).symm, nofun, ?_, h.2, nofun⟩
  intro hnil
  exact h.1 (String.toList_eq_nil_iff.1 hnil)

theorem parse_upgrade_word (h : IsWord version) (hsize : Text.size version ≤ 152) :
    parse ("UPGRADE " ++ version) = upgrade version := by
  refine (parse_eq_iff_spells (by rintro _ ⟨⟩)).2 ⟨?_, spells_upgrade_iff.2
    ⟨version.toList, String.toList_append, firstWord?_word h⟩⟩
  rw [Text.size, String.toList_append, Text.octets_append]
  exact Nat.le_trans (Nat.add_le_add_left hsize _) (by decide)

/-! ### Arguments -/

/-- The version of an upgrade is a word of the text, and short enough to stand behind the key word. -/
theorem version_of_parse (h : parse body = upgrade version) :
    IsWord version ∧ version.toList <:+: body.toList ∧ Text.size version ≤ 152 := by
  obtain ⟨hsize, hspells⟩ := (parse_eq_iff_spells (by rintro _ ⟨⟩)).1 h
  obtain ⟨rest, hbody, hword⟩ := spells_upgrade_iff.1 hspells
  obtain ⟨blanks, after, rfl, -, hne, hblank, -⟩ := Text.firstWord?_eq_some_iff.1 hword
  refine ⟨⟨fun he => hne (he ▸ rfl), hblank⟩, ⟨"UPGRADE ".toList ++ blanks, after, ?_⟩, ?_⟩
  · rw [hbody]
    simp only [List.append_assoc]
  · rw [Text.size, hbody] at hsize
    simp only [Text.octets_append] at hsize
    have hkey : Text.octets "UPGRADE ".toList = 8 := by decide
    rw [textLimit, hkey] at hsize
    rw [Text.size]
    omega

theorem isSeconds_of_parse (h : parse body = sleep n) : isSeconds n = true := by
  obtain ⟨-, hspells⟩ := (parse_eq_iff_spells (by rintro _ ⟨⟩)).1 h
  obtain ⟨-, -, -, hrange⟩ := spells_sleep_iff.1 hspells
  exact hrange

/-- The word that stands in front of the argument of a command. -/
def key : Command → String
  | upgrade _ => "UPGRADE "
  | reboot => "REBOOT"
  | sleep _ => "ULPM "
  | unknown _ => ""

/-- What may be launched for a command of a text. The script is fixed by the settings and the kind of
the command. -/
inductive Confined (settings : Settings) (body : String) : Command → Action → Prop
  | upgrade {version : String} (hword : IsWord version) (hpiece : version.toList <:+: body.toList) :
      Confined settings body (upgrade version)
        ⟨settings.scriptsDir, ⟨settings.upgradeScript, [version]⟩⟩
  | reboot : Confined settings body reboot ⟨settings.rebootDir, ⟨settings.rebootCommand, []⟩⟩
  | sleep {n : Int} {numeral : String} (hword : IsWord numeral) (hnumeral : IsNumeral n numeral)
      (hrange : 1 ≤ n ∧ n ≤ 2147483647) :
      Confined settings body (sleep n) ⟨settings.scriptsDir, ⟨settings.ulpmScript, [numeral]⟩⟩

theorem confined_of_parse (h : Action.ofCommand? settings (parse body) = some action) :
    Confined settings body (parse body) action := by
  cases hc : parse body with
  | upgrade version =>
    rw [hc] at h
    cases h
    obtain ⟨hword, hpiece, -⟩ := version_of_parse hc
    exact .upgrade hword hpiece
  | reboot =>
    rw [hc] at h
    cases h
    exact .reboot
  | sleep n =>
    have hrange := isSeconds_of_parse hc
    simp only [isSeconds, Bool.and_eq_true, decide_eq_true_eq] at hrange
    rw [hc, Action.ofCommand?] at h
    split at h
    · next hpos =>
      cases h
      have hnumeral := Decimal.isNumeral_text hpos
      exact .sleep (hnumeral.isWord hpos) hnumeral ⟨hpos, hrange.2⟩
    · cases h
  | unknown text =>
    rw [hc] at h
    cases h

theorem parse_key_argument (h : Action.ofCommand? settings (parse body) = some action)
    {argument : String} (hmem : argument ∈ action.invocation.args) :
    parse ((parse body).key ++ argument) = parse body := by
  cases hc : parse body with
  | upgrade version =>
    rw [hc] at h
    cases h
    rw [List.mem_singleton.1 hmem]
    obtain ⟨hword, -, hsize⟩ := version_of_parse hc
    exact parse_upgrade_word hword hsize
  | reboot =>
    rw [hc] at h
    cases h
    cases hmem
  | sleep n =>
    rw [hc, Action.ofCommand?] at h
    split at h
    · cases h
      rw [List.mem_singleton.1 hmem]
      exact parse_ulpm_text (isSeconds_of_parse hc)
    · cases h
  | unknown text =>
    rw [hc] at h
    cases h

/-- What a text launches is confined, and its argument is canonical: behind the key word it stands for
the same command and launches the same. Every integer of 32 bits is read back as it is written, and so
is every word that fits one message behind its key word. -/
theorem launches_confined (settings : Settings) (body : String) :
    (∀ action, Action.ofCommand? settings (parse body) = some action →
      Confined settings body (parse body) action ∧
        ∀ argument ∈ action.invocation.args,
          parse ((parse body).key ++ argument) = parse body ∧
          Action.ofCommand? settings (parse ((parse body).key ++ argument)) = some action) ∧
    (∀ n : Int32, parse ("ULPM " ++ Decimal.text n.toInt) = sleep n.toInt) ∧
    ∀ version, IsWord version → Text.size version ≤ 152 →
      parse ("UPGRADE " ++ version) = upgrade version := by
  refine ⟨fun action h => ⟨confined_of_parse h, fun argument hmem => ?_⟩, fun n => ?_,
    fun version hword hsize => parse_upgrade_word hword hsize⟩
  · have hagain := parse_key_argument h hmem
    exact ⟨hagain, by rw [hagain, h]⟩
  · refine parse_ulpm_text ?_
    have hlow := n.le_toInt
    have hhigh := n.toInt_lt
    simp only [isSeconds, Bool.and_eq_true, decide_eq_true_eq]
    omega

/-- A number may be spelled with blanks, a sign, zeros in front and a text behind; none of it reaches
the script. -/
theorem launches_confined_numeral :
    let body := "ULPM \u2003+0030s; reboot"
    let action : Action := ⟨"/home/root/sms_scripts", ⟨"./ulpm.sh", ["30"]⟩⟩
    Action.ofCommand? .default (parse body) = some action ∧
      Confined .default body (parse body) action ∧ parse "ULPM 30" = parse body ∧
      IsWord "v\u00e9;rm" ∧ parse "UPGRADE v\u00e9;rm" = upgrade "v\u00e9;rm" := by
  intro body action
  have hc : parse body = sleep 30 := by decide +kernel
  have h : Action.ofCommand? .default (parse body) = some action := by
    rw [hc]
    decide +kernel
  have hword : IsWord "v\u00e9;rm" := by
    refine ⟨by decide, fun c hc => ?_⟩
    simpa using List.all_eq_true.1
      (show "v\u00e9;rm".toList.all (fun c => !Text.isBlank c) = true by decide) c hc
  obtain ⟨hconfined, -, hupgrade⟩ := launches_confined .default body
  obtain ⟨hshape, hagain⟩ := hconfined action h
  have hback := (hagain "30" List.mem_cons_self).1
  rw [hc] at hback
  exact ⟨h, hshape, hback.trans hc.symm, hword, hupgrade _ hword (by decide)⟩

end Command

end BuoyGateway
