import BuoyGateway.Proofs.Json.Members
import BuoyGateway.Proofs.Steps
import BuoyGateway.Proofs.Text.Utf8
import BuoyGateway.Settings.File

/-!
# Settings overlay the defaults

A file of settings has any of ten keys, in any order and among any other members. The settings that
are read from it have the values that are given there, and the defaults in all other places. Each
key is a field of the record, so that one step of reading sets one key: `holds` is what the steps
keep.
-/

namespace BuoyGateway

open Json (Blank IsValue ShowsItems ShowsMembers ShowsObject ShowsString ShowsStrings)

/-! ### Invocations -/

namespace Invocation

/-- The members spell the invocation: its program, its arguments unless there are none, and any
others. -/
structure Written (members : List (String × List Char)) (i : Invocation) : Prop where
  program : ∀ text, ("program", text) ∈ members → ShowsString text i.program
  args : ∀ text, ("args", text) ∈ members → ShowsStrings text i.args
  noArgs : "args" ∉ members.map Prod.fst → i.args = []
  other : ∀ member ∈ members, member.1 ≠ "program" → member.1 ≠ "args" → IsValue member.2
  programOnce : (members.map Prod.fst).count "program" = 1
  argsOnce : (members.map Prod.fst).count "args" ≤ 1

/-- The text spells the invocation, as an object or as a list. -/
inductive Shows : List Char → Invocation → Prop
  | object {s : List Char} {members : List (String × List Char)} {i : Invocation} :
      ShowsMembers s members → Written members i → Shows ('\x7b' :: (s ++ ['\x7d'])) i
  | program {s text : List Char} {program : String} :
      ShowsItems s [text] → ShowsString text program → Shows ('[' :: (s ++ [']'])) ⟨program, []⟩
  | list {s text text' : List Char} {program : String} {args : List String} :
      ShowsItems s [text, text'] → ShowsString text program → ShowsStrings text' args →
      Shows ('[' :: (s ++ [']'])) ⟨program, args⟩

/-- Of the fields seen, the record has the values; arguments that are not seen are none. -/
def holds (i : Invocation) (seen : List String) (j : Invocation) : Prop :=
  ("program" ∈ seen → j.program = i.program) ∧ ("args" ∈ seen → j.args = i.args) ∧
    ("args" ∉ seen → j.args = [])

theorem Written.fits {members : List (String × List Char)} {i : Invocation}
    (h : Written members i) : shape.Fits i.holds members where
  field := by
    intro field hfield text htext seen j ⟨hprogram, hargs, hnone⟩
    simp only [shape, List.mem_cons, List.not_mem_nil, or_false] at hfield
    rcases hfield with rfl | rfl
    · refine ⟨{ j with program := i.program },
        (Json.accepts_string .path (h.program text htext)).map _, fun _ => rfl, ?_, ?_⟩
      · intro hmem
        exact hargs (List.mem_of_ne_of_mem (show "args" ≠ "program" by decide) hmem)
      · intro hmem
        exact hnone fun hold => hmem (List.mem_cons_of_mem _ hold)
    · refine ⟨{ j with args := i.args },
        (Json.accepts_strings .string (h.args text htext)).map _, ?_, fun _ => rfl, ?_⟩
      · intro hmem
        exact hprogram (List.mem_of_ne_of_mem (show "program" ≠ "args" by decide) hmem)
      · intro hmem
        exact absurd List.mem_cons_self hmem
  other := by
    intro member hmember hother
    simp only [shape, Json.Field.of, List.forall_mem_cons] at hother
    exact h.other member hmember hother.1.symm hother.2.1.symm
  once := by
    intro field hfield
    simp only [shape, List.mem_cons, List.not_mem_nil, or_false] at hfield
    rcases hfield with rfl | rfl
    · exact Nat.le_of_eq h.programOnce
    · exact h.argsOnce

theorem Shows.accepts {text : List Char} {i : Invocation} (h : Shows text i) :
    shape.reader.Accepts text i := by
  cases h with
  | @object s members _ hs hwritten =>
    have hprogram : "program" ∈ members.map Prod.fst :=
      List.count_pos_iff.1 (by rw [hwritten.programOnce]; decide)
    have hrequired : ∀ field ∈ shape.fields, field.required = true →
        field.name ∈ members.map Prod.fst := by
      intro field hfield hrequired
      simp only [shape, List.mem_cons, List.not_mem_nil, or_false] at hfield
      rcases hfield with rfl | rfl
      · exact hprogram
      · cases hrequired
    obtain ⟨seen, j, haccepts, ⟨hj, hargs, hnone⟩, hseen⟩ :=
      Json.Shape.accepts_object hs hwritten.fits ⟨nofun, nofun, fun _ => rfl⟩ hrequired
    simp only [shape, Json.Field.of, List.forall_mem_cons] at hseen
    have hprogram' : j.program = i.program := hj (hseen.1.2 hprogram)
    have hargs' : j.args = i.args := by
      by_cases hgiven : "args" ∈ members.map Prod.fst
      · exact hargs (hseen.2.1.2 hgiven)
      · rw [hnone (fun hmem => hgiven (hseen.2.1.1 hmem)), hwritten.noArgs hgiven]
    have hj' : j = i := by
      cases i
      cases j
      cases hprogram'
      cases hargs'
      rfl
    exact hj' ▸ haccepts
  | program hs hprogram =>
    have hfills : shape.Fills shape.fields shape.start [_] ⟨_, []⟩ :=
      .next ((Json.accepts_string .path hprogram).map _)
        (.done fun field hfield => List.mem_singleton.1 hfield ▸ rfl)
    exact Json.Shape.accepts_list hs hfills fun text htext =>
      List.mem_singleton.1 htext ▸ hprogram.starts
  | list hs hprogram hargs =>
    have hfills : shape.Fills shape.fields shape.start [_, _] ⟨_, _⟩ :=
      .next ((Json.accepts_string .path hprogram).map _)
        (.next ((Json.accepts_strings .string hargs).map _) (.done nofun))
    exact Json.Shape.accepts_list hs hfills
      (List.forall_mem_cons.2 ⟨hprogram.starts, List.forall_mem_singleton.2 hargs.starts⟩)

end Invocation

/-! ### Settings -/

namespace Settings

inductive Key
  | bootDir
  | bootCommand
  | scriptsDir
  | upgradeScript
  | rebootDir
  | rebootCommand
  | ulpmScript
  | spoolDir
  | storageCapacity
  | pollInterval
  deriving DecidableEq

def Key.name : Key → String
  | bootDir => "boot_dir"
  | bootCommand => "boot_command"
  | scriptsDir => "scripts_dir"
  | upgradeScript => "upgrade_script"
  | rebootDir => "reboot_dir"
  | rebootCommand => "reboot_command"
  | ulpmScript => "ulpm_script"
  | spoolDir => "spool_dir"
  | storageCapacity => "storage_capacity"
  | pollInterval => "poll_interval_ms"

def Key.Value : Key → Type
  | bootCommand => Invocation
  | storageCapacity => UInt64
  | pollInterval => UInt64
  | _ => String

def Key.Shows : (key : Key) → List Char → key.Value → Prop
  | bootDir => ShowsString
  | bootCommand => Invocation.Shows
  | scriptsDir => ShowsString
  | upgradeScript => ShowsString
  | rebootDir => ShowsString
  | rebootCommand => ShowsString
  | ulpmScript => ShowsString
  | spoolDir => ShowsString
  | storageCapacity => fun text n => text = Decimal.digits n.toNat
  | pollInterval => fun text n => text = Decimal.digits n.toNat

def get (s : Settings) : (key : Key) → key.Value
  | .bootDir => s.bootDir
  | .bootCommand => s.bootCommand
  | .scriptsDir => s.scriptsDir
  | .upgradeScript => s.upgradeScript
  | .rebootDir => s.rebootDir
  | .rebootCommand => s.rebootCommand
  | .ulpmScript => s.ulpmScript
  | .spoolDir => s.spoolDir
  | .storageCapacity => s.storageCapacity
  | .pollInterval => s.pollInterval

def set (s : Settings) : (key : Key) → key.Value → Settings
  | .bootDir, bootDir => { s with bootDir }
  | .bootCommand, bootCommand => { s with bootCommand }
  | .scriptsDir, scriptsDir => { s with scriptsDir }
  | .upgradeScript, upgradeScript => { s with upgradeScript }
  | .rebootDir, rebootDir => { s with rebootDir }
  | .rebootCommand, rebootCommand => { s with rebootCommand }
  | .ulpmScript, ulpmScript => { s with ulpmScript }
  | .spoolDir, spoolDir => { s with spoolDir }
  | .storageCapacity, storageCapacity => { s with storageCapacity }
  | .pollInterval, pollInterval => { s with pollInterval }

theorem get_set_self (s : Settings) (key : Key) (value : key.Value) :
    (s.set key value).get key = value := by
  cases key <;> rfl

theorem get_set_of_ne (s : Settings) {key other : Key} (h : other ≠ key) (value : key.Value) :
    (s.set key value).get other = s.get other := by
  cases key <;> cases other <;> first | rfl | exact absurd rfl h

theorem eq_of_get {s t : Settings} (h : ∀ key, s.get key = t.get key) : s = t := by
  cases s
  cases t
  cases h .bootDir
  cases h .bootCommand
  cases h .scriptsDir
  cases h .upgradeScript
  cases h .rebootDir
  cases h .rebootCommand
  cases h .ulpmScript
  cases h .spoolDir
  cases h .storageCapacity
  cases h .pollInterval
  rfl

theorem Key.eq_of_name {key other : Key} (h : key.name = other.name) : key = other := by
  cases key <;> cases other <;> first | rfl | exact absurd h (by decide)

theorem exists_key {field : Json.Field Settings} (h : field ∈ shape.fields) :
    ∃ key : Key, field.name = key.name ∧ ∀ s text value, key.Shows text value →
      (field.read s).Accepts text (s.set key value) := by
  have hpath : ∀ (name : String) (set : Settings → String → Settings) s text value,
      ShowsString text value → ((pathField name set).read s).Accepts text (set s value) :=
    fun _ _ _ _ _ hvalue => (Json.accepts_string .path hvalue).map _
  have hword : ∀ (wanted : Json.Wanted) (name : String) (set : Settings → UInt64 → Settings) s text
      value, text = Decimal.digits value.toNat →
      ((Json.Field.of name false (Json.word wanted) set).read s).Accepts text (set s value) := by
    rintro wanted name set s _ value rfl
    exact (Json.accepts_word wanted value).map _
  simp only [shape, List.mem_cons, List.not_mem_nil, or_false] at h
  rcases h with rfl | rfl | rfl | rfl | rfl | rfl | rfl | rfl | rfl | rfl
  · exact ⟨.bootDir, rfl, hpath _ _⟩
  · exact ⟨.bootCommand, rfl, fun _ _ _ hvalue => (Invocation.Shows.accepts hvalue).map _⟩
  · exact ⟨.scriptsDir, rfl, hpath _ _⟩
  · exact ⟨.upgradeScript, rfl, hpath _ _⟩
  · exact ⟨.rebootDir, rfl, hpath _ _⟩
  · exact ⟨.rebootCommand, rfl, hpath _ _⟩
  · exact ⟨.ulpmScript, rfl, hpath _ _⟩
  · exact ⟨.spoolDir, rfl, hpath _ _⟩
  · exact ⟨.storageCapacity, rfl, hword _ _ _⟩
  · exact ⟨.pollInterval, rfl, hword _ _ _⟩

theorem exists_field (key : Key) : ∃ field ∈ shape.fields, field.name = key.name := by
  have hnames : key.name ∈ shape.fields.map Json.Field.name := by cases key <;> decide
  exact List.mem_map.1 hnames

/-- The members spell settings: each of them at most once, with a value of its kind, among any
others. -/
structure Written (members : List (String × List Char)) : Prop where
  value : ∀ (key : Key) text, (key.name, text) ∈ members → ∃ value, key.Shows text value
  other : ∀ member ∈ members, (∀ key : Key, key.name ≠ member.1) → IsValue member.2
  once : ∀ key : Key, (members.map Prod.fst).count key.name ≤ 1

def Gives (members : List (String × List Char)) (key : Key) (value : key.Value) : Prop :=
  ∃ text, (key.name, text) ∈ members ∧ key.Shows text value

theorem Written.exists_gives {members : List (String × List Char)} (h : Written members) {key : Key}
    (hkey : key.name ∈ members.map Prod.fst) : ∃ value, Gives members key value := by
  obtain ⟨⟨name, text⟩, htext, rfl⟩ := List.mem_map.1 hkey
  obtain ⟨value, hvalue⟩ := h.value key text htext
  exact ⟨value, text, htext, hvalue⟩

/-- The settings are those that the members give under the keys seen, and the defaults elsewhere. -/
def holds (members : List (String × List Char)) (seen : List String) (s : Settings) : Prop :=
  ∀ key : Key, (key.name ∈ seen → ∀ value, Gives members key value → s.get key = value) ∧
    (key.name ∉ seen → s.get key = default.get key)

theorem eq_of_count_le_one {members : List (String × List Char)} {key : String}
    {text text' : List Char} (h : (members.map Prod.fst).count key ≤ 1)
    (htext : (key, text) ∈ members) (htext' : (key, text') ∈ members) : text = text' := by
  induction members with
  | nil => cases htext
  | cons member members ih =>
    rw [List.map_cons] at h
    have hhead : ∀ more, (key, more) ∈ members → member.1 ≠ key := by
      rintro more hmore rfl
      have hpos : 0 < (members.map Prod.fst).count member.1 :=
        List.count_pos_iff.2 (List.mem_map.2 ⟨_, hmore, rfl⟩)
      rw [List.count_cons_self] at h
      omega
    rcases List.mem_cons.1 htext with rfl | hmem
    · rcases List.mem_cons.1 htext' with hsame | hmem'
      · cases hsame
        rfl
      · exact absurd rfl (hhead text' hmem')
    · rcases List.mem_cons.1 htext' with rfl | hmem'
      · exact absurd rfl (hhead text hmem)
      · exact ih (Nat.le_trans (List.count_le_count_cons) h) hmem hmem'

theorem Written.fits {members : List (String × List Char)} (h : Written members) :
    shape.Fits (holds members) members where
  field := by
    intro field hfield text htext seen s hs
    obtain ⟨key, hname, haccepts⟩ := exists_key hfield
    rw [hname] at htext ⊢
    obtain ⟨value, hvalue⟩ := h.value key text htext
    refine ⟨s.set key value, haccepts s text value hvalue, fun other => ?_⟩
    by_cases hother : other = key
    · subst hother
      refine ⟨?_, fun hnew => absurd List.mem_cons_self hnew⟩
      rintro - value' ⟨text', htext', hvalue'⟩
      cases eq_of_count_le_one (h.once other) htext htext'
      -- The reader takes the text for one value, whatever it is said to spell.
      have hsame := (haccepts s text value hvalue).unique (haccepts s text value' hvalue')
      rw [hsame, get_set_self]
    · have hne : other.name ≠ key.name := fun hname => hother (Key.eq_of_name hname)
      rw [get_set_of_ne s hother]
      exact ⟨fun hseen => (hs other).1 (List.mem_of_ne_of_mem hne hseen),
        fun hnew => (hs other).2 fun hseen => hnew (List.mem_cons_of_mem _ hseen)⟩
  other := by
    intro member hmember hother
    refine h.other member hmember fun key => ?_
    obtain ⟨field, hfield, hname⟩ := exists_field key
    exact hname ▸ hother field hfield
  once := by
    intro field hfield
    obtain ⟨key, hname, -⟩ := exists_key hfield
    exact hname ▸ h.once key

theorem read_shown {text : List Char} {members : List (String × List Char)}
    (htext : ShowsObject text members) (hmembers : Written members) :
    ∃ s, read text = .ok s ∧ ∀ key : Key, (∀ value, Gives members key value → s.get key = value) ∧
      (key.name ∉ members.map Prod.fst → s.get key = default.get key) := by
  cases htext with
  | mk hgap hs hgap' =>
    have hstart : holds members [] shape.start := fun _ => ⟨nofun, fun _ => rfl⟩
    have hnone : ∀ field ∈ shape.fields, field.required = false := by
      simp [shape, pathField, Json.Field.of]
    obtain ⟨seen, s, haccepts, hs, hseen⟩ := Json.Shape.accepts_object hs hmembers.fits hstart
      fun field hfield hrequired => absurd (hnone field hfield) (by simp [hrequired])
    refine ⟨s, haccepts.parse hgap hgap', fun key => ?_⟩
    obtain ⟨field, hfield, hname⟩ := exists_field key
    have hkey := hseen field hfield
    rw [hname] at hkey
    refine ⟨?_, fun hnot => (hs key).2 fun hmem => hnot (hkey.1 hmem)⟩
    rintro value ⟨given, hgiven, hvalue⟩
    exact (hs key).1 (hkey.2 (List.mem_map.2 ⟨_, hgiven, rfl⟩)) value ⟨given, hgiven, hvalue⟩

theorem load_of_read {disk : Disk} {path : String} {text : List Char}
    (hfile : disk.read path = .ok (Text.encode text)) :
    load disk path = (read text).mapError .json := by
  have htext : disk.readText path = .ok text :=
    bind_eq_ok.2 ⟨_, hfile, by rw [Text.decode?_encode]; rfl⟩
  rw [load, htext]
  rfl

/-- A file of settings has any of the keys, in any order, and any other members with well-formed
values. It gives settings that are as the file says where it has a key, and as they are by default
elsewhere. So files that give the same values give the same settings. -/
theorem load_overlays {disk : Disk} {path : String} {text : List Char}
    {members : List (String × List Char)} (hfile : disk.read path = .ok (Text.encode text))
    (htext : ShowsObject text members) (hmembers : Written members) :
    ∃ s, load disk path = .ok s ∧
      (∀ key : Key, (∀ value, Gives members key value → s.get key = value) ∧
        (key.name ∉ members.map Prod.fst → s.get key = default.get key)) ∧
      ∀ path' text' members', disk.read path' = .ok (Text.encode text') →
        ShowsObject text' members' → Written members' →
        (∀ (key : Key) value, Gives members' key value ↔ Gives members key value) →
        load disk path' = .ok s := by
  obtain ⟨s, hread, hs⟩ := read_shown htext hmembers
  refine ⟨s, by rw [load_of_read hfile, hread]; rfl, hs, ?_⟩
  intro path' text' members' hfile' htext' hmembers' hsame
  obtain ⟨s', hread', hs'⟩ := read_shown htext' hmembers'
  have hkeys : s' = s := by
    refine eq_of_get fun key => ?_
    by_cases hkey : ∃ value, Gives members key value
    · obtain ⟨value, hvalue⟩ := hkey
      rw [(hs key).1 value hvalue, (hs' key).1 value ((hsame key value).2 hvalue)]
    · have hnot : key.name ∉ members.map Prod.fst :=
        fun hmem => hkey (hmembers.exists_gives hmem)
      have hnot' : key.name ∉ members'.map Prod.fst := fun hmem =>
        hkey ((hmembers'.exists_gives hmem).imp fun value => (hsame key value).1)
      rw [(hs key).2 hnot, (hs' key).2 hnot']
  rw [load_of_read hfile', hread', hkeys]
  rfl

/-- A command without arguments behind the spool, which comes after it in the record, and a member
that is no setting in front of both. -/
theorem load_overlays_among_others :
    let text := ("\x7b\"notes\":[\x7b\"a\":[]\x7d],\"spool_dir\":\"/s\"," ++
      "\"boot_command\":\x7b\"program\":\"sh\"\x7d\x7d").toList
    let disk := (Disk.blank (.ofSeconds 0)).insert ["settings.json"]
      ⟨.file (Text.encode text) false, .ofSeconds 0⟩
    disk.read "settings.json" = .ok (Text.encode text) ∧ ∃ s, load disk "settings.json" = .ok s ∧
      s.get .spoolDir = "/s" ∧ s.get .bootCommand = (⟨"sh", []⟩ : Invocation) ∧
        s.get .bootDir = default.get .bootDir ∧ s.get .storageCapacity = (30 : UInt64) := by
  intro text disk
  have hfile : disk.read "settings.json" = .ok (Text.encode text) := by decide +kernel
  let notes := "[\x7b\"a\":[]\x7d]".toList
  let spool := "\"/s\"".toList
  let command := "\x7b\"program\":\"sh\"\x7d".toList
  have hstring : ∀ s ∈ ["notes", "spool_dir", "boot_command", "program", "/s", "sh"],
      Json.Quoted s.toList s.toList := by
    intro s hs
    refine Json.quoted_self ?_
    revert s
    decide
  have hnotes : IsValue notes := by
    have hinner : IsValue "[]".toList := .noItems Json.blank_nil
    have hkey : Json.Quotable ['a'] := .plain (by decide) (by decide) (by decide) .done
    have houter : IsValue "\x7b\"a\":[]\x7d".toList :=
      .object (.lastMember Json.blank_nil hkey Json.blank_nil hinner.item)
    exact .list (.lastItem houter.item)
  have hspool : ShowsString spool "/s" := .quoted (hstring "/s" (by decide))
  have hcommand : Invocation.Shows command ⟨"sh", []⟩ := by
    have hprogram : ShowsString "\"sh\"".toList "sh" := .quoted (hstring "sh" (by decide))
    have hmember : Json.ShowsMember "\"program\":\"sh\"".toList ("program", "\"sh\"".toList) :=
      .compact (hstring "program" (by decide))
    have hwritten : Invocation.Written [("program", "\"sh\"".toList)] ⟨"sh", []⟩ := {
      program := by simpa using hprogram
      args := by simp
      noArgs := fun _ => rfl
      other := by simp
      programOnce := by decide
      argsOnce := by decide }
    exact .object (.last hmember) hwritten
  have htext : ShowsObject text
      [("notes", notes), ("spool_dir", spool), ("boot_command", command)] := by
    have hnotes : Json.ShowsMember ("\"notes\":".toList ++ notes) ("notes", notes) :=
      .compact (hstring "notes" (by decide))
    have hspool : Json.ShowsMember ("\"spool_dir\":".toList ++ spool) ("spool_dir", spool) :=
      .compact (hstring "spool_dir" (by decide))
    have hcommand : Json.ShowsMember ("\"boot_command\":".toList ++ command)
        ("boot_command", command) := .compact (hstring "boot_command" (by decide))
    exact .mk Json.blank_nil (.more hnotes (.more hspool (.last hcommand))) Json.blank_nil
  have hmembers : Written [("notes", notes), ("spool_dir", spool), ("boot_command", command)] := {
    value := by
      intro key given hgiven
      simp only [List.mem_cons, Prod.mk.injEq, List.not_mem_nil, or_false] at hgiven
      rcases hgiven with ⟨hkey, -⟩ | ⟨hkey, rfl⟩ | ⟨hkey, rfl⟩
      · exact absurd hkey (by cases key <;> decide)
      · have hsame : key = .spoolDir := Key.eq_of_name hkey
        exact hsame ▸ ⟨_, hspool⟩
      · have hsame : key = .bootCommand := Key.eq_of_name hkey
        exact hsame ▸ ⟨_, hcommand⟩
    other := by
      simp only [List.forall_mem_cons]
      exact ⟨fun _ => hnotes, fun h => absurd rfl (h .spoolDir),
        fun h => absurd rfl (h .bootCommand), nofun⟩
    once := by
      intro key
      cases key <;> decide }
  obtain ⟨s, hload, hs, -⟩ := load_overlays hfile htext hmembers
  exact ⟨hfile, s, hload, (hs .spoolDir).1 _ ⟨spool, by simp [Key.name], hspool⟩,
    (hs .bootCommand).1 _ ⟨command, by simp [Key.name], hcommand⟩,
    (hs .bootDir).2 (by decide), (hs .storageCapacity).2 (by decide)⟩

end Settings

end BuoyGateway
