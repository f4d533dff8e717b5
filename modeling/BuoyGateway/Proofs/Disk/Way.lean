import BuoyGateway.Proofs.Disk.View

/-!
# The ways of paths

A walk is decided by its steps alone, as far as it goes: `trail` lists the places that it leaves and
`goal` is where it ends. A disk only decides whether all of them are directories. What keeps the
directories on the way of a path keeps its location.
-/

namespace BuoyGateway

namespace Path

theorem isAbsolute_empty : isAbsolute "" = false := rfl

theorem isAbsolute_append {base part : String} (h : base ≠ "") :
    isAbsolute (base ++ part) = isAbsolute base := by
  have hl : base.toList ≠ [] := fun he => h (String.toList_eq_nil_iff.1 he)
  obtain ⟨c, rest, hc⟩ := List.exists_cons_of_ne_nil hl
  simp [isAbsolute, hc]

theorem isAbsolute_join (base : String) {part : String} (hp : isAbsolute part = false) :
    isAbsolute (join base part) = isAbsolute base := by
  unfold join
  rw [if_neg (by simp [hp])]
  by_cases h : base = ""
  · subst h
    simp [hp, isAbsolute_empty]
  · split
    · exact isAbsolute_append h
    · rw [String.append_assoc, isAbsolute_append h]

theorem steps_append_slash (base part : String) :
    steps (base ++ "/" ++ part) = steps base ++ steps part := by
  have h : (base ++ "/" ++ part).toList = base.toList ++ '/' :: part.toList := by simp
  simp only [steps, parts, h, List.splitOn_append_cons_self, List.map_append, List.filter_append]

theorem steps_name {name : String} (hs : '/' ∉ name.toList) (h : name ≠ "") (hd : name ≠ ".") :
    steps name = [name] := by
  simp [steps, parts, List.splitOn_eq_singleton hs, h, hd]

/-- A slash at the end of a path leads nowhere. -/
theorem steps_of_getLast {base : String} (h : base.toList.getLast? = some '/') (part : String) :
    steps (base ++ part) = steps base ++ steps part := by
  obtain ⟨front, hf⟩ := List.getLast?_eq_some_iff.1 h
  have hb : base = String.ofList front ++ "/" ++ "" := by
    rw [← String.toList_inj]
    simp [hf]
  have he : steps "" = [] := by decide
  have hp : String.ofList front ++ "/" ++ "" ++ part = String.ofList front ++ "/" ++ part := by
    simp
  rw [hb, hp, steps_append_slash, steps_append_slash, he, List.append_nil]

theorem steps_join (base : String) {name : String} (hs : '/' ∉ name.toList) (h : name ≠ "")
    (hd : name ≠ ".") : steps (join base name) = steps base ++ [name] := by
  have hp : isAbsolute name = false := by
    unfold isAbsolute
    rw [decide_eq_false_iff_not]
    intro he
    exact hs (List.mem_of_head? he)
  unfold join
  rw [if_neg (by simp [hp])]
  split
  · next hb =>
    simp only [Bool.or_eq_true, decide_eq_true_eq] at hb
    rcases hb with rfl | hb
    · rw [String.empty_append, steps_name hs h hd]
      rfl
    · rw [steps_of_getLast hb, steps_name hs h hd]
  · rw [steps_append_slash, steps_name hs h hd]

def after (loc : Location) (step : String) : Location := if step = ".." then loc.tail else step :: loc

def trail : Location → List String → List Location
  | _, [] => []
  | loc, step :: steps => loc :: trail (after loc step) steps

def goal : Location → List String → Location
  | loc, [] => loc
  | loc, step :: steps => goal (after loc step) steps

theorem trail_append (loc : Location) (steps more : List String) :
    trail loc (steps ++ more) = trail loc steps ++ trail (goal loc steps) more := by
  induction steps generalizing loc with
  | nil => rfl
  | cons step steps ih => simp only [List.cons_append, trail, goal, ih]

theorem goal_append (loc : Location) (steps more : List String) :
    goal loc (steps ++ more) = goal (goal loc steps) more := by
  induction steps generalizing loc with
  | nil => rfl
  | cons step steps ih => simp only [List.cons_append, goal, ih]

end Path

namespace Disk

open BuoyGateway.Path (trail goal)

/-- A step that is no climb is a name of a length that a disk takes. -/
def fits (step : String) : Prop := step = ".." ∨ Text.size step ≤ nameLimit

theorem walk_eq_ok_iff {disk : Disk} {start loc : Location} {steps : List String} :
    disk.walk start steps = .ok loc ↔
      goal start steps = loc ∧ (∀ l ∈ trail start steps, disk.isDirectory l = true) ∧
        ∀ step ∈ steps, fits step := by
  induction steps generalizing start with
  | nil => simp [walk, goal, trail]
  | cons step steps ih =>
    simp only [walk, goal, trail, List.forall_mem_cons]
    cases hn : disk.find? start with
    | none =>
      have hd : disk.isDirectory start = false := by simp [isDirectory, hn]
      simp [hd]
    | some node =>
      by_cases hdir : node.isDirectory = true
      · have hd : disk.isDirectory start = true := by simp [isDirectory, hn, hdir]
        simp only [hdir, Bool.not_true, Bool.false_eq_true, ↓reduceIte, hd, true_and]
        by_cases hc : step = ".."
        · subst hc
          simp [ih, fits, Path.after]
        · simp only [hc, ↓reduceIte, fits, false_or, Path.after]
          by_cases hl : nameLimit < Text.size step
          · have : ¬ Text.size step ≤ nameLimit := by omega
            simp [hl, this]
          · have : Text.size step ≤ nameLimit := by omega
            simp [hl, this, ih, fits]
      · have hd : disk.isDirectory start = false := by simp [isDirectory, hn, hdir]
        simp [hdir, hd]

theorem locateDirectory_eq_ok_iff {disk : Disk} {path : String} {loc : Location} :
    disk.locateDirectory path = .ok loc ↔
      '\x00' ∉ path.toList ∧ path ≠ "" ∧ Text.size path ≤ pathLimit ∧
        disk.walk (disk.origin path) (Path.steps path) = .ok loc ∧
        disk.isDirectory loc = true := by
  unfold locateDirectory locate
  by_cases hnul : '\x00' ∈ path.toList
  · simp [hnul]
  by_cases hempty : path = ""
  · simp [hempty]
  by_cases hsize : pathLimit < Text.size path
  · have : ¬ Text.size path ≤ pathLimit := by omega
    simp [hnul, hempty, hsize, this]
  have hle : Text.size path ≤ pathLimit := by omega
  simp only [hnul, hempty, hsize, ↓reduceIte]
  cases hw : disk.walk (disk.origin path) (Path.steps path) with
  | error e => simp
  | ok l =>
    cases hn : disk.find? l with
    | none =>
      have hd : disk.isDirectory l = false := by simp [isDirectory, hn]
      simp only [Option.any_none, Bool.and_false, Bool.false_eq_true, ↓reduceIte, hn,
        reduceCtorEq, false_iff]
      rintro ⟨-, -, -, hl, hdir⟩
      rw [Except.ok.inj hl] at hd
      rw [hd] at hdir
      cases hdir
    | some node =>
      by_cases hdir : node.isDirectory = true
      · have hd : disk.isDirectory l = true := by simp [isDirectory, hn, hdir]
        simp only [Option.any_some, hdir, Bool.not_true, Bool.and_false, Bool.false_eq_true,
          ↓reduceIte, hn]
        constructor
        · rintro h
          cases h
          exact ⟨by simp, hempty, hle, rfl, hd⟩
        · rintro ⟨-, -, -, h, -⟩
          exact h
      · have hd : disk.isDirectory l = false := by simp [isDirectory, hn, hdir]
        constructor
        · intro h
          by_cases hnamed : namesDirectory path = true <;> simp [hnamed, hn, hdir] at h
        · rintro ⟨-, -, -, hl, hdir'⟩
          rw [Except.ok.inj hl] at hd
          rw [hd] at hdir'
          cases hdir'

/-- A path leads to the same directory as long as the directories on its way are there. -/
theorem locateDirectory_of_trail {disk disk' : Disk} {path : String} {loc : Location}
    (h : disk.locateDirectory path = .ok loc) (hc : disk'.current = disk.current)
    (hd : ∀ l ∈ trail (disk.origin path) (Path.steps path), disk.isDirectory l = true →
      disk'.isDirectory l = true)
    (hl : disk'.isDirectory loc = true) : disk'.locateDirectory path = .ok loc := by
  rw [locateDirectory_eq_ok_iff] at h ⊢
  obtain ⟨hnul, hempty, hsize, hw, -⟩ := h
  have ho : disk'.origin path = disk.origin path := by simp only [origin, hc]
  refine ⟨hnul, hempty, hsize, ?_, hl⟩
  rw [walk_eq_ok_iff] at hw ⊢
  rw [ho]
  exact ⟨hw.1, fun l hm => hd l hm (hw.2.1 l hm), hw.2.2⟩

end Disk

end BuoyGateway
