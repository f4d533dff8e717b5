import BuoyGateway.SystemError
import BuoyGateway.Time.Instant
import BuoyGateway.Text.Clip

/-!
# Disks

A disk holds files and directories at locations, each with the time of its last change. It also
knows what the time is, where relative paths start, and which accesses its medium refuses, so that
what is said about the gateway holds for a medium that may fail at any point.

`find?` is the view through which the operations are described: `find?_insert` and `find?_erase`
say what they do to it.
-/

namespace BuoyGateway

/-- A place on a disk: the names from the root, the innermost first. -/
abbrev Location := List String

inductive Content
  | file (octets : List UInt8) (executable : Bool)
  | directory
  deriving DecidableEq, Repr

structure Node where
  content : Content
  modified : Time.Instant
  deriving DecidableEq, Repr

def Node.isDirectory (node : Node) : Bool := node.content == .directory

inductive Access
  | list
  | entry
  | read
  | inspect
  | makeDirectory
  | create
  | write
  | sync
  | rename
  | remove
  deriving DecidableEq, Repr

/-- The files and directories below the root, with the surroundings of their use. -/
structure Disk where
  entries : List (Location × Node)
  distinct : (entries.map Prod.fst).Nodup
  current : Location
  now : Time.Instant
  refuses : Access → Location → Option SystemError

namespace Disk

def blank (now : Time.Instant) : Disk := ⟨[], by simp, [], now, fun _ _ => none⟩

/-- What is at a location. The root is always a directory. -/
def find? (disk : Disk) (loc : Location) : Option Node :=
  if loc = [] then some ⟨.directory, disk.now⟩ else disk.entries.lookup loc

def isDirectory (disk : Disk) (loc : Location) : Bool := (disk.find? loc).any Node.isDirectory

/-- The names in a directory, in no particular order. -/
def names (disk : Disk) (dir : Location) : List String :=
  disk.entries.filterMap (fun entry =>
    match entry.1 with
    | name :: parent => if parent = dir then some name else none
    | [] => none)

/-- Puts a node at a location, in place of what was there. -/
def insert (disk : Disk) (loc : Location) (node : Node) : Disk :=
  { disk with
    entries := (loc, node) :: disk.entries.filter (fun entry => entry.1 != loc)
    distinct := by
      rw [List.map_cons, List.nodup_cons]
      refine ⟨by simp, ?_⟩
      exact (List.filter_sublist.map Prod.fst).nodup disk.distinct }

/-- Takes away what is at a location, but nothing below it. -/
def erase (disk : Disk) (loc : Location) : Disk :=
  { disk with
    entries := disk.entries.filter (fun entry => entry.1 != loc)
    distinct := (List.filter_sublist.map Prod.fst).nodup disk.distinct }

def isWithin (dir loc : Location) : Bool := dir.isSuffixOf loc

def eraseTree (disk : Disk) (loc : Location) : Disk :=
  { disk with
    entries := disk.entries.filter (fun entry => !isWithin loc entry.1)
    distinct := (List.filter_sublist.map Prod.fst).nodup disk.distinct }

/-- The location that corresponds to `loc`, below `source`, when that tree lies at `target`. -/
def relocate (source target loc : Location) : Location :=
  loc.take (loc.length - source.length) ++ target

theorem relocate_of_suffix (source target above : Location) :
    relocate source target (above ++ source) = above ++ target := by
  simp [relocate]

theorem nodup_relocate {source target : Location} {entries : List (Location × Node)}
    (h : (entries.map Prod.fst).Nodup) :
    (((entries.filter (fun e => !isWithin source e.1 && !isWithin target e.1)) ++
      (entries.filter (fun e => isWithin source e.1)).map
        (fun e => (relocate source target e.1, e.2))).map Prod.fst).Nodup := by
  have hs : ∀ loc ∈ (entries.filter (fun e => isWithin source e.1)).map Prod.fst,
      ∃ above, loc = above ++ source := by
    intro loc hl
    simp only [List.mem_map, List.mem_filter, isWithin, List.isSuffixOf_iff_suffix] at hl
    obtain ⟨e, ⟨_, ⟨above, ha⟩⟩, rfl⟩ := hl
    exact ⟨above, ha.symm⟩
  rw [List.map_append, List.nodup_append]
  refine ⟨(List.filter_sublist.map Prod.fst).nodup h, ?_, ?_⟩
  · rw [List.map_map]
    have hn : ((entries.filter (fun e => isWithin source e.1)).map Prod.fst).Nodup :=
      (List.filter_sublist.map Prod.fst).nodup h
    have he : (entries.filter (fun e => isWithin source e.1)).map
        (Prod.fst ∘ fun e => (relocate source target e.1, e.2)) =
        ((entries.filter (fun e => isWithin source e.1)).map Prod.fst).map
          (relocate source target) := by
      rw [List.map_map]
      rfl
    rw [he]
    revert hs hn
    generalize (entries.filter (fun e => isWithin source e.1)).map Prod.fst = locs
    intro hs hn
    induction locs with
    | nil => simp
    | cons loc locs ih =>
      rw [List.nodup_cons] at hn
      rw [List.map_cons, List.nodup_cons]
      refine ⟨?_, ih (fun l hl => hs l (List.mem_cons_of_mem _ hl)) hn.2⟩
      intro hm
      obtain ⟨other, ho, heq⟩ := List.mem_map.1 hm
      obtain ⟨a, rfl⟩ := hs loc List.mem_cons_self
      obtain ⟨b, rfl⟩ := hs other (List.mem_cons_of_mem _ ho)
      rw [relocate_of_suffix, relocate_of_suffix] at heq
      rw [List.append_cancel_right heq] at ho
      exact hn.1 ho
  · intro a ha b hb hab
    simp only [List.mem_map, List.mem_filter, Bool.and_eq_true, Bool.not_eq_true'] at ha hb
    obtain ⟨e, ⟨_, _, ht⟩, rfl⟩ := ha
    obtain ⟨p, ⟨f, _, rfl⟩, rfl⟩ := hb
    have : isWithin target e.1 = true := by
      rw [hab]
      simp only [isWithin, List.isSuffixOf_iff_suffix, relocate]
      exact ⟨_, rfl⟩
    rw [this] at ht
    cases ht

/-- Moves what is at a location and all below it, in place of what was at the target. -/
def moveTree (disk : Disk) (source target : Location) : Disk :=
  { disk with
    entries := disk.entries.filter (fun e => !isWithin source e.1 && !isWithin target e.1) ++
      (disk.entries.filter (fun e => isWithin source e.1)).map
        (fun e => (relocate source target e.1, e.2))
    distinct := nodup_relocate disk.distinct }

def stamp (disk : Disk) (loc : Location) : Disk :=
  match disk.entries.lookup loc with
  | some node => disk.insert loc { node with modified := disk.now }
  | none => disk

theorem lookup_cons_eq (l k : Location) (node : Node) (entries : List (Location × Node)) :
    List.lookup l ((k, node) :: entries) = if l = k then some node else entries.lookup l := by
  rw [List.lookup_cons]
  by_cases h : l = k
  · simp [h]
  · rw [beq_false_of_ne h, if_neg h]

theorem lookup_filter_ne (loc l : Location) (entries : List (Location × Node)) :
    (entries.filter (fun e => e.1 != loc)).lookup l =
      if l = loc then none else entries.lookup l := by
  induction entries with
  | nil => simp
  | cons e entries ih =>
    obtain ⟨k, node⟩ := e
    rw [List.filter_cons, lookup_cons_eq]
    by_cases hk : k = loc
    · subst hk
      simp only [bne_self_eq_false, Bool.false_eq_true, ↓reduceIte, ih]
      by_cases hl : l = k <;> simp [hl]
    · simp only [bne_iff_ne, ne_eq, hk, not_false_eq_true, ↓reduceIte, lookup_cons_eq, ih]
      by_cases hl : l = k
      · simp [hl, hk]
      · simp [hl]

/-- An insertion is seen at its location and nowhere else. -/
theorem find?_insert (disk : Disk) {loc : Location} (node : Node) (h : loc ≠ [])
    (l : Location) :
    (disk.insert loc node).find? l = if l = loc then some node else disk.find? l := by
  unfold find? insert
  by_cases hl : l = loc
  · subst hl
    simp [h]
  · simp [hl, lookup_cons_eq, lookup_filter_ne]

/-- What was taken away is seen no more, and all else still is. -/
theorem find?_erase (disk : Disk) {loc : Location} (h : loc ≠ []) (l : Location) :
    (disk.erase loc).find? l = if l = loc then none else disk.find? l := by
  unfold find? erase
  by_cases hl : l = loc
  · subst hl
    simp [h, lookup_filter_ne]
  · simp [hl, lookup_filter_ne]

end Disk

end BuoyGateway
