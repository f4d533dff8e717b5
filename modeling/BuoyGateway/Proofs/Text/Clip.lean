import Mathlib.Data.List.Infix
import BuoyGateway.Proofs.Text.Cut
import BuoyGateway.Proofs.Text.Utf8

/-!
# The longest text that fits

Of the texts at the front of a text that fit a bound, `fit` is the one that all others are at the front
of. This says all about it: what it does to a text that was cut before, or to one text behind another,
follows without another look at the characters. `clip` finds it from the other side: the position that
its search ends at is the last one that is not past the bound, and each text at the front ends at a
position.
-/

namespace BuoyGateway.Text

variable {m n : Nat} {s t front : List Char}

def fit (max : Nat) : List Char → List Char
  | [] => []
  | c :: s => if c.utf8Size ≤ max then c :: fit (max - c.utf8Size) s else []

theorem octets_fit_le (max : Nat) (s : List Char) : octets (fit max s) ≤ max := by
  induction s generalizing max with
  | nil => simp [fit, octets]
  | cons c s ih =>
    simp only [fit]
    split
    · have := ih (max - c.utf8Size)
      rw [octets_cons]
      omega
    · simp [octets]

theorem fit_of_octets_le {max : Nat} {s : List Char} (h : octets s ≤ max) : fit max s = s := by
  induction s generalizing max with
  | nil => rfl
  | cons c s ih =>
    rw [octets_cons] at h
    rw [fit, if_pos (by omega), ih (by omega)]

theorem octets_le_of_front (h : front <+: s) : octets front ≤ octets s := by
  obtain ⟨rest, rfl⟩ := h
  rw [octets_append]
  exact Nat.le_add_right _ _

/-- Of two texts at the front of one, the one that takes no more octets is at the front of the other. -/
theorem prefix_of_octets_le (hfront : front <+: s) (ht : t <+: s) (h : octets front ≤ octets t) :
    front <+: t := by
  rcases List.prefix_or_prefix_of_prefix hfront ht with hle | ⟨rest, rfl⟩
  · exact hle
  · rw [octets_append] at h
    have hrest : rest = [] := octets_eq_zero_iff.1 (by omega)
    rw [hrest, List.append_nil]

/-- The texts at the front of `fit n s` are those at the front of `s` that fit. -/
theorem prefix_fit_iff : front <+: fit n s ↔ front <+: s ∧ octets front ≤ n := by
  induction s generalizing n front with
  | nil =>
    rw [fit, List.prefix_nil]
    exact ⟨fun h => ⟨h, h ▸ Nat.zero_le n⟩, fun h => h.1⟩
  | cons c s ih =>
    cases front with
    | nil => exact iff_of_true (List.nil_prefix) ⟨List.nil_prefix, Nat.zero_le n⟩
    | cons d front =>
      rw [fit, List.cons_prefix_cons, octets_cons]
      by_cases hfit : c.utf8Size ≤ n
      · rw [if_pos hfit, List.cons_prefix_cons, ih, and_assoc]
        refine and_congr_right (fun hd => and_congr_right (fun _ => ?_))
        rw [hd]
        omega
      · rw [if_neg hfit, List.prefix_nil]
        refine iff_of_false (List.cons_ne_nil d front) ?_
        rintro ⟨⟨rfl, -⟩, hle⟩
        omega

theorem fit_prefix (n : Nat) (s : List Char) : fit n s <+: s :=
  (prefix_fit_iff.1 (List.prefix_refl _)).1

/-- A text is `fit n s` if the same texts are at its front. -/
theorem eq_fit_of_prefix_iff (h : ∀ front, front <+: t ↔ front <+: s ∧ octets front ≤ n) :
    t = fit n s := by
  have hle : t <+: fit n s := prefix_fit_iff.2 ((h t).1 (List.prefix_refl t))
  have hge : fit n s <+: t := (h _).2 (prefix_fit_iff.1 (List.prefix_refl _))
  exact hle.eq_of_length (Nat.le_antisymm hle.length_le hge.length_le)

theorem fit_eq_self_iff : fit n s = s ↔ octets s ≤ n := by
  refine ⟨fun h => ?_, fit_of_octets_le⟩
  rw [← h]
  exact octets_fit_le n s

/-- Cutting twice is cutting once, to the smaller bound. -/
theorem fit_fit (m n : Nat) (s : List Char) : fit m (fit n s) = fit (min m n) s := by
  refine eq_fit_of_prefix_iff (fun front => ?_)
  rw [prefix_fit_iff, prefix_fit_iff, and_assoc, and_comm (a := octets front ≤ n), Nat.le_min]

/-- What stands behind a text that does not fit plays no part. -/
theorem fit_append_of_lt (h : n < octets s) (t : List Char) : fit n (s ++ t) = fit n s := by
  refine eq_fit_of_prefix_iff (fun front => ?_)
  rw [prefix_fit_iff]
  refine and_congr_left (fun hle => ⟨fun hfront => ?_, fun hfront => hfront.trans ⟨t, rfl⟩⟩)
  rcases List.prefix_or_prefix_of_prefix hfront (List.prefix_append s t) with hs | hs
  · exact hs
  · exact absurd (octets_le_of_front hs) (by omega)

/-- Behind a text that fits, what is left of the bound decides. -/
theorem fit_append_of_le (h : octets s ≤ n) (t : List Char) :
    fit n (s ++ t) = s ++ fit (n - octets s) t := by
  induction s generalizing n with
  | nil => rfl
  | cons c s ih =>
    rw [octets_cons] at h
    rw [List.cons_append, fit, if_pos (by omega), ih (by omega), octets_cons, Nat.sub_add_eq]
    rfl

/-- A text that does not fit is cut less than one character below the bound. -/
theorem lt_octets_fit (h : n < octets s) : n < octets (fit n s) + 4 := by
  obtain ⟨rest, hs⟩ := fit_prefix n s
  cases rest with
  | nil =>
    rw [List.append_nil] at hs
    exact absurd (fit_eq_self_iff.1 hs) (by omega)
  | cons c rest =>
    have hnext : ¬ fit n s ++ [c] <+: fit n s := fun hle =>
      absurd hle.length_le (by rw [List.length_append, List.length_singleton]; omega)
    rw [prefix_fit_iff, octets_append, octets_cons, octets_nil] at hnext
    have hfront : fit n s ++ [c] <+: s := ⟨rest, by rw [List.append_assoc]; exact hs⟩
    have hover : ¬ octets (fit n s) + (c.utf8Size + 0) ≤ n := fun hle => hnext ⟨hfront, hle⟩
    have := c.utf8Size_le_four
    omega

/-- A text that was cut before, and not too short, may stand in the place of the whole one. -/
theorem fit_fit_append (h : m + 4 ≤ n) (s t : List Char) :
    fit m (fit n s ++ t) = fit m (s ++ t) := by
  by_cases hs : octets s ≤ n
  · rw [fit_of_octets_le hs]
  · have hlt := lt_octets_fit (Nat.lt_of_not_le hs)
    rw [fit_append_of_lt (by omega), fit_append_of_lt (by omega), fit_fit, Nat.min_eq_left (by omega)]

theorem encode_append (s t : List Char) : encode (s ++ t) = encode s ++ encode t :=
  List.flatMap_append

/-- The octets of a text that was cut are the first octets of the whole text. -/
theorem encode_fit (n : Nat) (s : List Char) :
    encode (fit n s) = (encode s).take (octets (fit n s)) := by
  obtain ⟨rest, hs⟩ := fit_prefix n s
  conv_rhs => rw [← hs, encode_append, ← length_encode]
  rw [hs, List.take_left]

/-! ### Strings -/

theorem utf8ByteSize_eq (s : String) : s.utf8ByteSize = size s := by
  rw [size, ← utf8ByteSize_ofList, String.ofList_toList]

section Positions

variable {s : String} {p : s.Pos} {max : Nat}

theorem lastPosition?_eq_some_iff : lastPosition? s max = some p ↔
    p.offset.byteIdx ≤ max ∧ ∀ q : s.Pos, q.offset.byteIdx ≤ max → q ≤ p := by
  obtain ⟨found, hfound, hle, hlast⟩ := exists_lastPosition? s max
  rw [hfound, Option.some_inj]
  constructor
  · rintro rfl
    exact ⟨hle, hlast⟩
  · rintro ⟨hp, hq⟩
    exact Std.le_antisymm (hq found hle) (hlast p hp)

/-- What is kept stands before the position that the search ends at, also where all is kept. -/
theorem clip_eq_sliceTo (h : lastPosition? s max = some p) : clip s max = (s.sliceTo p).copy := by
  rw [clip]
  split
  · have hend : p = s.endPos :=
      Std.le_antisymm p.le_endPos ((lastPosition?_eq_some_iff.1 h).2 s.endPos ‹_›)
    rw [hend, String.sliceTo_endPos, String.copy_toSlice]
  · simp only [h, Option.get_some]

theorem octets_sliceTo (p : s.Pos) : octets (s.sliceTo p).copy.toList = p.offset.byteIdx := by
  rw [← utf8ByteSize_ofList, String.ofList_toList]
  exact congrArg String.Pos.Raw.byteIdx p.splits.offset_eq_rawEndPos.symm

theorem front_sliceTo (p : s.Pos) : (s.sliceTo p).copy.toList <+: s.toList :=
  ⟨(s.sliceFrom p).copy.toList, by rw [← String.toList_append, String.sliceTo_append_sliceFrom]⟩

theorem exists_position (h : front <+: s.toList) : ∃ q : s.Pos, q.offset.byteIdx = octets front := by
  obtain ⟨rest, hs⟩ := h
  have hvalid : (String.Pos.Raw.mk (octets front)).IsValid s := by
    rw [← isSome_cut?_iff, ← hs, cut?_octets]
    rfl
  exact ⟨⟨_, hvalid⟩, rfl⟩

end Positions

theorem toList_clip (s : String) (n : Nat) : (clip s n).toList = fit n s.toList := by
  obtain ⟨p, hp⟩ := Option.isSome_iff_exists.1 (isSome_lastPosition? s n)
  obtain ⟨hle, hlast⟩ := lastPosition?_eq_some_iff.1 hp
  rw [clip_eq_sliceTo hp]
  refine eq_fit_of_prefix_iff (fun front => ?_)
  constructor
  · intro hfront
    have hsize := octets_le_of_front hfront
    rw [octets_sliceTo] at hsize
    exact ⟨hfront.trans (front_sliceTo p), by omega⟩
  · rintro ⟨hfront, hfits⟩
    -- The text ends at a position, and none within the bound lies behind the one that was found.
    obtain ⟨q, hq⟩ := exists_position hfront
    have hqp : q.offset.byteIdx ≤ p.offset.byteIdx := hlast q (by omega)
    refine prefix_of_octets_le hfront (front_sliceTo p) ?_
    rw [octets_sliceTo]
    omega

theorem size_clip_le (s : String) (n : Nat) : size (clip s n) ≤ n := by
  rw [size, toList_clip]
  exact octets_fit_le n s.toList

theorem clip_eq_self_iff (s : String) (n : Nat) : clip s n = s ↔ size s ≤ n := by
  rw [← String.toList_inj, toList_clip, fit_eq_self_iff, size]

theorem clip_clip (s : String) (m n : Nat) : clip (clip s m) n = clip s (min m n) := by
  rw [← String.toList_inj, toList_clip, toList_clip, toList_clip, fit_fit, Nat.min_comm]

theorem length_le_length_clip {s front rest : String} {max : Nat} (hs : s = front ++ rest)
    (hfits : front.utf8ByteSize ≤ max) : front.length ≤ (clip s max).length := by
  rw [utf8ByteSize_eq, size] at hfits
  have hfront : front.toList <+: s.toList := ⟨rest.toList, by rw [hs, String.toList_append]⟩
  have hclip : front.toList <+: (clip s max).toList := by
    rw [toList_clip]
    exact prefix_fit_iff.2 ⟨hfront, hfits⟩
  rw [← String.length_toList, ← String.length_toList]
  exact hclip.length_le

/-- The search finds the end of what is kept, at most three octets before the bound. -/
theorem exists_clip (s : String) (max : Nat) : ∃ p : s.Pos, lastPosition? s max = some p ∧
    p.offset.byteIdx ≤ max ∧ (max < s.utf8ByteSize → max < p.offset.byteIdx + 4) ∧
    clip s max = (s.sliceTo p).copy := by
  obtain ⟨p, hp⟩ := Option.isSome_iff_exists.1 (isSome_lastPosition? s max)
  have hclip := clip_eq_sliceTo hp
  refine ⟨p, hp, (lastPosition?_eq_some_iff.1 hp).1, fun hlong => ?_, hclip⟩
  rw [utf8ByteSize_eq, size] at hlong
  rw [← octets_sliceTo, ← hclip, toList_clip]
  exact lt_octets_fit hlong

/-- The search for the end of what is kept always succeeds, and what is kept is the longest text at the
front that fits. To cut it again, to any bound, is to cut the whole text to the smaller bound. -/
theorem clip_longest :
    (∀ (s : String) (max : Nat), ∃ p : s.Pos, lastPosition? s max = some p ∧
      p.offset.byteIdx ≤ max ∧ (max < s.utf8ByteSize → max < p.offset.byteIdx + 4) ∧
      clip s max = (s.sliceTo p).copy) ∧
    (∀ (s : String) (max : Nat), (∃ rest, s = clip s max ++ rest) ∧
      (clip s max).utf8ByteSize ≤ max ∧
      ∀ front rest, s = front ++ rest → (clip s max).length < front.length →
        max < front.utf8ByteSize) ∧
    ∀ (s : String) (m n : Nat), clip (clip s m) n = clip s (min m n) := by
  refine ⟨exists_clip, fun s max => ⟨?_, ?_, ?_⟩, clip_clip⟩
  · obtain ⟨p, -, -, -, hclip⟩ := exists_clip s max
    exact ⟨(s.sliceFrom p).copy, by rw [hclip, String.sliceTo_append_sliceFrom]⟩
  · rw [utf8ByteSize_eq]
    exact size_clip_le s max
  · intro front rest hs hlonger
    by_contra hle
    have := length_le_length_clip hs (Nat.le_of_not_lt hle)
    omega

/-- A bound behind the third of four octets: the search steps back over all three. -/
theorem clip_longest_inside :
    let s := "a😀b"
    (∃ p : s.Pos, lastPosition? s 4 = some p ∧ p.offset.byteIdx = 1 ∧ 4 < s.utf8ByteSize ∧
      4 < p.offset.byteIdx + 4) ∧
    clip s 4 = "a" ∧ s = "a😀" ++ "b" ∧ (clip s 4).length < "a😀".length ∧
    4 < "a😀".utf8ByteSize := by
  intro s
  obtain ⟨hsearch, hkept, -⟩ := clip_longest
  obtain ⟨p, hp, -, hback, -⟩ := hsearch s 4
  have hlong : 4 < s.utf8ByteSize := by decide
  have hone : lastPosition? s 4 = s.pos? ⟨1⟩ := by decide
  have hoffset : p.offset = ⟨1⟩ := pos?_eq_some_iff.1 (hone.symm.trans hp)
  have hclip : clip s 4 = "a" := by decide
  have hlonger : (clip s 4).length < "a😀".length := by
    rw [hclip]
    decide
  exact ⟨⟨p, hp, congrArg String.Pos.Raw.byteIdx hoffset, hlong, hback hlong⟩, hclip, rfl, hlonger,
    (hkept s 4).2.2 "a😀" "b" rfl hlonger⟩

end BuoyGateway.Text
