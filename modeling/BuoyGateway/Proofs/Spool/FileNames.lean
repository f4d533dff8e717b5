import BuoyGateway.Proofs.Decimal.Numeral
import BuoyGateway.Proofs.Disk.View
import BuoyGateway.Spool.Outbox

/-!
# The names of files in the outbox

A number can be read back from its digits. So messages with different numbers get files with
different names, whatever the time, and a temporary name that is not yet taken can always be found.
-/

namespace BuoyGateway

theorem append_cons_inj_right {α : Type} [BEq α] [LawfulBEq α] {mark : α} {s t a b : List α}
    (ha : mark ∉ a) (hb : mark ∉ b) (h : s ++ mark :: a = t ++ mark :: b) : a = b := by
  have hlast : ∀ s a : List α, mark ∉ a →
      (s ++ mark :: a).reverse.takeWhile (fun c => c != mark) = a.reverse := by
    intro s a ha
    rw [List.reverse_append, List.reverse_cons, List.append_assoc, List.takeWhile_append_of_pos]
    · simp
    · intro c hc
      rw [bne_iff_ne]
      rintro rfl
      exact ha (List.mem_reverse.1 hc)
  have hr := hlast s a ha
  rw [h, hlast t b hb] at hr
  exact List.reverse_inj.1 hr.symm

theorem Outgoing.fileName_inj {r r' : Outgoing} {ref ref' : Ref}
    (h : r.fileName ref = r'.fileName ref') : ref = ref' := by
  have hd : ∀ n : Nat, '-' ∉ Decimal.padded 6 n := by
    intro n hm
    have := Decimal.isDigit_of_mem_padded hm
    revert this
    decide
  have hl := String.ofList_inj.1 h
  rw [List.append_cancel_right_eq, List.append_assoc, List.append_assoc, List.singleton_append,
    List.singleton_append] at hl
  have he := append_cons_inj_right (hd ref) (hd ref') hl
  rw [← Decimal.ofDigits_padded 6 ref, he, Decimal.ofDigits_padded]

namespace Disk

theorem freshName_notMem (disk : Disk) (dir : Location) : disk.freshName dir ∉ disk.names dir := by
  unfold freshName
  dsimp only
  cases hf : (((List.range ((disk.names dir).length + 1)).map
      (fun k => ".tmp" ++ String.ofList (Decimal.digits k))).find?
      (fun name => !(disk.names dir).contains name)) with
  | some name =>
    have hn := List.find?_some hf
    simpa using hn
  | none =>
    -- All candidates would be taken, but there are more of them than names.
    have hall := List.find?_eq_none.1 hf
    have hnodup : ((List.range ((disk.names dir).length + 1)).map
        (fun k => ".tmp" ++ String.ofList (Decimal.digits k))).Nodup := by
      refine List.pairwise_map.2 (List.nodup_range.imp ?_)
      intro a b hab he
      have hchars := congrArg String.toList he
      simp only [String.toList_append, String.toList_ofList, List.append_cancel_left_eq] at hchars
      exact hab (Decimal.digits_injective hchars)
    have hsub : (List.range ((disk.names dir).length + 1)).map
        (fun k => ".tmp" ++ String.ofList (Decimal.digits k)) ⊆ disk.names dir := by
      intro name hm
      simpa using hall name hm
    have hle := hnodup.length_le_of_subset hsub
    rw [List.length_map, List.length_range] at hle
    omega

theorem find?_freshName (disk : Disk) (dir : Location) :
    disk.find? (disk.freshName dir :: dir) = none := by
  have h := freshName_notMem disk dir
  rw [mem_names] at h
  simpa using h

/-- No record has a temporary name: letters of its ending are missing there. -/
theorem isRecordName_freshName (disk : Disk) (dir : Location) :
    isRecordName (disk.freshName dir) = false := by
  have hchars : ∀ c ∈ (disk.freshName dir).toList, c ∈ ".tmp".toList ∨ c.isDigit = true := by
    unfold freshName
    dsimp only
    cases hf : (((List.range ((disk.names dir).length + 1)).map
        (fun k => ".tmp" ++ String.ofList (Decimal.digits k))).find?
        (fun name => !(disk.names dir).contains name)) with
    | none => exact fun c hc => Or.inl hc
    | some name =>
      obtain ⟨k, -, rfl⟩ := List.mem_map.1 (List.mem_of_find?_eq_some hf)
      intro c hc
      rw [Option.getD_some, String.toList_append, List.mem_append] at hc
      refine hc.imp_right fun hc => ?_
      rw [String.toList_ofList] at hc
      exact Decimal.isDigit_of_mem_digits hc
  rw [isRecordName, Bool.and_eq_false_iff]
  refine Or.inr (Bool.eq_false_iff.2 fun hsuffix => ?_)
  have hs : 's' ∈ (disk.freshName dir).toList :=
    (List.isSuffixOf_iff_suffix.1 hsuffix).subset (by decide)
  exact absurd (hchars _ hs) (by decide)

end Disk

end BuoyGateway
