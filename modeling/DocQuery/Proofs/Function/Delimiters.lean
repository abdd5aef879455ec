import DocQuery.Function.Text
import DocQuery.Proofs.Text.Occurrences

/-! Parts of a text up to an occurrence of a delimiter and after one. Counted from either end, the occurrences are the
same ones, those that are found from the left. -/

namespace DocQuery.Function.Text

open DocQuery.Text (Found Cut parts cut_parts)

variable {cs delimiter : List Char} {found : List Nat}

lemma substringIndex_forward (hd : delimiter ≠ []) (h : Cut delimiter cs (parts delimiter cs) found) {j : Nat}
    (hj : j < found.length) : substringIndex cs delimiter (j + 1) = cs.take found[j] := by
  have hlength := h.length_parts
  have hcount : ((j : Int) + 1).natAbs = j + 1 := rfl
  simp only [substringIndex, hcount]
  rw [if_neg (not_or.mpr ⟨hd, by omega⟩), if_neg (by omega), if_pos (by omega), h.intercalate_take hj]

lemma substringIndex_backward (hd : delimiter ≠ []) (h : Cut delimiter cs (parts delimiter cs) found) {j : Nat}
    (hj : j < found.length) :
    substringIndex cs delimiter (j - found.length) = cs.drop (found[j] + delimiter.length) := by
  have hlength := h.length_parts
  have hcount : (parts delimiter cs).length - ((j : Int) - found.length).natAbs = j + 1 := by omega
  simp only [substringIndex, hcount]
  rw [if_neg (not_or.mpr ⟨hd, by omega⟩), if_neg (by omega), if_neg (by omega), h.intercalate_drop hj]

lemma substringIndex_beyond (hd : delimiter ≠ []) (h : Cut delimiter cs (parts delimiter cs) found) {count : Int}
    (hc : found.length < count.natAbs) : substringIndex cs delimiter count = cs := by
  have hlength := h.length_parts
  simp only [substringIndex]
  rw [if_neg (not_or.mpr ⟨hd, by omega⟩), if_pos (by omega)]

lemma length_substringIndex_le (cs delimiter : List Char) (count : Int) :
    (substringIndex cs delimiter count).length ≤ cs.length := by
  by_cases hnone : delimiter = [] ∨ count = 0
  · rw [substringIndex, if_pos hnone]
    exact Nat.zero_le _
  obtain ⟨hd, hc⟩ := not_or.mp hnone
  obtain ⟨found, h⟩ := cut_parts hd cs
  by_cases hbeyond : found.length < count.natAbs
  · exact Nat.le_of_eq (congrArg List.length (substringIndex_beyond hd h hbeyond))
  by_cases hpos : 0 < count
  · obtain ⟨j, rfl⟩ : ∃ j : Nat, count = j + 1 := ⟨count.toNat - 1, by omega⟩
    rw [substringIndex_forward hd h (by omega)]
    exact (List.take_sublist ..).length_le
  · obtain ⟨j, rfl⟩ : ∃ j : Nat, count = j - found.length := ⟨(count + found.length).toNat, by omega⟩
    rw [substringIndex_backward hd h (by omega)]
    exact (List.drop_sublist ..).length_le

theorem substringIndex_cuts (cs delimiter : List Char) :
    (delimiter ≠ [] → ∃ found, Found delimiter cs found ∧ (∀ other, Found delimiter cs other → other = found) ∧
      (∀ (j : Nat) (hj : j < found.length),
        substringIndex cs delimiter (j + 1) = cs.take found[j] ∧
        substringIndex cs delimiter (j - found.length) = cs.drop (found[j] + delimiter.length) ∧
        substringIndex cs delimiter (j + 1) ++ delimiter ++ substringIndex cs delimiter (j - found.length) = cs) ∧
      ∀ count : Int, found.length < count.natAbs → substringIndex cs delimiter count = cs) ∧
    ∀ count : Int, delimiter = [] ∨ count = 0 → substringIndex cs delimiter count = [] := by
  refine ⟨fun hd => ?_, fun count h => by rw [substringIndex, if_pos h]⟩
  obtain ⟨found, h⟩ := cut_parts hd cs
  have hfound := Found.of_cut hd h
  refine ⟨found, hfound, fun other ho => ho.unique hd hfound, fun j hj => ?_, fun count => substringIndex_beyond hd h⟩
  have hbefore := substringIndex_forward hd h hj
  have hafter := substringIndex_backward hd h hj
  refine ⟨hbefore, hafter, ?_⟩
  obtain ⟨rest, hrest⟩ := hfound.occurs found[j] (List.getElem_mem hj)
  rw [hbefore, hafter, ← List.drop_drop, ← hrest, List.drop_left, List.append_assoc, hrest, List.take_append_drop]

example : substringIndex ['a', 'a', 'a'] ['a', 'a'] 1 = [] ∧
    substringIndex ['a', 'a', 'a'] ['a', 'a'] (-1) = ['a'] := by
  decide

end DocQuery.Function.Text
