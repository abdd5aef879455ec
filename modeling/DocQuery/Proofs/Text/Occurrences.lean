import DocQuery.Text.Search
import Mathlib.Data.List.Sort
import Mathlib.Data.Nat.Find

namespace DocQuery.Text

lemma indexOf?_eq_some_iff {needle cs : List Char} {i : Nat} :
    indexOf? needle cs = some i ↔ needle <+: cs.drop i ∧ ∀ j < i, ¬ needle <+: cs.drop j := by
  induction cs generalizing i with
  | nil =>
    rw [indexOf?, List.drop_nil]
    constructor
    · intro h
      split at h
      · next hn =>
        cases h
        exact ⟨hn ▸ List.nil_prefix, fun j hj => absurd hj (Nat.not_lt_zero j)⟩
      · cases h
    · rintro ⟨hp, hmin⟩
      rw [if_pos (List.prefix_nil.mp hp)]
      cases i with
      | zero => rfl
      | succ i => exact absurd (by rwa [List.drop_nil]) (hmin 0 (Nat.succ_pos i))
  | cons c cs ih =>
    rw [indexOf?]
    by_cases hp : needle <+: c :: cs
    · rw [if_pos (List.isPrefixOf_iff_prefix.mpr hp)]
      constructor
      · intro h
        cases h
        exact ⟨hp, fun j hj => absurd hj (Nat.not_lt_zero j)⟩
      · rintro ⟨-, hmin⟩
        cases i with
        | zero => rfl
        | succ i => exact absurd hp (hmin 0 (Nat.succ_pos i))
    · rw [if_neg (mt List.isPrefixOf_iff_prefix.mp hp), Option.map_eq_some_iff]
      constructor
      · rintro ⟨k, hk, rfl⟩
        obtain ⟨hk, hmin⟩ := ih.mp hk
        refine ⟨hk, fun j hj => ?_⟩
        cases j with
        | zero => exact hp
        | succ j => exact hmin j (Nat.lt_of_succ_lt_succ hj)
      · rintro ⟨hi, hmin⟩
        cases i with
        | zero => exact absurd hi hp
        | succ i => exact ⟨i, ih.mpr ⟨hi, fun j hj => hmin (j + 1) (Nat.succ_lt_succ hj)⟩, rfl⟩

lemma indexOf?_eq_none_iff {needle cs : List Char} : indexOf? needle cs = none ↔ ∀ i, ¬ needle <+: cs.drop i := by
  constructor
  · intro h i hi
    classical
    have hleast : ∃ i, needle <+: cs.drop i := ⟨i, hi⟩
    have hfirst := indexOf?_eq_some_iff.mpr ⟨Nat.find_spec hleast, fun j hj => Nat.find_min hleast hj⟩
    rw [h] at hfirst
    cases hfirst
  · intro h
    cases hi : indexOf? needle cs with
    | none => rfl
    | some i => exact absurd (indexOf?_eq_some_iff.mp hi).1 (h i)

lemma indexOf?_le_length {needle cs : List Char} {i : Nat} (h : indexOf? needle cs = some i) : i ≤ cs.length := by
  obtain ⟨hi, hmin⟩ := indexOf?_eq_some_iff.mp h
  by_contra hlt
  rw [List.drop_eq_nil_of_le (by omega)] at hi
  exact hmin cs.length (by omega) (by rwa [List.drop_length])

/-- The places where a delimiter is found from the left: an occurrence that does not start at one of them overlaps with
one that is found before it. -/
structure Found (delimiter cs : List Char) (found : List Nat) : Prop where
  occurs : ∀ i ∈ found, delimiter <+: cs.drop i
  apart : found.Pairwise fun i j => i + delimiter.length ≤ j
  first : ∀ i, delimiter <+: cs.drop i → ∃ j ∈ found, j ≤ i ∧ i < j + delimiter.length

inductive Cut (delimiter : List Char) : List Char → List (List Char) → List Nat → Prop
  | whole {cs : List Char} (h : ∀ i, ¬ delimiter <+: cs.drop i) : Cut delimiter cs [cs] []
  | first {part rest : List Char} {parts : List (List Char)} {found : List Nat}
      (h : ∀ i < part.length, ¬ delimiter <+: (part ++ (delimiter ++ rest)).drop i)
      (hr : Cut delimiter rest parts found) :
      Cut delimiter (part ++ (delimiter ++ rest)) (part :: parts)
        (part.length :: found.map (part.length + delimiter.length + ·))

variable {delimiter cs : List Char} {ps : List (List Char)} {found found' : List Nat}

lemma partsFrom_eq (delimiter : List Char) (taken : Nat) (cs : List Char) :
    partsFrom delimiter taken cs = parts delimiter (cs.drop taken) := by
  induction cs generalizing taken with
  | nil => simp [parts, partsFrom]
  | cons c cs ih =>
    cases taken with
    | succ taken => exact ih taken
    | zero => rfl

lemma parts_of_occurs (hd : delimiter ≠ []) (rest : List Char) :
    parts delimiter (delimiter ++ rest) = [] :: parts delimiter rest := by
  obtain ⟨d, ds, rfl⟩ := List.exists_cons_of_ne_nil hd
  have hp : (d :: ds).isPrefixOf (d :: (ds ++ rest)) = true := List.isPrefixOf_iff_prefix.mpr ⟨rest, rfl⟩
  rw [List.cons_append, parts, partsFrom, if_pos hp, partsFrom_eq, List.length_cons, Nat.add_sub_cancel, List.drop_left]

lemma parts_of_not_occurs {c : Char} (h : ¬ delimiter <+: c :: cs) :
    parts delimiter (c :: cs) = consPart c (parts delimiter cs) := by
  rw [parts, partsFrom, if_neg (mt List.isPrefixOf_iff_prefix.mp h)]
  rfl

lemma parts_append {part : List Char} (h : ∀ i < part.length, ¬ delimiter <+: (part ++ cs).drop i)
    {p : List Char} (hp : parts delimiter cs = p :: ps) : parts delimiter (part ++ cs) = (part ++ p) :: ps := by
  induction part with
  | nil => exact hp
  | cons c part ih =>
    have hfirst : ¬ delimiter <+: c :: (part ++ cs) := h 0 (Nat.succ_pos _)
    have hrest := ih fun i hi => h (i + 1) (Nat.succ_lt_succ hi)
    rw [List.cons_append, parts_of_not_occurs hfirst, hrest]
    rfl

lemma exists_first {i : Nat} (h : indexOf? delimiter cs = some i) :
    ∃ part rest, cs = part ++ (delimiter ++ rest) ∧
      ∀ j < part.length, ¬ delimiter <+: (part ++ (delimiter ++ rest)).drop j := by
  obtain ⟨⟨rest, hrest⟩, hmin⟩ := indexOf?_eq_some_iff.mp h
  have hcs : cs = cs.take i ++ (delimiter ++ rest) := by rw [hrest, List.take_append_drop]
  refine ⟨cs.take i, rest, hcs, fun j hj => ?_⟩
  rw [← hcs]
  exact hmin j (Nat.lt_of_lt_of_le hj (List.length_take_le i cs))

lemma cut_parts (hd : delimiter ≠ []) (cs : List Char) : ∃ found, Cut delimiter cs (parts delimiter cs) found := by
  induction hn : cs.length using Nat.strongRecOn generalizing cs with
  | ind n ih =>
    cases hi : indexOf? delimiter cs with
    | none =>
      have hnone := indexOf?_eq_none_iff.mp hi
      have hparts : parts delimiter (cs ++ []) = [cs ++ []] :=
        parts_append (by simpa using fun i _ => hnone i) rfl
      rw [List.append_nil] at hparts
      exact ⟨[], hparts ▸ .whole hnone⟩
    | some i =>
      -- what stands after the first occurrence is shorter
      obtain ⟨part, rest, rfl, hfirst⟩ := exists_first hi
      have hpos : 0 < delimiter.length := List.length_pos_iff.mpr hd
      have hshorter : rest.length < n := by
        rw [List.length_append, List.length_append] at hn
        omega
      obtain ⟨found, hfound⟩ := ih rest.length hshorter rest rfl
      have hparts := parts_append hfirst (parts_of_occurs hd rest)
      rw [List.append_nil] at hparts
      rw [hparts]
      exact ⟨_, .first hfirst hfound⟩

lemma drop_after (part delimiter rest : List Char) (k : Nat) :
    (part ++ (delimiter ++ rest)).drop (part.length + delimiter.length + k) = rest.drop k := by
  rw [← List.append_assoc, ← List.length_append, ← List.drop_drop, List.drop_left]

namespace Cut

lemma length_parts (h : Cut delimiter cs ps found) : ps.length = found.length + 1 := by
  induction h with
  | whole _ => rfl
  | first _ _ ih => rw [List.length_cons, List.length_cons, List.length_map, ih]

lemma parts_eq_cons (h : Cut delimiter cs ps found) : ∃ p rest, ps = p :: rest := by
  cases h with
  | whole _ => exact ⟨_, _, rfl⟩
  | first _ _ => exact ⟨_, _, rfl⟩

lemma intercalate_parts (h : Cut delimiter cs ps found) : delimiter.intercalate ps = cs := by
  induction h with
  | whole _ => exact List.intercalate_singleton ..
  | first _ hr ih =>
    obtain ⟨p, rest, rfl⟩ := hr.parts_eq_cons
    rw [List.intercalate_cons_cons, ih, List.append_assoc]

lemma intercalate_take (h : Cut delimiter cs ps found) {j : Nat} (hj : j < found.length) :
    delimiter.intercalate (ps.take (j + 1)) = cs.take found[j] := by
  induction h generalizing j with
  | whole _ => exact absurd hj (Nat.not_lt_zero j)
  | @first part rest ps found _ hr ih =>
    rw [List.take_succ_cons]
    cases j with
    | zero => simp
    | succ j =>
      have hj' : j < found.length := by simpa using hj
      obtain ⟨p, qs, rfl⟩ := hr.parts_eq_cons
      have hrest := ih hj'
      rw [List.take_succ_cons] at hrest ⊢
      rw [List.intercalate_cons_cons, hrest]
      simp only [List.getElem_cons_succ, List.getElem_map]
      rw [← List.append_assoc part, Nat.add_comm _ found[j], Nat.add_comm found[j], ← List.length_append,
        List.take_length_add_append]

lemma intercalate_drop (h : Cut delimiter cs ps found) {j : Nat} (hj : j < found.length) :
    delimiter.intercalate (ps.drop (j + 1)) = cs.drop (found[j] + delimiter.length) := by
  induction h generalizing j with
  | whole _ => exact absurd hj (Nat.not_lt_zero j)
  | @first part rest ps found _ hr ih =>
    rw [List.drop_succ_cons]
    cases j with
    | zero =>
      rw [List.drop_zero, hr.intercalate_parts, List.getElem_cons_zero]
      exact (drop_after part delimiter rest 0).symm
    | succ j =>
      have hj' : j < found.length := by simpa using hj
      rw [ih hj', List.getElem_cons_succ, List.getElem_map, Nat.add_assoc, drop_after]

end Cut

namespace Found

lemma of_cut (hd : delimiter ≠ []) (h : Cut delimiter cs ps found) : Found delimiter cs found := by
  have hpos : 0 < delimiter.length := List.length_pos_iff.mpr hd
  induction h with
  | whole h => exact ⟨fun i hi => absurd hi List.not_mem_nil, .nil, fun i hi => absurd hi (h i)⟩
  | @first part rest ps found h hr ih =>
    refine ⟨fun i hi => ?_, ?_, fun i hi => ?_⟩
    · rcases List.mem_cons.mp hi with rfl | hi
      · rw [List.drop_left]
        exact List.prefix_append ..
      · obtain ⟨k, hk, rfl⟩ := List.mem_map.mp hi
        rw [drop_after]
        exact ih.occurs k hk
    · refine List.pairwise_cons.mpr ⟨fun j hj => ?_, List.pairwise_map.mpr (ih.apart.imp fun hij => ?_)⟩
      · obtain ⟨k, -, rfl⟩ := List.mem_map.mp hj
        exact Nat.le_add_right _ k
      · omega
    · by_cases hbefore : i < part.length
      · exact absurd hi (h i hbefore)
      by_cases hwithin : i < part.length + delimiter.length
      · exact ⟨part.length, List.mem_cons_self, Nat.le_of_not_lt hbefore, hwithin⟩
      obtain ⟨k, rfl⟩ : ∃ k, i = part.length + delimiter.length + k := ⟨i - (part.length + delimiter.length), by omega⟩
      rw [drop_after] at hi
      obtain ⟨j, hj, hle, hlt⟩ := ih.first k hi
      exact ⟨part.length + delimiter.length + j, List.mem_cons_of_mem _ (List.mem_map_of_mem hj), by omega, by omega⟩

lemma apart_of_lt (h : Found delimiter cs found) {i j : Nat} (hi : i ∈ found) (hj : j ∈ found) (hlt : i < j) :
    i + delimiter.length ≤ j := by
  obtain ⟨before, after, rfl⟩ := List.append_of_mem hi
  obtain ⟨-, hafter, hbefore⟩ := List.pairwise_append.mp h.apart
  rcases List.mem_append.mp hj with hj | hj
  · have hji := hbefore j hj i List.mem_cons_self
    omega
  · rcases List.mem_cons.mp hj with rfl | hj
    · exact absurd hlt (Nat.lt_irrefl _)
    · exact (List.pairwise_cons.mp hafter).1 j hj

lemma mem_iff (h : Found delimiter cs found) (h' : Found delimiter cs found') (i : Nat) : i ∈ found ↔ i ∈ found' := by
  induction i using Nat.strongRecOn with
  | ind i ih =>
    have hstep {found found' : List Nat} (h : Found delimiter cs found) (h' : Found delimiter cs found')
        (hsame : ∀ j < i, j ∈ found' → j ∈ found) (hi : i ∈ found) : i ∈ found' := by
      obtain ⟨j, hj, hle, hlt⟩ := h'.first i (h.occurs i hi)
      rcases Nat.lt_or_eq_of_le hle with hji | rfl
      · have hapart := h.apart_of_lt (hsame j hji hj) hi hji
        omega
      · exact hj
    exact ⟨hstep h h' fun j hj => (ih j hj).mpr, hstep h' h fun j hj => (ih j hj).mp⟩

lemma unique (hd : delimiter ≠ []) (h : Found delimiter cs found) (h' : Found delimiter cs found') :
    found = found' := by
  have hpos : 0 < delimiter.length := List.length_pos_iff.mpr hd
  have hsorted {found : List Nat} (h : Found delimiter cs found) : found.Pairwise (· < ·) :=
    h.apart.imp fun hij => by omega
  exact (hsorted h).eq_of_mem_iff (hsorted h') (h.mem_iff h')

end Found

end DocQuery.Text
