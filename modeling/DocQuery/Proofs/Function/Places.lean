import DocQuery.Proofs.Function.Indexed
import Mathlib.Order.Bounds.Basic

/-! Positions in texts, counted from 1. Searching for a text, taking a part, replacing one and cutting a text in two
mean the same positions by them, and none of these takes an index that is out of range; cutting takes none at all. -/

namespace DocQuery.Function

namespace Text

open DocQuery.Text (indexOf? indexOf?_eq_some_iff indexOf?_eq_none_iff indexOf?_le_length)

variable {cs needle : List Char} {start : Int}

lemma substring_some {position : Int} (h : 1 ≤ position) (n : Int) :
    substring cs position (some n) = (cs.drop (position - 1).toNat).take n.toNat := by
  simp only [substring]
  rw [if_neg (by omega), if_neg (by omega)]

lemma substring_none {position : Int} (h : 1 ≤ position) :
    substring cs position none = cs.drop (position - 1).toNat := by
  simp only [substring]
  rw [if_neg (by omega), if_neg (by omega)]

def Places (needle cs : List Char) (start : Int) : Set Nat :=
  {k | start ≤ k ∧ k ≤ cs.length + 1 ∧ substring cs k (some needle.length) = needle}

lemma mem_places (h : 1 ≤ start) {k : Nat} : k ∈ Places needle cs start ↔
    ∃ i, k = start.toNat + i ∧ k ≤ cs.length + 1 ∧ needle <+: (cs.drop (start.toNat - 1)).drop i := by
  have hstands {k : Nat} (hk : start ≤ k) :
      substring cs k (some needle.length) = needle ↔ needle <+: cs.drop (k - 1) := by
    have hindex : ((k : Int) - 1).toNat = k - 1 := by omega
    rw [substring_some (Int.le_trans h hk), hindex, Int.toNat_natCast, List.prefix_iff_eq_take, eq_comm]
  constructor
  · rintro ⟨hk, hend, hs⟩
    have hindex : k - 1 = start.toNat - 1 + (k - start.toNat) := by omega
    rw [hstands hk, hindex, ← List.drop_drop] at hs
    exact ⟨k - start.toNat, by omega, hend, hs⟩
  · rintro ⟨i, rfl, hend, hp⟩
    have hk : start ≤ (start.toNat + i : Nat) := by omega
    have hindex : start.toNat + i - 1 = start.toNat - 1 + i := by omega
    refine ⟨hk, hend, (hstands hk).mpr ?_⟩
    rwa [hindex, ← List.drop_drop]

lemma places_eq_empty_of_beyond (h : start > cs.length + 1) : Places needle cs start = ∅ := by
  refine Set.eq_empty_iff_forall_notMem.mpr ?_
  rintro k ⟨hk, hend, -⟩
  omega

lemma isLeast_of_indexOf? (h : 1 ≤ start) {i : Nat} (hi : indexOf? needle (cs.drop (start.toNat - 1)) = some i)
    (hend : start ≤ cs.length + 1) : IsLeast (Places needle cs start) (start.toNat + i) := by
  have hle := indexOf?_le_length hi
  obtain ⟨hp, hmin⟩ := indexOf?_eq_some_iff.mp hi
  rw [List.length_drop] at hle
  refine ⟨(mem_places h).mpr ⟨i, rfl, by omega, hp⟩, fun k hk => ?_⟩
  obtain ⟨j, rfl, -, hj⟩ := (mem_places h).mp hk
  exact Nat.add_le_add_left (Nat.le_of_not_lt fun hji => hmin j hji hj) _

lemma places_eq_empty_of_indexOf? (h : 1 ≤ start) (hi : indexOf? needle (cs.drop (start.toNat - 1)) = none) :
    Places needle cs start = ∅ := by
  refine Set.eq_empty_iff_forall_notMem.mpr fun k hk => ?_
  obtain ⟨i, -, -, hp⟩ := (mem_places h).mp hk
  exact indexOf?_eq_none_iff.mp hi i hp

lemma locate_cases (h : 1 ≤ start) : IsLeast (Places needle cs start) (locate needle cs start) ∨
    Places needle cs start = ∅ ∧ locate needle cs start = 0 := by
  rw [locate]
  by_cases hend : start > cs.length + 1
  · rw [if_pos (.inr hend)]
    exact .inr ⟨places_eq_empty_of_beyond hend, rfl⟩
  · rw [if_neg (by omega)]
    cases hi : indexOf? needle (cs.drop (start.toNat - 1)) with
    | some i => exact .inl (isLeast_of_indexOf? h hi (Int.not_lt.mp hend))
    | none => exact .inr ⟨places_eq_empty_of_indexOf? h hi, rfl⟩

lemma insert_eq {position length : Int} (h : 1 ≤ position) (hend : position ≤ cs.length) (hl : 0 ≤ length)
    (new : List Char) : insert cs position length new =
      cs.take (position - 1).toNat ++ new ++ cs.drop ((position - 1).toNat + length.toNat) := by
  have hindex : position.toNat - 1 = (position - 1).toNat := by omega
  simp only [insert]
  rw [if_neg (by omega), if_neg (by omega), hindex]

lemma insert_substring {position length : Int} (h : 1 ≤ position) (hend : position ≤ cs.length) (hl : 0 ≤ length) :
    insert cs position length (substring cs position (some length)) = cs := by
  rw [insert_eq h hend hl, substring_some h, ← List.drop_drop, List.append_assoc, List.take_append_drop,
    List.take_append_drop]

lemma insert_between {position length : Int} (h : 1 ≤ position) (hend : position ≤ cs.length) (hl : 0 ≤ length)
    (new : List Char) : insert cs position length new =
      cs.take (position - 1).toNat ++ new ++ substring cs (position + length) none := by
  have hindex : (position + length - 1).toNat = (position - 1).toNat + length.toNat := by omega
  rw [insert_eq h hend hl, substring_none (by omega), hindex]

lemma left_append_right {n : Int} (h : 0 ≤ n) (hend : n ≤ cs.length) : left cs n ++ right cs (cs.length - n) = cs := by
  have hindex : cs.length - ((cs.length : Int) - n).toNat = n.toNat := by omega
  rw [left, right, hindex, List.take_append_drop]

end Text

lemma isInt64_of_int? {args : List Value} {i : Nat} {n : Int} (h : int? args i = some n) : isInt64 n = true := by
  obtain ⟨x, -, rfl⟩ := Option.map_eq_some_iff.mp h
  exact (isInt64_iff _).mpr (clampInt64_mem _)

theorem Text.positions_agree (cs : List Char) :
    (∀ needle start, (start < 1 → locate needle cs start = 0) ∧ (1 ≤ start →
      (∀ k, IsLeast (Places needle cs start) k → locate needle cs start = k) ∧
      (Places needle cs start = ∅ → locate needle cs start = 0))) ∧
    (∀ position length : Int, 1 ≤ position → position ≤ cs.length → 0 ≤ length →
      insert cs position length (substring cs position (some length)) = cs ∧
      ∀ new, insert cs position length new =
        cs.take (position - 1).toNat ++ new ++ substring cs (position + length) none) ∧
    (∀ n : Int, 0 ≤ n → n ≤ cs.length → left cs n ++ right cs (cs.length - n) = cs) ∧
    (isInt64 cs.length = true →
      (∀ needle start, Indexed.locate? needle cs start = some (locate needle cs start)) ∧
      (∀ position length, isInt64 position = true →
        Indexed.substring? cs position length = some (substring cs position length)) ∧
      ∀ position length new, Indexed.insert? cs position length new = some (insert cs position length new)) ∧
    ∀ args i n, int? args i = some n → isInt64 n = true := by
  refine ⟨fun needle start => ⟨fun hout => if_pos (.inl hout), fun h => ?_⟩, fun position length h hend hl => ?_,
    fun n h hend => left_append_right h hend, fun hcs => ?_, fun args i n => isInt64_of_int?⟩
  · have hcases : IsLeast (Places needle cs start) (locate needle cs start) ∨ _ := locate_cases h
    obtain hfirst | ⟨hnone, hzero⟩ := hcases
    · refine ⟨fun k hk => hfirst.unique hk, fun hnone => ?_⟩
      exact absurd hfirst.1 (Set.eq_empty_iff_forall_notMem.mp hnone _)
    · exact ⟨fun k hk => absurd hk.1 (Set.eq_empty_iff_forall_notMem.mp hnone k), fun _ => hzero⟩
  · exact ⟨insert_substring h hend hl, insert_between h hend hl⟩
  · exact ⟨fun needle start => Indexed.locate?_eq needle cs start,
      fun position length hp => Indexed.substring?_eq hcs hp length, Indexed.insert?_eq hcs⟩

end DocQuery.Function
