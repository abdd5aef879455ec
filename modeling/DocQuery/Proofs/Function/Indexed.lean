import DocQuery.Function.Text
import DocQuery.Proofs.Text.Occurrences

/-! Functions of positions, told by the indices that they take. An index is a word of 64 bits. Arithmetic that leaves
the words, a part that is not inside of its text and windows of length 0 have no value; none of them is ever asked for,
and the values are those that the functions have without indices. -/

namespace DocQuery.Function.Indexed

def word? (n : Int) : Option Int := if isInt64 n then some n else none

def saturatedSum (m n : Nat) : Nat := min (m + n) (wordSize - 1)

def slice? (cs : List Char) (start stop : Nat) : Option (List Char) :=
  if start ≤ stop ∧ stop ≤ cs.length then some ((cs.take stop).drop start) else none

def windows? (cs : List Char) (length : Nat) : Option (List (List Char)) :=
  if length = 0 then none else some ((List.range (cs.length + 1 - length)).map fun i => (cs.drop i).take length)

def locate? (needle cs : List Char) (start : Int) : Option Nat :=
  if start < 1 then some 0
  else if start.toNat - 1 > cs.length then some 0
  else if needle = [] then some (start.toNat - 1 + 1)
  else do
    let rest ← slice? cs (start.toNat - 1) cs.length
    let parts ← windows? rest needle.length
    some ((parts.findIdx? (· == needle)).elim 0 (start.toNat - 1 + · + 1))

def substring? (cs : List Char) (position : Int) (length : Option Int) : Option (List Char) :=
  if position = 0 then some []
  else do
    let count ← word? cs.length
    let start ← word? (if 0 < position then position - 1 else count + position)
    if start < 0 ∨ start ≥ count then some []
    else
      match length with
      | some n => if n ≤ 0 then some [] else slice? cs start.toNat (min (clampInt64 (start + n)) count).toNat
      | none => slice? cs start.toNat count.toNat

def insert? (cs : List Char) (position length : Int) (new : List Char) : Option (List Char) :=
  if position < 1 ∨ position.toNat > cs.length then some cs
  else do
    let start := position.toNat - 1
    let stop := if length < 0 then cs.length else min (saturatedSum start length.toNat) cs.length
    let before ← slice? cs 0 start
    let after ← slice? cs stop cs.length
    some (before ++ new ++ after)

open DocQuery.Text (indexOf? indexOf?_eq_some_iff indexOf?_eq_none_iff indexOf?_le_length)

variable {cs : List Char}

lemma word?_of_isInt64 {n : Int} (h : isInt64 n = true) : word? n = some n := if_pos h

lemma slice?_of_le {start stop : Nat} (h : start ≤ stop) (hend : stop ≤ cs.length) :
    slice? cs start stop = some ((cs.drop start).take (stop - start)) := by
  rw [slice?, if_pos ⟨h, hend⟩, List.drop_take]

lemma slice?_length {start : Nat} (h : start ≤ cs.length) : slice? cs start cs.length = some (cs.drop start) := by
  rw [slice?, if_pos ⟨h, Nat.le_refl _⟩, List.take_length]

lemma findIdx?_windows {needle : List Char} (hn : needle ≠ []) (cs : List Char) :
    ∃ parts, windows? cs needle.length = some parts ∧ parts.findIdx? (· == needle) = indexOf? needle cs := by
  have hpos : 0 < needle.length := List.length_pos_iff.mpr hn
  refine ⟨_, if_neg (by omega), ?_⟩
  -- a part of the length of the text that is looked for is the text itself where it stands
  have hstands (i : Nat) : ((cs.drop i).take needle.length == needle) = true ↔ needle <+: cs.drop i := by
    rw [beq_iff_eq, List.prefix_iff_eq_take, eq_comm]
  have hshort {i : Nat} (h : needle <+: cs.drop i) : i < cs.length + 1 - needle.length := by
    have hle := h.length_le
    rw [List.length_drop] at hle
    omega
  cases hi : indexOf? needle cs with
  | none =>
    refine List.findIdx?_eq_none_iff.mpr fun part hpart => ?_
    obtain ⟨i, -, rfl⟩ := List.mem_map.mp hpart
    exact Bool.eq_false_iff.mpr fun h => indexOf?_eq_none_iff.mp hi i ((hstands i).mp h)
  | some i =>
    obtain ⟨hp, hmin⟩ := indexOf?_eq_some_iff.mp hi
    refine List.findIdx?_eq_some_iff_getElem.mpr ⟨by simpa using hshort hp, ?_, fun j hj => ?_⟩
    · simpa using (hstands i).mpr hp
    · have hne := mt (hstands j).mp (hmin j hj)
      simpa using hne

lemma locate?_eq (needle cs : List Char) (start : Int) :
    locate? needle cs start = some (Text.locate needle cs start) := by
  rw [locate?, Text.locate]
  by_cases hstart : start < 1
  · rw [if_pos hstart, if_pos (.inl hstart)]
  rw [if_neg hstart]
  by_cases hend : start.toNat - 1 > cs.length
  · rw [if_pos hend, if_pos (by omega)]
  have hin : ¬ (start < 1 ∨ start > cs.length + 1) := by omega
  rw [if_neg hend, if_neg hin]
  by_cases hn : needle = []
  · have hfirst : indexOf? needle (cs.drop (start.toNat - 1)) = some 0 :=
      indexOf?_eq_some_iff.mpr ⟨hn ▸ List.nil_prefix, fun j hj => absurd hj (Nat.not_lt_zero j)⟩
    rw [if_pos hn, hfirst]
    exact congrArg some (show start.toNat - 1 + 1 = start.toNat by omega)
  · obtain ⟨parts, hparts, hfind⟩ := findIdx?_windows hn (cs.drop (start.toNat - 1))
    rw [if_neg hn, slice?_length (Nat.le_of_not_lt hend), Option.bind_eq_bind, Option.bind_some, hparts,
      Option.bind_eq_bind, Option.bind_some, hfind]
    cases indexOf? needle (cs.drop (start.toNat - 1)) with
    | none => rfl
    | some i => exact congrArg some (by simp only [Option.elim]; omega)

lemma slice?_clamped (hcs : isInt64 cs.length = true) {start n : Int} (hstart : 0 ≤ start) (hend : start < cs.length)
    (hn : 0 < n) : slice? cs start.toNat (min (clampInt64 (start + n)) (cs.length : Int)).toNat =
      some ((cs.drop start.toNat).take n.toNat) := by
  rw [isInt64_iff] at hcs
  have hstop : (min (clampInt64 (start + n)) (cs.length : Int)).toNat = min (start.toNat + n.toNat) cs.length := by
    simp only [clampInt64, leastInt64, greatestInt64] at hcs ⊢
    omega
  rw [hstop, slice?_of_le (by omega) (Nat.min_le_right _ _)]
  refine congrArg some (List.take_eq_take_iff.mpr ?_)
  rw [List.length_drop]
  omega

lemma drop_saturatedSum (hcs : isInt64 cs.length = true) (start n : Nat) :
    cs.drop (min (saturatedSum start n) cs.length) = cs.drop (start + n) := by
  rw [isInt64_iff] at hcs
  simp only [leastInt64, greatestInt64] at hcs
  by_cases hlong : start + n ≤ cs.length
  · have hsum : min (saturatedSum start n) cs.length = start + n := by
      simp only [saturatedSum, wordSize]
      omega
    rw [hsum]
  · have hsum : cs.length ≤ min (saturatedSum start n) cs.length := by
      simp only [saturatedSum, wordSize]
      omega
    rw [List.drop_eq_nil_of_le hsum, List.drop_eq_nil_of_le (by omega)]

lemma substring?_eq (hcs : isInt64 cs.length = true) {position : Int} (hp : isInt64 position = true)
    (length : Option Int) : substring? cs position length = some (Text.substring cs position length) := by
  simp only [substring?, Text.substring]
  by_cases hzero : position = 0
  · rw [if_pos hzero, if_pos (.inl hzero)]
  have hstart : (if 0 < position then position - 1 else (cs.length : Int) + position) =
      if position < 0 then (cs.length : Int) + position else position - 1 := by
    split <;> split <;> omega
  have hword : isInt64 (if position < 0 then (cs.length : Int) + position else position - 1) = true := by
    simp only [isInt64_iff, leastInt64, greatestInt64] at hcs hp ⊢
    split <;> omega
  simp only [if_neg hzero, word?_of_isInt64 hcs, Option.bind_eq_bind, Option.bind_some, hstart, word?_of_isInt64 hword]
  generalize (if position < 0 then (cs.length : Int) + position else position - 1) = start
  by_cases hneg : start < 0
  · rw [if_pos (.inl hneg), if_pos (.inr hneg)]
  rw [if_neg (not_or.mpr ⟨hzero, hneg⟩)]
  by_cases hend : start ≥ cs.length
  · have hrest : cs.drop start.toNat = [] := List.drop_eq_nil_of_le (by omega)
    rw [if_pos (.inr hend), hrest]
    cases length with
    | none => rfl
    | some n => exact congrArg some List.take_nil.symm
  rw [if_neg (not_or.mpr ⟨hneg, hend⟩)]
  cases length with
  | none => exact slice?_length (by omega)
  | some n =>
    by_cases hn : n ≤ 0
    · have hnone : (cs.drop start.toNat).take n.toNat = [] := by rw [Int.toNat_of_nonpos hn, List.take_zero]
      exact (if_pos hn).trans (congrArg some hnone.symm)
    · exact (if_neg hn).trans (slice?_clamped hcs (Int.not_lt.mp hneg) (Int.not_le.mp hend) (Int.not_le.mp hn))

lemma insert?_eq (hcs : isInt64 cs.length = true) (position length : Int) (new : List Char) :
    insert? cs position length new = some (Text.insert cs position length new) := by
  rw [insert?, Text.insert]
  by_cases hout : position < 1 ∨ position > cs.length
  · rw [if_pos (by omega), if_pos hout]
  rw [if_neg (by omega), if_neg hout]
  have hbefore : slice? cs 0 (position.toNat - 1) = some (cs.take (position.toNat - 1)) :=
    slice?_of_le (Nat.zero_le _) (by omega)
  dsimp only
  rw [hbefore, Option.bind_eq_bind, Option.bind_some]
  by_cases hneg : length < 0
  · rw [if_pos hneg, if_pos hneg, slice?_length (Nat.le_refl _), List.drop_length]
    rfl
  · rw [if_neg hneg, if_neg hneg, slice?_length (Nat.min_le_right _ _), drop_saturatedSum hcs]
    rfl

end DocQuery.Function.Indexed
