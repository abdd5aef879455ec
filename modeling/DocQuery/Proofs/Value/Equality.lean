import DocQuery.Condition.Test
import DocQuery.Proofs.Dictionaries
import DocQuery.Proofs.Value.Order
import DocQuery.Proofs.Values

/-! The equalities of values. Each of them says that two values leave the same behind when what it does not tell
apart is taken out, and so is an equivalence; the order of conditions goes the other way when its sides change. -/

namespace DocQuery

def Number.code : Number → Int
  | int n => 2 * n
  | float x => 2 * Binary64.ordinal x + 1

lemma Number.same_iff (m n : Number) : m.same n = true ↔ m.code = n.code := by
  cases m <;> cases n <;> simp [same, code] <;> omega

namespace Value

mutual

def coded : Value → Value
  | number n => int n.code
  | array items => array (codedItems items)
  | object fields => object (codedFields fields)
  | v => v

def codedItems : List Value → List Value
  | [] => []
  | v :: vs => coded v :: codedItems vs

def codedFields : List (String × Value) → List (String × Value)
  | [] => []
  | (k, v) :: fs => (k, coded v) :: codedFields fs

end

mutual

lemma same_iff (a b : Value) : a.same b = true ↔ a.coded = b.coded := by
  cases a with
  | array as =>
    cases b with
    | array bs => simpa [same, coded] using sameItems_iff as bs
    | _ => simp [same, coded, int]
  | object d =>
    cases b with
    | object e => simpa [same, coded] using sameFields_iff d e
    | _ => simp [same, coded, int]
  | _ => cases b <;> simp [same, coded, int, Number.same_iff]

lemma sameItems_iff (as bs : List Value) : sameItems as bs = true ↔ codedItems as = codedItems bs := by
  cases as with
  | nil => cases bs <;> simp [sameItems, codedItems]
  | cons a as =>
    cases bs with
    | nil => simp [sameItems, codedItems]
    | cons b bs => simp [sameItems, codedItems, same_iff a b, sameItems_iff as bs]

lemma sameFields_iff (d e : List (String × Value)) : sameFields d e = true ↔ codedFields d = codedFields e := by
  match d, e with
  | [], e => cases e <;> simp [sameFields, codedFields]
  | f :: d, [] => simp [sameFields, codedFields]
  | (k, v) :: d, (l, w) :: e =>
    simp [sameFields, codedFields, same_iff v w, sameFields_iff d e, and_assoc]

end

lemma ordinal?_number (n : Number) : (number n).ordinal? = some n.ordinal := rfl

lemma ordinal?_of_coded {a b : Value} (h : a.coded = b.coded) : a.ordinal? = b.ordinal? := by
  cases a <;> cases b <;> simp [coded, int] at h
  case number.number m n =>
    rw [ordinal?_number, ordinal?_number]
    cases m <;> cases n <;> simp only [Number.code] at h
    case int.int m n =>
      obtain rfl : m = n := by omega
      rfl
    case float.float x y =>
      have hxy : Binary64.ordinal x = Binary64.ordinal y := by omega
      exact congrArg some hxy
    all_goals omega
  case string.string s t => rw [h]
  all_goals rfl

def looseKey (v : Value) : Int ⊕ Value :=
  match v.ordinal? with
  | some n => .inl n
  | none => .inr v.coded

lemma looseEquals_iff (a b : Value) : a.looseEquals b = true ↔ a.looseKey = b.looseKey := by
  -- a value that stands for a number is not the same as one that does not
  have hmixed : a.ordinal? ≠ b.ordinal? → a.same b = false := by
    intro h
    rw [← Bool.not_eq_true, same_iff]
    exact mt ordinal?_of_coded h
  cases ha : a.ordinal? <;> cases hb : b.ordinal? <;> simp_all [looseEquals, looseKey, same_iff]

section Objects

open Dict

variable {d e : Dict Value}

lemma deepEqualFields_cons {f g : String × Value} : deepEqualFields (f :: d) (g :: e) = true ↔
    f.1 = g.1 ∧ f.2.deepEqual g.2 = true ∧ deepEqualFields d e = true := by
  simp [deepEqualFields, and_assoc]

lemma keys_of_deepEqualFields (h : deepEqualFields d e = true) : keys d = keys e := by
  induction d generalizing e with
  | nil =>
    cases e with
    | nil => rfl
    | cons g e => simp [deepEqualFields] at h
  | cons f d ih =>
    cases e with
    | nil => simp [deepEqualFields] at h
    | cons g e =>
      obtain ⟨hk, -, h⟩ := deepEqualFields_cons.mp h
      exact congrArg₂ List.cons hk (ih h)

lemma deepEqualFields_iff_find? (hk : keys d = keys e) (hd : (keys d).Nodup) :
    deepEqualFields d e = true ↔ ∀ f ∈ d, ∃ w, find? f.1 e = some w ∧ f.2.deepEqual w = true := by
  induction d generalizing e with
  | nil =>
    cases e with
    | nil => simp [deepEqualFields]
    | cons g e => simp [keys] at hk
  | cons f d ih =>
    cases e with
    | nil => simp [keys] at hk
    | cons g e =>
      obtain ⟨hfg, hk⟩ : f.1 = g.1 ∧ keys d = keys e := by simpa [keys] using hk
      obtain ⟨hnew, hd⟩ : f.1 ∉ keys d ∧ (keys d).Nodup := List.nodup_cons.mp hd
      have hhead : find? f.1 (g :: e) = some g.2 := by
        rw [hfg]
        exact if_pos rfl
      have hrest : ∀ f' ∈ d, find? f'.1 (g :: e) = find? f'.1 e := by
        intro f' hf
        refine if_neg fun h => hnew ?_
        rw [hfg, ← h]
        exact List.mem_map.mpr ⟨f', hf, rfl⟩
      rw [deepEqualFields_cons, ih hk hd, List.forall_mem_cons, hhead]
      simp +contextual [hfg, hrest]

lemma deepEqual_object_iff (hd : Sorted d) (he : Sorted e) :
    (object d).deepEqual (object e) = true ↔
      d.length = e.length ∧ ∀ f ∈ d, ∃ w, find? f.1 e = some w ∧ f.2.deepEqual w = true := by
  rw [deepEqual]
  constructor
  · intro h
    have hk := keys_of_deepEqualFields h
    have hl : (keys d).length = (keys e).length := congrArg List.length hk
    exact ⟨by simpa [keys] using hl, (deepEqualFields_iff_find? hk hd.nodup).mp h⟩
  · rintro ⟨hl, h⟩
    have hsub : keys d ⊆ keys e := by
      intro k hk
      obtain ⟨f, hf, rfl⟩ := List.mem_map.mp hk
      obtain ⟨w, hw, -⟩ := h f hf
      exact List.mem_map.mpr ⟨_, mem_of_find? hw, rfl⟩
    exact (deepEqualFields_iff_find? (keys_eq_of_subset hd he hl hsub) hd.nodup).mpr h

end Objects

def compareNumbers (v w : Value) : Option Ordering :=
  match v.ordinal?, w.ordinal? with
  | some m, some n => some (compare m n)
  | _, _ => none

lemma compareNumbers_swap (v w : Value) : w.compareNumbers v = (v.compareNumbers w).map Ordering.swap := by
  rw [compareNumbers, compareNumbers]
  cases v.ordinal? with
  | none => cases w.ordinal? <;> rfl
  | some m =>
    cases w.ordinal? with
    | none => rfl
    | some n => exact congrArg some Std.OrientedOrd.eq_swap

def compareDated : Value → Value → Option Ordering
  | string s, string t => some (compare s t)
  | bool x, bool y => some (compare x y)
  | null, _ | _, null => none
  | v, w => v.compareNumbers w

lemma partialCompare_eq (a b : Value) : a.partialCompare b = a.dated.compareDated b.dated := rfl

lemma compareDated_swap (v w : Value) : w.compareDated v = (v.compareDated w).map Ordering.swap := by
  cases v <;> cases w <;> simp only [compareDated, Option.map_none, Option.map_some]
  case bool.bool x y => rw [Std.OrientedOrd.eq_swap]
  case string.string s t => rw [Std.OrientedOrd.eq_swap]
  all_goals exact compareNumbers_swap _ _

lemma partialCompare_swap (a b : Value) : b.partialCompare a = (a.partialCompare b).map Ordering.swap := by
  rw [partialCompare_eq, partialCompare_eq, compareDated_swap]

structure Between (low v high : Value) : Prop where
  comparable_low : (v.partialCompare low).isSome
  comparable_high : (v.partialCompare high).isSome
  not_less : v.partialCompare low ≠ some .lt
  not_greater : v.partialCompare high ≠ some .gt

lemma isBetween_iff (low v high : Value) : Test.isBetween v [low, high] = true ↔ Between low v high := by
  have hlow : ((low.partialCompare v).any Ordering.isLE = true) ↔
      (v.partialCompare low).isSome ∧ v.partialCompare low ≠ some .lt := by
    rw [partialCompare_swap v low]
    rcases v.partialCompare low with _ | _ | _ | _ <;> simp
  have hhigh : ((v.partialCompare high).any Ordering.isLE = true) ↔
      (v.partialCompare high).isSome ∧ v.partialCompare high ≠ some .gt := by
    rcases v.partialCompare high with _ | _ | _ | _ <;> simp
  rw [Test.isBetween, Bool.and_eq_true_iff, hlow, hhigh]
  constructor
  · rintro ⟨⟨hl, hnl⟩, hh, hnh⟩
    exact ⟨hl, hh, hnl, hnh⟩
  · rintro ⟨hl, hh, hnl, hnh⟩
    exact ⟨⟨hl, hnl⟩, hh, hnh⟩

lemma eval_between (rs : Results) (row : Row) (c : Column) (low high : Value) :
    (Test.between c [.value low, .value high]).eval rs row = some true ↔
      row.coversColumn c = true ∧ Between low (row.read c) high := by
  have hvalues : Operand.valuesOfAll rs false [.value low, .value high] = [low, high] := by
    cases low <;> cases high <;> rfl
  rw [Test.eval, Test.onColumn, hvalues, ← isBetween_iff]
  cases row.coversColumn c <;> simp

theorem equalities_and_bounds :
    Equivalence (fun a b : Value => a.deepEqual b = true) ∧
    Equivalence (fun a b : Value => a.equals b = true) ∧
    Equivalence (fun a b : Value => a.looseEquals b = true) ∧
    (∀ d e : Dict Value, Dict.Sorted d → Dict.Sorted e → ((object d).deepEqual (object e) = true ↔
      d.length = e.length ∧ ∀ f ∈ d, ∃ w, Dict.find? f.1 e = some w ∧ f.2.deepEqual w = true)) ∧
    (∀ a b : Value, a.deepEqual b = true → a.order b = .eq) ∧
    (∀ a b : Value, b.partialCompare a = (a.partialCompare b).map Ordering.swap) ∧
    ∀ (rs : Results) (row : Row) (c : Column) (low high : Value),
      (Test.between c [.value low, .value high]).eval rs row = some true ↔
        row.coversColumn c = true ∧ Between low (row.read c) high := by
  refine ⟨?_, ?_, ?_, fun d e hd he => deepEqual_object_iff hd he, order_of_deepEqual, partialCompare_swap,
    eval_between⟩
  · simp only [deepEqual_iff]
    exact eq_equivalence.comap leveled
  · simp only [equals, deepEqual_iff]
    exact eq_equivalence.comap fun v : Value => v.dated.leveled
  · simp only [looseEquals_iff]
    exact eq_equivalence.comap looseKey

example : (object [("a", array [int 1])]).deepEqual (object [("a", array [float 1.0])]) = true ∧
    (string "1970-01-02").equals (int 86400000) = true ∧ (string " 1.0").looseEquals (int 1) = true ∧
    (array [int 1]).looseEquals (array [float 1.0]) = false := by
  decide +kernel

end Value

end DocQuery
