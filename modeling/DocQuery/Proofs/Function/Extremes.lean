import DocQuery.Function.Aggregate
import DocQuery.Limit
import DocQuery.Proofs.Rows.Ordering

namespace DocQuery

section Stable

variable {α : Type} {cmp : α → α → Ordering}

def FirstLeast (cmp : α → α → Ordering) (xs : List α) (x : α) : Prop :=
  ∃ before after, xs = before ++ x :: after ∧ (∀ y ∈ before, cmp x y = .lt) ∧ ∀ y ∈ after, (cmp x y).isLE = true

def lesser (cmp : α → α → Ordering) (best x : α) : α := if cmp x best = .lt then x else best

namespace FirstLeast

variable {xs : List α} {x y : α}

lemma mem (h : FirstLeast cmp xs x) : x ∈ xs := by
  obtain ⟨before, after, rfl, -, -⟩ := h
  simp

lemma cons_of_lt (h : FirstLeast cmp xs x) (hy : cmp x y = .lt) : FirstLeast cmp (y :: xs) x := by
  obtain ⟨before, after, rfl, hb, ha⟩ := h
  exact ⟨y :: before, after, rfl, List.forall_mem_cons.mpr ⟨hy, hb⟩, ha⟩

variable [Std.TransCmp cmp]

lemma isLE (h : FirstLeast cmp xs x) (hy : y ∈ xs) : (cmp x y).isLE = true := by
  obtain ⟨before, after, rfl, hb, ha⟩ := h
  rcases List.mem_append.mp hy with hy | hy
  · rw [hb y hy]
    rfl
  · rcases List.mem_cons.mp hy with rfl | hy
    · exact Std.ReflCmp.isLE_rfl
    · exact ha y hy

lemma insert_second {b : α} (h : FirstLeast cmp (b :: xs) x) (hy : (cmp b y).isLE = true) :
    FirstLeast cmp (b :: y :: xs) x := by
  obtain ⟨before, after, he, hb, ha⟩ := h
  cases before with
  | nil =>
    obtain ⟨rfl, rfl⟩ := List.cons.inj he
    exact ⟨[], y :: xs, rfl, nofun, List.forall_mem_cons.mpr ⟨hy, ha⟩⟩
  | cons c before =>
    obtain ⟨rfl, rfl⟩ := List.cons.inj he
    obtain ⟨hxb, hb⟩ := List.forall_mem_cons.mp hb
    have hxy : cmp x y = .lt := Std.TransCmp.lt_of_lt_of_isLE hxb hy
    refine ⟨b :: y :: before, after, rfl, ?_, ha⟩
    exact List.forall_mem_cons.mpr ⟨hxb, List.forall_mem_cons.mpr ⟨hxy, hb⟩⟩

lemma foldl_lesser (x : α) (xs : List α) : FirstLeast cmp (x :: xs) (xs.foldl (lesser cmp) x) := by
  induction xs generalizing x with
  | nil => exact ⟨[], [], rfl, nofun, nofun⟩
  | cons y xs ih =>
    rw [List.foldl_cons, lesser]
    split
    · next hlt => exact (ih y).cons_of_lt (Std.TransCmp.lt_of_isLE_of_lt ((ih y).isLE List.mem_cons_self) hlt)
    · next hlt =>
      apply (ih x).insert_second
      have hswap : cmp x y = (cmp y x).swap := Std.OrientedCmp.eq_swap
      cases hc : cmp y x <;> simp_all

lemma head_of_sorted {rest : List α} (h : (xs.mergeSort fun a b => (cmp a b).isLE) = x :: rest) :
    FirstLeast cmp xs x := by
  have hle : ∀ y ∈ xs, (cmp x y).isLE = true := by
    intro y hy
    have hsorted := Rows.pairwise_mergeSort_isLE cmp xs
    rw [h] at hsorted
    exact Rows.isLE_of_mem hsorted (h ▸ List.mem_mergeSort.mpr hy)
  -- the elements level with the first are in the list as they are in the sorted one
  have hlevel := Rows.filter_mergeSort cmp xs x
  have hself : cmp x x = .eq := Std.ReflCmp.compare_self
  rw [h, List.filter_cons, if_pos (by simp [hself])] at hlevel
  obtain ⟨before, after, rfl, hb, -, -⟩ := List.filter_eq_cons_iff.mp hlevel.symm
  refine ⟨before, after, rfl, fun y hy => ?_, fun y hy => hle y (by simp [hy])⟩
  have hne : cmp x y ≠ .eq := by simpa using hb y hy
  have hyle := hle y (by simp [hy])
  cases hc : cmp x y <;> simp_all

lemma eq (hx : FirstLeast cmp xs x) (hy : FirstLeast cmp xs y) : x = y := by
  have hxy := hx.isLE hy.mem
  have hyx := hy.isLE hx.mem
  have heq : cmp x y = .eq := Std.OrientedCmp.isLE_antisymm hxy hyx
  obtain ⟨before, after, rfl, hb, -⟩ := hx
  obtain ⟨before', after', he, hb', -⟩ := hy
  -- neither stands before the other, since they are level
  rcases List.append_eq_append_iff.mp he with ⟨mid, rfl, hmid⟩ | ⟨mid, rfl, hmid⟩
  · cases mid with
    | nil => exact (List.cons.inj hmid).1
    | cons z mid =>
      obtain ⟨rfl, -⟩ := List.cons.inj hmid
      have hlt := hb' x (by simp)
      cases Std.OrientedCmp.gt_of_lt hlt |>.symm.trans heq
  · cases mid with
    | nil => exact (List.cons.inj hmid).1.symm
    | cons z mid =>
      obtain ⟨rfl, -⟩ := List.cons.inj hmid
      have hlt := hb y (by simp)
      rw [heq] at hlt
      cases hlt

end FirstLeast

lemma head?_mergeSort_cons [Std.TransCmp cmp] (x : α) (xs : List α) :
    ((x :: xs).mergeSort fun a b => (cmp a b).isLE).head? = some (xs.foldl (lesser cmp) x) := by
  cases hs : (x :: xs).mergeSort fun a b => (cmp a b).isLE with
  | nil => exact absurd (congrArg List.length hs) (by simp)
  | cons y rest => exact congrArg some ((FirstLeast.head_of_sorted hs).eq (FirstLeast.foldl_lesser x xs))

lemma filter_mergeSort_isLE [Std.TransCmp cmp] (p : α → Bool) (xs : List α) :
    (xs.mergeSort fun a b => (cmp a b).isLE).filter p = (xs.filter p).mergeSort fun a b => (cmp a b).isLE := by
  apply Rows.eq_of_filter_eq ((Rows.pairwise_mergeSort_isLE cmp xs).filter p) (Rows.pairwise_mergeSort_isLE cmp _)
  intro x
  rw [Rows.filter_mergeSort, List.filter_comm, Rows.filter_mergeSort, List.filter_comm]

end Stable

namespace Value

def ordered (d : Direction) (v w : Value) : Ordering := d.apply (v.order w)

instance (d : Direction) : Std.TransCmp (ordered d) := by
  cases d with
  | ascending => exact inferInstanceAs (Std.TransCmp order)
  | descending =>
    have hswap : ordered .descending = fun v w => order w v := by
      funext v w
      exact Std.OrientedCmp.eq_swap.symm
    rw [hswap]
    exact Std.TransCmp.opposite

def sorted (d : Direction) (vs : List Value) : List Value := vs.mergeSort fun v w => (ordered d v w).isLE

lemma isNull_eq_false_iff {v : Value} : (!v.isNull) = true ↔ v ≠ .null := by
  cases v <;> simp [isNull]

lemma sorted_sortValues (d : Direction) (c : Column) (rows : List Row) :
    (Rows.order [⟨c, d⟩] rows).map (Rows.sortValue · c) = sorted d (rows.map (Rows.sortValue · c)) := by
  refine List.map_mergeSort fun a _ b _ => ?_
  rw [Rows.compare, Rows.compare, Ordering.then_eq]
  rfl

end Value

namespace Aggregate

open Value

def ofDirection : Direction → Aggregate
  | .ascending => min
  | .descending => max

variable (d : Direction) (allRows : Bool)

lemma extreme_eq {d : Direction} {wanted : Ordering} (hw : ∀ v w, ordered d v w = .lt ↔ v.order w = wanted)
    (column : List Value) : extreme wanted column = (sorted d (column.filter (!·.isNull))).head?.getD .null := by
  rw [extreme]
  cases column.filter (!·.isNull) with
  | nil =>
    rw [sorted, List.mergeSort_nil]
    rfl
  | cons x xs =>
    rw [sorted, head?_mergeSort_cons, List.foldl_cons]
    dsimp only
    -- from the first value on there is a choice to keep or to give up
    induction xs generalizing x with
    | nil => rfl
    | cons y xs ih =>
      rw [List.foldl_cons, List.foldl_cons, lesser]
      by_cases hy : ordered d y x = .lt
      · rw [if_pos hy, ← ih y]
        simp only [(hw y x).mp hy, if_true]
      · rw [if_neg hy, ← ih x]
        simp only [mt (hw y x).mpr hy, if_false]

lemma apply_ofDirection (column : List Value) :
    (ofDirection d).apply allRows column = (sorted d (column.filter (!·.isNull))).head?.getD .null := by
  cases d with
  | ascending => exact extreme_eq (d := .ascending) (fun _ _ => Iff.rfl) column
  | descending => exact extreme_eq (d := .descending) (fun _ _ => Ordering.swap_eq_lt) column

lemma exists_sorted {column : List Value} (h : column.filter (!·.isNull) ≠ []) :
    ∃ rest, sorted d (column.filter (!·.isNull)) = (ofDirection d).apply allRows column :: rest := by
  rw [apply_ofDirection]
  cases hs : sorted d (column.filter (!·.isNull)) with
  | nil => exact absurd (List.nil_perm.mp (hs ▸ List.mergeSort_perm _ _)) h
  | cons x rest => exact ⟨rest, rfl⟩

lemma firstLeast_apply {column : List Value} (h : column.filter (!·.isNull) ≠ []) :
    FirstLeast (ordered d) (column.filter (!·.isNull)) ((ofDirection d).apply allRows column) := by
  obtain ⟨rest, hs⟩ := exists_sorted d allRows h
  exact .head_of_sorted hs

lemma apply_eq_null_iff (column : List Value) :
    (ofDirection d).apply allRows column = .null ↔ column.filter (!·.isNull) = [] := by
  constructor
  · intro hn
    by_contra h
    have hmem := (firstLeast_apply d allRows h).mem
    rw [hn] at hmem
    exact absurd (List.mem_filter.mp hmem).2 (by decide)
  · intro h
    rw [apply_ofDirection, h, sorted, List.mergeSort_nil]
    rfl

lemma take_sorted (column : List Value) : (sorted d (column.filter (!·.isNull))).take 1 =
    [(ofDirection d).apply allRows column].filter (!·.isNull) := by
  by_cases h : column.filter (!·.isNull) = []
  · rw [(apply_eq_null_iff d allRows column).mpr h, h, sorted, List.mergeSort_nil]
    rfl
  · have hmem := (List.mem_filter.mp (firstLeast_apply d allRows h).mem).2
    obtain ⟨rest, hs⟩ := exists_sorted d allRows h
    rw [hs, List.filter_cons, if_pos hmem]
    rfl

theorem apply_first (column : List Value) :
    (ofDirection d).apply allRows column = ((sorted d column).find? (!·.isNull)).getD .null ∧
    (∀ (rows : List Row) (c : Column),
      ((⟨1, none⟩ : Limit).apply (Rows.order [⟨c, d⟩] (rows.filter fun r => !(Rows.sortValue r c).isNull))).map
          (Rows.sortValue · c) =
        [(ofDirection d).apply allRows (rows.map (Rows.sortValue · c))].filter (!·.isNull)) ∧
    ((ofDirection d).apply allRows column = .null ↔ ∀ v ∈ column, v = .null) ∧
    ((ofDirection d).apply allRows column ≠ .null → (ofDirection d).apply allRows column ∈ column ∧
      ∀ v ∈ column, v ≠ .null → d.apply (v.order ((ofDirection d).apply allRows column)) ≠ .lt) := by
  refine ⟨?_, fun rows c => ?_, ?_, fun hne => ?_⟩
  · rw [apply_ofDirection, ← List.head?_filter, sorted, sorted, filter_mergeSort_isLE]
  · have hlimit : ∀ rows : List Row, (⟨1, none⟩ : Limit).apply rows = rows.take 1 := fun _ => rfl
    rw [hlimit, List.map_take, sorted_sortValues, ← take_sorted, List.filter_map]
    rfl
  · rw [apply_eq_null_iff, List.filter_eq_nil_iff]
    simp only [isNull_eq_false_iff, ne_eq, not_not]
  · have h := firstLeast_apply d allRows (mt (apply_eq_null_iff d allRows column).mpr hne)
    refine ⟨(List.mem_filter.mp h.mem).1, fun v hv hvn hlt => ?_⟩
    have hle := h.isLE (List.mem_filter.mpr ⟨hv, isNull_eq_false_iff.mpr hvn⟩)
    have hgt : ordered d ((ofDirection d).apply allRows column) v = .gt := Std.OrientedCmp.gt_of_lt hlt
    rw [hgt] at hle
    cases hle

def mixed : List Value :=
  [.null, .string "b", .object [("n", .bool true)], .array [.object []], .object [], .bool false]

theorem apply_first_mixed :
    max.apply false mixed = .object [("n", .bool true)] ∧ max.apply false mixed ≠ .null ∧
      max.apply false mixed ∈ mixed ∧ .object [] ∈ mixed ∧ .object [] ≠ Value.null ∧
      (Value.object []).order (max.apply false mixed) ≠ .gt ∧
      max.apply false mixed = ((sorted .descending mixed).find? (!·.isNull)).getD .null := by
  have hmax : max.apply false mixed = .object [("n", .bool true)] := rfl
  have hne : max.apply false mixed ≠ .null := by
    rw [hmax]
    nofun
  have hobject : .object [] ∈ mixed := by simp [mixed]
  obtain ⟨hfirst, -, -, hbest⟩ := apply_first .descending false mixed
  obtain ⟨hmem, hbest⟩ := hbest hne
  exact ⟨hmax, hne, hmem, hobject, nofun, mt Ordering.swap_eq_lt.mpr (hbest _ hobject nofun), hfirst⟩

end Aggregate

end DocQuery
