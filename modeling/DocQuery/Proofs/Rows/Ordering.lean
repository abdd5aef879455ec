import DocQuery.Proofs.Value.Order
import DocQuery.Rows.Sorting
import Mathlib.Data.List.Perm.Basic
import Mathlib.Tactic.Lemma

/-! Rows in order. Sorting by a total preorder leaves level elements as they stand, and no other list that is in
order does; rows are compared entry by entry, so the first entry by which two of them differ decides. -/

namespace DocQuery.Rows

section Stable

variable {α : Type} (cmp : α → α → Ordering) [Std.TransCmp cmp]

lemma isLE_total (a b : α) : ((cmp a b).isLE || (cmp b a).isLE) = true :=
  Bool.or_eq_true_iff.mpr ((TotalPreorder.of_transCmp cmp).total a b)

lemma pairwise_mergeSort_isLE (xs : List α) :
    (xs.mergeSort fun a b => (cmp a b).isLE).Pairwise fun a b => (cmp a b).isLE = true :=
  List.pairwise_mergeSort (fun _ _ _ => Std.TransCmp.isLE_trans) (isLE_total cmp) xs

lemma filter_mergeSort (xs : List α) (x : α) :
    (xs.mergeSort fun a b => (cmp a b).isLE).filter (cmp x · = .eq) = xs.filter (cmp x · = .eq) := by
  have hlevel : (xs.filter (cmp x · = .eq)).Pairwise fun a b => (cmp a b).isLE = true := by
    refine List.pairwise_of_forall_mem_list fun a ha b hb => ?_
    have ha : cmp x a = .eq := by simpa using (List.mem_filter.mp ha).2
    have hb : cmp x b = .eq := by simpa using (List.mem_filter.mp hb).2
    rw [← Std.TransCmp.congr_left ha, hb]
    rfl
  have hsub := (List.sublist_mergeSort (fun _ _ _ => Std.TransCmp.isLE_trans) (isLE_total cmp) hlevel
    List.filter_sublist).filter (cmp x · = .eq)
  rw [List.filter_filter] at hsub
  simp only [Bool.and_self] at hsub
  refine (hsub.eq_of_length ?_).symm
  exact (((List.mergeSort_perm xs _).filter _).length_eq).symm

variable {cmp}

lemma mem_of_filter_eq {xs ys : List α} (h : ∀ x, xs.filter (cmp x · = .eq) = ys.filter (cmp x · = .eq)) {x : α}
    (hx : x ∈ xs) : x ∈ ys := by
  have hself : cmp x x = .eq := Std.ReflCmp.compare_self
  have hf : x ∈ xs.filter (cmp x · = .eq) := by simp [hx, hself]
  rw [h x] at hf
  exact (List.mem_filter.mp hf).1

lemma isLE_of_mem {x y : α} {xs : List α} (h : (x :: xs).Pairwise fun a b => (cmp a b).isLE = true)
    (hy : y ∈ x :: xs) : (cmp x y).isLE = true := by
  rcases List.mem_cons.mp hy with rfl | hy
  · exact Std.ReflCmp.isLE_rfl
  · exact List.rel_of_pairwise_cons h hy

lemma eq_of_filter_eq {xs ys : List α} (hx : xs.Pairwise fun a b => (cmp a b).isLE = true)
    (hy : ys.Pairwise fun a b => (cmp a b).isLE = true)
    (h : ∀ x, xs.filter (cmp x · = .eq) = ys.filter (cmp x · = .eq)) : xs = ys := by
  induction xs generalizing ys with
  | nil =>
    cases ys with
    | nil => rfl
    | cons y ys => exact nomatch mem_of_filter_eq (fun x => (h x).symm) List.mem_cons_self
  | cons x xs ih =>
    cases ys with
    | nil => exact nomatch mem_of_filter_eq h List.mem_cons_self
    | cons y ys =>
      -- each of the first elements is in the other list, so they are level, and then one
      have hxy : cmp x y = .eq := Std.OrientedCmp.isLE_antisymm
        (isLE_of_mem hx (mem_of_filter_eq (fun x => (h x).symm) List.mem_cons_self))
        (isLE_of_mem hy (mem_of_filter_eq h List.mem_cons_self))
      have hhead := h x
      simp only [List.filter_cons, hxy, Std.ReflCmp.compare_self, decide_true, if_true, List.cons.injEq] at hhead
      obtain ⟨rfl, -⟩ := hhead
      have hrest : xs = ys := by
        apply ih (List.pairwise_cons.mp hx).2 (List.pairwise_cons.mp hy).2
        intro z
        have hz := h z
        simp only [List.filter_cons] at hz
        split at hz
        · exact (List.cons.inj hz).2
        · exact hz
      rw [hrest]

end Stable

section Entries

def entryOrder (k : SortKey) (a b : Row) : Ordering := (sortValue a k.column).order (sortValue b k.column)

def Allows (k : SortKey) (a b : Row) : Prop :=
  match k.direction with
  | .ascending => entryOrder k a b ≠ .gt
  | .descending => entryOrder k a b ≠ .lt

def Level (keys : List SortKey) (a b : Row) : Prop := ∀ k ∈ keys, entryOrder k a b = .eq

instance (keys : List SortKey) (a b : Row) : Decidable (Level keys a b) :=
  inferInstanceAs (Decidable (∀ k ∈ keys, _))

def InOrder (keys : List SortKey) (a b : Row) : Prop :=
  ∀ earlier k later, keys = earlier ++ k :: later → Level earlier a b → Allows k a b

variable {keys : List SortKey} {a b : Row}

instance (k : SortKey) : Std.TransCmp (entryOrder k) where
  eq_swap := (TotalPreorder.of_transCmp Value.order).swap _ _
  isLE_trans := (TotalPreorder.of_transCmp Value.order).trans _ _ _

def directed (k : SortKey) (a b : Row) : Ordering := k.direction.apply (entryOrder k a b)

instance (k : SortKey) : Std.TransCmp (directed k) := by
  obtain ⟨c, direction⟩ := k
  cases direction with
  | ascending => exact inferInstanceAs (Std.TransCmp (entryOrder ⟨c, .ascending⟩))
  | descending =>
    have hswap : directed ⟨c, .descending⟩ = fun a b => entryOrder ⟨c, .descending⟩ b a := by
      funext a b
      exact Std.OrientedCmp.eq_swap.symm
    rw [hswap]
    exact Std.TransCmp.opposite

instance (keys : List SortKey) : Std.TransCmp (compare keys) := by
  induction keys with
  | nil =>
    have : Std.OrientedCmp (compare []) := ⟨rfl⟩
    exact ⟨fun _ _ => rfl⟩
  | cons k keys ih => exact inferInstanceAs (Std.TransCmp (compareLex (directed k) (compare keys)))

lemma directed_eq_iff {k : SortKey} : directed k a b = .eq ↔ entryOrder k a b = .eq := by
  rw [directed]
  cases k.direction with
  | ascending => rfl
  | descending => exact Ordering.swap_eq_eq

lemma directed_isLE_iff {k : SortKey} : (directed k a b).isLE = true ↔ Allows k a b := by
  rw [directed, Allows]
  cases k.direction <;> cases entryOrder k a b <;> simp [Direction.apply]

lemma level_iff : Level keys a b ↔ compare keys a b = .eq := by
  induction keys with
  | nil => simp [Level, compare]
  | cons k keys ih =>
    rw [Level, List.forall_mem_cons, ← Level, ih, ← directed_eq_iff]
    exact Ordering.then_eq_eq.symm

lemma inOrder_cons {k : SortKey} :
    InOrder (k :: keys) a b ↔ Allows k a b ∧ (entryOrder k a b = .eq → InOrder keys a b) := by
  constructor
  · intro h
    refine ⟨h [] k keys rfl nofun, fun hk earlier k' later hs hl => ?_⟩
    exact h (k :: earlier) k' later (congrArg (k :: ·) hs) (List.forall_mem_cons.mpr ⟨hk, hl⟩)
  · rintro ⟨hk, h⟩ earlier k' later hs hl
    cases earlier with
    | nil =>
      obtain ⟨rfl, -⟩ := List.cons.inj hs
      exact hk
    | cons k'' earlier =>
      obtain ⟨rfl, hrest⟩ := List.cons.inj hs
      obtain ⟨hk, hl⟩ := List.forall_mem_cons.mp hl
      exact h hk earlier k' later hrest hl

lemma inOrder_iff : InOrder keys a b ↔ (compare keys a b).isLE = true := by
  induction keys with
  | nil => simp [InOrder, compare]
  | cons k keys ih =>
    rw [inOrder_cons, ← directed_isLE_iff, ← directed_eq_iff, ih]
    change _ ↔ ((directed k a b).then (compare keys a b)).isLE = true
    cases directed k a b <;> simp

end Entries

theorem order_arranges (keys : List SortKey) (rows : List Row) :
    (TotalPreorder Value.order ∧ TotalPreorder (compare keys)) ∧
    (order keys rows).Perm rows ∧
    (order keys rows).Pairwise (InOrder keys) ∧
    (∀ r, (order keys rows).filter (Level keys r) = rows.filter (Level keys r)) ∧
    ∀ sorted : List Row, sorted.Pairwise (InOrder keys) →
      (∀ r, sorted.filter (Level keys r) = rows.filter (Level keys r)) → sorted = order keys rows := by
  have hin : InOrder keys = fun a b => (compare keys a b).isLE = true := funext₂ fun _ _ => propext inOrder_iff
  have hpairwise := pairwise_mergeSort_isLE (compare keys) rows
  have hfilter := filter_mergeSort (compare keys) rows
  simp only [hin, level_iff]
  refine ⟨⟨.of_transCmp _, .of_transCmp _⟩, List.mergeSort_perm _ _, hpairwise, hfilter, fun sorted hs hf => ?_⟩
  exact eq_of_filter_eq hs hpairwise fun r => (hf r).trans (hfilter r).symm

end DocQuery.Rows
