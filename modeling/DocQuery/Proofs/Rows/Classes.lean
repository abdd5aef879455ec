import DocQuery.Proofs.Values
import DocQuery.Rows.Sorting
import Mathlib.Data.List.Induction
import Mathlib.Data.List.Perm.Basic
import Mathlib.Tactic.Lemma

namespace DocQuery.Rows

section Classes

variable {α β κ : Type}

def classes (like : α → α → Bool) (xs : List α) : List (List α) :=
  (xs.eraseDupsBy like).map fun x => xs.filter (like x)

structure Separated (key : α → κ) (gs : List (List α)) : Prop where
  nonempty : ∀ g ∈ gs, g ≠ []
  agree : ∀ g ∈ gs, ∀ a ∈ g, ∀ b ∈ g, key a = key b
  differ : gs.Pairwise fun g g' => ∀ a ∈ g, ∀ b ∈ g', key a ≠ key b

lemma Separated.tail {key : α → κ} {g : List α} {gs : List (List α)} (h : Separated key (g :: gs)) :
    Separated key gs where
  nonempty g' hg := h.nonempty g' (List.mem_cons_of_mem _ hg)
  agree g' hg := h.agree g' (List.mem_cons_of_mem _ hg)
  differ := (List.pairwise_cons.mp h.differ).2

lemma eraseDupsBy_append_singleton (like : α → α → Bool) (xs : List α) (x : α) :
    (xs ++ [x]).eraseDupsBy like =
      xs.eraseDupsBy like ++ if (xs.eraseDupsBy like).any (like x) then [] else [x] := by
  have hloop : ∀ seen, List.eraseDupsBy.loop like (xs ++ [x]) seen =
      List.eraseDupsBy.loop like xs seen ++
        if (List.eraseDupsBy.loop like xs seen).any (like x) then [] else [x] := by
    induction xs with
    | nil =>
      intro seen
      simp only [List.nil_append, List.eraseDupsBy.loop, List.any_reverse]
      cases seen.any (like x) <;> simp
    | cons y xs ih =>
      intro seen
      cases hy : seen.any (like y) <;> simp only [List.cons_append, List.eraseDupsBy.loop, hy, ih]
  exact hloop []

lemma mem_of_mem_eraseDupsBy {like : α → α → Bool} {xs : List α} {x : α} (h : x ∈ xs.eraseDupsBy like) : x ∈ xs := by
  induction xs using List.reverseRecOn with
  | nil => exact h
  | append_singleton xs y ih =>
    rw [eraseDupsBy_append_singleton] at h
    rcases List.mem_append.mp h with h | h
    · exact List.mem_append_left _ (ih h)
    · split at h
      · exact nomatch h
      · exact List.mem_append_right _ h

variable {like : α → α → Bool} {key : α → κ}

lemma eraseDupsBy_map {like' : β → β → Bool} {f : α → β} {xs : List α}
    (h : ∀ a ∈ xs, ∀ b ∈ xs, like' (f a) (f b) = like a b) :
    (xs.map f).eraseDupsBy like' = (xs.eraseDupsBy like).map f := by
  induction xs using List.reverseRecOn with
  | nil => simp [List.eraseDupsBy_nil]
  | append_singleton xs x ih =>
    have ih := ih fun a ha b hb => h a (List.mem_append_left _ ha) b (List.mem_append_left _ hb)
    have hany : ((xs.eraseDupsBy like).map f).any (like' (f x)) = (xs.eraseDupsBy like).any (like x) := by
      rw [List.any_map, Bool.eq_iff_iff, List.any_eq_true, List.any_eq_true]
      refine exists_congr fun y => and_congr_right fun hy => ?_
      rw [Function.comp_apply, h x (by simp) y (by simp [mem_of_mem_eraseDupsBy hy])]
    simp only [List.map_append, List.map_cons, List.map_nil, eraseDupsBy_append_singleton, ih, hany]
    split <;> simp

lemma classes_map {like' : β → β → Bool} {f : α → β} {xs : List α}
    (h : ∀ a ∈ xs, ∀ b ∈ xs, like' (f a) (f b) = like a b) :
    classes like' (xs.map f) = (classes like xs).map (·.map f) := by
  rw [classes, classes, eraseDupsBy_map h, List.map_map, List.map_map]
  apply List.map_congr_left
  intro x hx
  rw [Function.comp_apply, Function.comp_apply, List.filter_map]
  congr 1
  apply List.filter_congr
  intro y hy
  exact h x (mem_of_mem_eraseDupsBy hx) y hy

lemma classes_induction (like : α → α → Bool) {motive : List α → Prop} (nil : motive [])
    (cons : ∀ x xs, motive (xs.filter (!like x ·)) → motive (x :: xs)) (xs : List α) : motive xs := by
  induction h : xs.length using Nat.strongRecOn generalizing xs with
  | _ n ih =>
    cases xs with
    | nil => exact nil
    | cons x xs =>
      refine cons x xs (ih _ ?_ _ rfl)
      have := List.length_filter_le (!like x ·) xs
      rw [List.length_cons] at h
      omega

variable (hlike : ∀ a b, like a b = true ↔ key a = key b)

include hlike

lemma pairwise_eraseDupsBy (xs : List α) : (xs.eraseDupsBy like).Pairwise fun a b => key a ≠ key b := by
  induction xs using List.reverseRecOn with
  | nil => exact .nil
  | append_singleton xs x ih =>
    rw [eraseDupsBy_append_singleton]
    split
    · rwa [List.append_nil]
    · next hx =>
      refine List.pairwise_append.mpr ⟨ih, List.pairwise_singleton _ _, fun a ha b hb hab => hx ?_⟩
      rw [List.mem_singleton.mp hb] at hab
      exact List.any_eq_true.mpr ⟨a, ha, (hlike x a).mpr hab.symm⟩

lemma any_eraseDupsBy (xs : List α) (x : α) : (xs.eraseDupsBy like).any (like x) = xs.any (like x) := by
  induction xs using List.reverseRecOn with
  | nil => rfl
  | append_singleton xs y ih =>
    rw [eraseDupsBy_append_singleton, List.any_append, List.any_append, ih]
    split
    · next hy =>
      -- what is like `y` is like one before it
      obtain ⟨z, hz, hyz⟩ := List.any_eq_true.mp hy
      have hsame : like x y = like x z := by rw [Bool.eq_iff_iff, hlike, hlike, (hlike y z).mp hyz]
      have hxz : like x z = true → xs.any (like x) = true := fun h => by
        rw [← ih]
        exact List.any_eq_true.mpr ⟨z, hz, h⟩
      cases h : like x z <;> simp_all
    · rfl

lemma classes_cons (x : α) (xs : List α) :
    classes like (x :: xs) = (x :: xs.filter (like x)) :: classes like (xs.filter (!like x ·)) := by
  have hx : like x x = true := (hlike x x).mpr rfl
  have hrest : (xs.filter fun y => decide (like y x = false)) = xs.filter (!like x ·) := by
    apply List.filter_congr
    intro y _
    have hs : like y x = like x y := by rw [Bool.eq_iff_iff, hlike, hlike, eq_comm]
    rw [hs]
    cases like x y <;> rfl
  rw [classes, List.eraseDupsBy_cons, List.map_cons, hrest, List.filter_cons_of_pos hx, classes]
  congr 1
  apply List.map_congr_left
  intro y hy
  -- `y` is one of the others, so what is like it is not like `x`
  have hy : like x y = false := by
    simpa using (List.mem_filter.mp (mem_of_mem_eraseDupsBy hy)).2
  have hyx : ¬ like y x = true := by
    rw [hlike, eq_comm, ← hlike, hy]
    simp
  rw [List.filter_cons_of_neg hyx, List.filter_filter]
  apply List.filter_congr
  intro z _
  cases hz : like y z with
  | false => rfl
  | true =>
    have : like x z = like x y := by rw [Bool.eq_iff_iff, hlike, hlike, (hlike y z).mp hz]
    simp [this, hy]

lemma flatten_classes_perm (xs : List α) : (classes like xs).flatten.Perm xs := by
  induction xs using classes_induction like with
  | nil => exact .refl _
  | cons x xs ih =>
    rw [classes_cons hlike, List.flatten_cons, List.cons_append]
    exact ((ih.append_left _).trans (List.filter_append_perm _ _)).cons x

lemma classes_flatten {gs : List (List α)} (h : Separated key gs) : classes like gs.flatten = gs := by
  induction gs with
  | nil => rfl
  | cons g gs ih =>
    cases g with
    | nil => exact (h.nonempty [] List.mem_cons_self rfl).elim
    | cons x g =>
      have hown : ∀ y ∈ g, like x y = true := fun y hy =>
        (hlike x y).mpr (h.agree _ List.mem_cons_self x List.mem_cons_self y (List.mem_cons_of_mem _ hy))
      have hother : ∀ y ∈ gs.flatten, ¬ like x y = true := by
        intro y hy hxy
        obtain ⟨g', hg, hy⟩ := List.mem_flatten.mp hy
        exact (List.pairwise_cons.mp h.differ).1 g' hg x List.mem_cons_self y hy ((hlike x y).mp hxy)
      have hlikes : (g ++ gs.flatten).filter (like x) = g := by
        rw [List.filter_append, List.filter_eq_self.mpr hown, List.filter_eq_nil_iff.mpr hother, List.append_nil]
      have hothers : (g ++ gs.flatten).filter (!like x ·) = gs.flatten := by
        rw [List.filter_append, List.filter_eq_nil_iff.mpr (by simpa using hown),
          List.filter_eq_self.mpr (by simpa using hother), List.nil_append]
      rw [List.flatten_cons, List.cons_append, classes_cons hlike, hlikes, hothers, ih h.tail]

lemma classes_separated (xs : List α) : Separated key (classes like xs) where
  nonempty g hg := by
    obtain ⟨x, hx, rfl⟩ := List.mem_map.mp hg
    exact List.ne_nil_of_mem (List.mem_filter.mpr ⟨mem_of_mem_eraseDupsBy hx, (hlike x x).mpr rfl⟩)
  agree g hg a ha b hb := by
    obtain ⟨x, _, rfl⟩ := List.mem_map.mp hg
    rw [← (hlike x a).mp (List.mem_filter.mp ha).2, (hlike x b).mp (List.mem_filter.mp hb).2]
  differ := by
    refine List.pairwise_map.mpr ((pairwise_eraseDupsBy hlike xs).imp ?_)
    intro x y hxy a ha b hb hab
    rw [← (hlike x a).mp (List.mem_filter.mp ha).2, ← (hlike y b).mp (List.mem_filter.mp hb).2] at hab
    exact hxy hab

lemma classes_flatten_classes (xs : List α) : classes like (classes like xs).flatten = classes like xs :=
  classes_flatten hlike (classes_separated hlike xs)

end Classes

lemma mergeSort_pair {α : Type} (le : α → α → Bool) (a b : α) :
    [a, b].mergeSort le = if le a b then [a, b] else [b, a] := by
  simp [List.mergeSort, List.MergeSort.Internal.splitInTwo, List.merge]

section Partition

def alike (key : Row → List Value) (a b : Row) : Bool := sameKey (key a) (key b)

lemma sameKey_iff {κ : Type} (keys : List κ) (f g : κ → Value) :
    sameKey (keys.map f) (keys.map g) = true ↔
      (keys.map f).map Value.leveled = (keys.map g).map Value.leveled := by
  simp [sameKey, List.zip_map', Value.deepEqual_iff, List.map_inj_left]

lemma alike_iff {keys : List SortKey} {value : Row → Column → Value} {a b : Row} :
    alike (fun r => keys.map fun k => value r k.column) a b = true ↔
      (keys.map fun k => value a k.column).map Value.leveled = (keys.map fun k => value b k.column).map Value.leveled :=
  sameKey_iff keys _ _

lemma alike_groupKey_iff {keys : List SortKey} (a b : Row) :
    alike (groupKey keys) a b = true ↔
      (groupKey keys a).map Value.leveled = (groupKey keys b).map Value.leveled :=
  alike_iff

variable {keys : List SortKey}

lemma addToGroup_map {firsts : List Row} (hd : firsts.Pairwise fun a b => alike (groupKey keys) a b = false)
    (rowsOf : Row → List Row) (r : Row) :
    addToGroup keys r (firsts.map fun x => (groupKey keys x, rowsOf x)) =
      (firsts.map fun x => (groupKey keys x, rowsOf x ++ if alike (groupKey keys) x r then [r] else [])) ++
        if firsts.any (alike (groupKey keys) r) then [] else [(groupKey keys r, [r])] := by
  have hcomm : ∀ a b, alike (groupKey keys) a b = alike (groupKey keys) b a := fun a b => by
    rw [Bool.eq_iff_iff, alike_groupKey_iff, alike_groupKey_iff, eq_comm]
  induction firsts with
  | nil => rfl
  | cons x firsts ih =>
    obtain ⟨hx, hd⟩ := List.pairwise_cons.mp hd
    rw [List.map_cons, addToGroup, ← alike, List.any_cons, hcomm r x]
    cases hr : alike (groupKey keys) x r with
    | true =>
      -- no other group has the key
      have hrest : ∀ y ∈ firsts, alike (groupKey keys) y r = false := by
        intro y hy
        rw [← Bool.not_eq_true, alike_groupKey_iff, ← (alike_groupKey_iff x r).mp hr, eq_comm, ← alike_groupKey_iff,
          hx y hy]
        simp
      have hsame : (firsts.map fun y => (groupKey keys y, rowsOf y)) =
          firsts.map fun y => (groupKey keys y, rowsOf y ++ if alike (groupKey keys) y r then [r] else []) := by
        apply List.map_congr_left
        intro y hy
        simp [hrest y hy]
      simp [hr, ← hsame]
    | false => simp [hr, ih hd]

lemma partition_eq_classes (hk : keys ≠ []) (rows : List Row) :
    partition keys rows = classes (alike (groupKey keys)) rows := by
  have hfold : rows.foldl (fun groups r => addToGroup keys r groups) [] =
      (rows.eraseDupsBy (alike (groupKey keys))).map fun x =>
        (groupKey keys x, rows.filter (alike (groupKey keys) x)) := by
    induction rows using List.reverseRecOn with
    | nil => rfl
    | append_singleton rows r ih =>
      have hd : (rows.eraseDupsBy (alike (groupKey keys))).Pairwise
          fun a b => alike (groupKey keys) a b = false :=
        (pairwise_eraseDupsBy alike_groupKey_iff rows).imp fun h => by rwa [← Bool.not_eq_true, alike_groupKey_iff]
      have hown : alike (groupKey keys) r r = true := (alike_groupKey_iff r r).mpr rfl
      rw [List.foldl_append, List.foldl_cons, List.foldl_nil, ih, addToGroup_map hd, eraseDupsBy_append_singleton,
        List.map_append]
      congr 1
      · apply List.map_congr_left
        intro x _
        simp [List.filter_append, List.filter_cons]
      · split
        · rfl
        · next hnew =>
          have hnone : rows.filter (alike (groupKey keys) r) = [] := by
            rw [any_eraseDupsBy alike_groupKey_iff, List.any_eq_true] at hnew
            exact List.filter_eq_nil_iff.mpr fun x hx hr => hnew ⟨x, hx, hr⟩
          simp [List.filter_append, hown, hnone]
  rw [partition, if_neg hk, hfold, List.map_map]
  rfl

lemma group_eq_flatten (keys : List SortKey) (rows : List Row) :
    group keys rows = (classes (alike (groupKey keys)) rows).flatten := by
  rw [group]
  split
  · next hk =>
    subst hk
    cases rows with
    | nil => rfl
    | cons r rows =>
      -- without keys all rows are one class
      have h : classes (alike (groupKey [])) [r :: rows].flatten = [r :: rows] :=
        classes_flatten alike_groupKey_iff ⟨by simp, fun _ _ _ _ _ _ => rfl, List.pairwise_singleton _ _⟩
      rw [List.flatten_cons, List.flatten_nil, List.append_nil] at h
      rw [h, List.flatten_cons, List.flatten_nil, List.append_nil]
  · next hk => rw [partition_eq_classes hk]

lemma group_perm (keys : List SortKey) (rows : List Row) : (group keys rows).Perm rows := by
  rw [group_eq_flatten]
  exact flatten_classes_perm alike_groupKey_iff rows

end Partition

end DocQuery.Rows
