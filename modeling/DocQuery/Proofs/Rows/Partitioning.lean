import DocQuery.Proofs.Rows.Classes
import DocQuery.Proofs.Run.Calling
import Mathlib.Algebra.GroupWithZero.Nat

/-! Groups of rows as parts of the list that they are of. Each row is told by its place there, so that the groups
can be seen to hold every row once and in order, be it the same as another row or not. -/

namespace DocQuery.Rows

def Splits {α : Type} (xs : List α) (gs : List (List α)) : Prop :=
  ∃ placed : List (List (α × Nat)), gs = placed.map (·.map Prod.fst) ∧ placed.flatten.Perm xs.zipIdx ∧
    (∀ g ∈ placed, g.Sublist xs.zipIdx) ∧ (placed.filterMap List.head?).Sublist xs.zipIdx

section Places

variable {α κ : Type} {like : α → α → Bool} {key : α → κ} (hlike : ∀ a b, like a b = true ↔ key a = key b)

include hlike

lemma filterMap_head?_classes_sublist (xs : List α) : ((classes like xs).filterMap List.head?).Sublist xs := by
  induction xs using classes_induction like with
  | nil => exact .slnil
  | cons x xs ih =>
    rw [classes_cons hlike, List.filterMap_cons, List.head?_cons]
    exact (ih.trans List.filter_sublist).cons_cons x

lemma splits_classes (xs : List α) : Splits xs (classes like xs) := by
  have hplaced : ∀ a b : α × Nat, like a.1 b.1 = true ↔ key a.1 = key b.1 := fun a b => hlike a.1 b.1
  have hmap : classes like (xs.zipIdx.map Prod.fst) =
      (classes (fun a b => like a.1 b.1) xs.zipIdx).map (·.map Prod.fst) := classes_map fun _ _ _ _ => rfl
  rw [List.zipIdx_map_fst] at hmap
  refine ⟨_, hmap, flatten_classes_perm hplaced _, fun g hg => ?_, filterMap_head?_classes_sublist hplaced _⟩
  obtain ⟨x, -, rfl⟩ := List.mem_map.mp hg
  exact List.filter_sublist

end Places

section Groups

variable {keys : List SortKey}

def Agree (keys : List SortKey) (a b : Row) : Prop :=
  ∀ k ∈ keys, (sortValue a k.column).deepEqual (sortValue b k.column) = true

lemma agree_iff {a b : Row} :
    Agree keys a b ↔ (groupKey keys a).map Value.leveled = (groupKey keys b).map Value.leveled := by
  simp [Agree, groupKey, Value.deepEqual_iff, List.map_inj_left]

lemma partition_separated (hk : keys ≠ []) (rows : List Row) :
    Separated (fun r => (groupKey keys r).map Value.leveled) (partition keys rows) := by
  rw [partition_eq_classes hk]
  exact classes_separated alike_groupKey_iff rows

lemma partition_group (hk : keys ≠ []) (rows : List Row) : partition keys (group keys rows) = partition keys rows := by
  rw [group_eq_flatten, partition_eq_classes hk, partition_eq_classes hk, classes_flatten_classes alike_groupKey_iff]

lemma group_group (hk : keys ≠ []) (rows : List Row) : group keys (group keys rows) = group keys rows := by
  rw [group, if_neg hk, partition_group hk, group, if_neg hk]

lemma sum_length_partition (hk : keys ≠ []) (rows : List Row) :
    ((partition keys rows).map List.length).sum = rows.length := by
  rw [← List.length_flatten, partition_eq_classes hk]
  exact (flatten_classes_perm alike_groupKey_iff rows).length_eq

lemma length_inputs (c : Call) (rows : List Row) : (c.inputs rows).length = rows.length := by
  rw [Call.inputs]
  split <;> simp

lemma field_applyAll_count [Source] {calls : List Call} {c : Call} (hc : c ∈ calls)
    (hcount : c.aggregate? = some .count) (hall : c.ofAllRows = true)
    (hu : ∀ d ∈ calls, d.target = c.target → d = c) (table : Table) (g : List Row) :
    (Call.applyAll table calls g).map (·.field c.target) = [.ofNat g.length] := by
  have hany : calls.any (·.aggregate?.isSome) = true := List.any_eq_true.mpr ⟨c, hc, by simp [hcount]⟩
  rw [Call.applyAll_aggregates hany, List.map_singleton, Row.field, Call.find?_aggregated hc hcount hu, hall,
    Option.getD_some, Aggregate.apply, if_pos rfl, length_inputs]

end Groups

theorem partition_splits [Source] {keys : List SortKey} (hk : keys ≠ []) (rows : List Row) :
    Splits rows (partition keys rows) ∧
    (∀ g ∈ partition keys rows, g ≠ [] ∧ ∀ a ∈ g, ∀ b ∈ g, Agree keys a b) ∧
    ((partition keys rows).Pairwise fun g g' => ∀ a ∈ g, ∀ b ∈ g', ¬ Agree keys a b) ∧
    (group keys rows).Perm rows ∧
    group keys (group keys rows) = group keys rows ∧
    partition keys (group keys rows) = partition keys rows ∧
    ∀ (table : Table) (calls : List Call), ∀ c ∈ calls, c.aggregate? = some .count → c.ofAllRows = true →
      (∀ d ∈ calls, d.target = c.target → d = c) →
      ((partition keys rows).flatMap (Call.applyAll table calls)).map (·.field c.target) =
        ((partition keys rows).map List.length).map Value.ofNat ∧
      ((partition keys rows).map List.length).sum = rows.length := by
  have hsep := partition_separated hk rows
  refine ⟨?_, fun g hg => ⟨hsep.nonempty g hg, ?_⟩, ?_, group_perm keys rows, group_group hk rows,
    partition_group hk rows, ?_⟩
  · rw [partition_eq_classes hk]
    exact splits_classes alike_groupKey_iff rows
  · exact fun a ha b hb => agree_iff.mpr (hsep.agree g hg a ha b hb)
  · exact hsep.differ.imp fun h a ha b hb hab => h a ha b hb (agree_iff.mp hab)
  · intro table calls c hc hcount hall hu
    refine ⟨?_, sum_length_partition hk rows⟩
    rw [List.map_flatMap, List.map_map, List.map_eq_flatMap]
    exact List.flatMap_congr fun g _ => field_applyAll_count hc hcount hall hu table g

def tagged (key : String) (tag : Value) : Row := .ofValue (.named "users") key (.object [("tag", tag)])

def taggedRows : List Row :=
  [tagged "u1" (.array [.int 1]), tagged "u2" .null, tagged "u3" (.array [.float 1.0]), tagged "u1" (.array [.int 1])]

def byTag : List SortKey := [⟨.named "tag", .ascending⟩]

def countAll : Call := ⟨"COUNT", "n", [.column (.named "*")]⟩

theorem partition_splits_tags :
    byTag ≠ [] ∧ Splits taggedRows (partition byTag taggedRows) ∧
    (partition byTag taggedRows).map (·.map Row.key) = [["u1", "u3", "u1"], ["u2"]] ∧
    ((partition byTag taggedRows).flatMap (Call.applyAll (.named "users") [countAll])).map (·.field "n") =
      [.ofNat 3, .ofNat 1] := by
  have hlength : (partition byTag taggedRows).map List.length = [3, 1] := by decide +kernel
  obtain ⟨hsplits, -, -, -, -, -, hcounts⟩ := partition_splits (show byTag ≠ [] by decide) taggedRows
  obtain ⟨hcount, -⟩ := hcounts (.named "users") [countAll] countAll List.mem_cons_self (by decide) (by decide)
    fun d hd _ => List.mem_singleton.mp hd
  refine ⟨by decide, hsplits, by decide +kernel, ?_⟩
  change ((partition byTag taggedRows).flatMap (Call.applyAll (.named "users") [countAll])).map
    (·.field countAll.target) = _
  rw [hcount, hlength]
  rfl

end DocQuery.Rows
