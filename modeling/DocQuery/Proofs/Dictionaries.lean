import DocQuery.Dict
import Mathlib.Data.List.Perm.Subperm
import Mathlib.Tactic.Lemma

namespace DocQuery.Dict

variable {α β : Type}

lemma find?_insert (k k' : String) (v : α) (d : Dict α) :
    find? k' (insert k v d) = if k' = k then some v else find? k' d := by
  by_cases h : k' = k
  · rw [if_pos h, h, find?_insert_self]
  · rw [if_neg h, find?_insert_of_ne h]

lemma find?_erase (k k' : String) (d : Dict α) :
    find? k' (erase k d) = if k' = k then none else find? k' d := by
  by_cases h : k' = k
  · rw [if_pos h, h, find?_erase_self]
  · rw [if_neg h, find?_erase_of_ne h]

lemma find?_append (k : String) (d e : Dict α) : find? k (d ++ e) = (find? k d).or (find? k e) := by
  induction d with
  | nil => rfl
  | cons x d ih =>
    rw [List.cons_append, find?_cons, find?_cons, ih]
    split <;> rfl

lemma find?_map (f : String → α → β) (k : String) (d : Dict α) :
    find? k (d.map fun e => (e.1, f e.1 e.2)) = (find? k d).map (f k) := by
  induction d with
  | nil => rfl
  | cons x d ih =>
    rw [List.map_cons, find?_cons, find?_cons, ih]
    split
    · next hk => rw [hk, Option.map_some]
    · rfl

lemma find?_mapValues (f : α → β) (k : String) (d : Dict α) :
    find? k (mapValues f d) = (find? k d).map f :=
  find?_map (fun _ => f) k d

lemma contains_mapValues (f : α → β) (k : String) (d : Dict α) :
    contains k (mapValues f d) = contains k d := by
  rw [contains, contains, find?_mapValues, Option.isSome_map]

lemma insert_mapValues (f : α → β) (k : String) (v : α) (d : Dict α) :
    insert k (f v) (mapValues f d) = mapValues f (insert k v d) := by
  induction d with
  | nil => rfl
  | cons x d ih =>
    rw [mapValues, List.map_cons, insert, insert, ← mapValues, ih]
    split
    · rfl
    · split <;> rfl

lemma keys_map (f : String × α → β) (d : Dict α) : keys (d.map fun e => (e.1, f e)) = keys d := by
  rw [keys, List.map_map]
  rfl

lemma find?_eq_none_iff {k : String} {d : Dict α} : find? k d = none ↔ k ∉ keys d := by
  induction d with
  | nil => simp [keys]
  | cons x d ih =>
    rw [find?_cons, keys, List.map_cons, List.mem_cons, not_or, ← keys, ← ih]
    split <;> simp [*]

lemma contains_iff {k : String} {d : Dict α} : contains k d = true ↔ k ∈ keys d := by
  rw [contains, Option.isSome_iff_ne_none, ne_eq, find?_eq_none_iff, Decidable.not_not]

lemma mem_keys_insert {k k' : String} {v : α} {d : Dict α} : k' ∈ keys (insert k v d) ↔ k' = k ∨ k' ∈ keys d := by
  rw [← contains_iff, ← contains_iff, contains, contains, find?_insert]
  split
  · next h => exact ⟨fun _ => .inl h, fun _ => rfl⟩
  · next h => exact ⟨.inr, fun hd => hd.resolve_left h⟩

lemma mem_of_find? {k : String} {v : α} {d : Dict α} (h : find? k d = some v) : (k, v) ∈ d := by
  induction d with
  | nil => cases h
  | cons x d ih =>
    rw [find?_cons] at h
    split at h
    · next hk =>
      cases hk
      cases h
      exact List.mem_cons_self
    · exact List.mem_cons_of_mem _ (ih h)

lemma find?_of_mem {k : String} {v : α} {d : Dict α} (hd : (keys d).Nodup) (h : (k, v) ∈ d) :
    find? k d = some v := by
  induction d with
  | nil => cases h
  | cons x d ih =>
    obtain ⟨hx, hd⟩ := List.nodup_cons.mp hd
    rw [find?_cons]
    cases h with
    | head => rw [if_pos rfl]
    | tail _ h =>
      have hk : k ≠ x.1 := by
        rintro rfl
        exact hx (List.mem_map.mpr ⟨_, h, rfl⟩)
      rw [if_neg hk, ih hd h]

lemma find?_reverse {d : Dict α} (hd : (keys d).Nodup) (k : String) : find? k d.reverse = find? k d := by
  rcases hk : find? k d with _ | v
  · rw [find?_eq_none_iff] at hk ⊢
    simpa [keys] using hk
  · have hr : (keys d.reverse).Nodup := by
      rw [keys, List.map_reverse]
      exact (List.reverse_perm _).nodup_iff.mpr hd
    exact find?_of_mem hr (List.mem_reverse.mpr (mem_of_find? hk))

lemma find?_filter {d : Dict α} (hd : (keys d).Nodup) (f : α → Bool) (k : String) :
    find? k (d.filter fun e => f e.2) = (find? k d).filter f := by
  rcases hk : find? k d with _ | v
  · have hm : k ∉ keys (d.filter fun e => f e.2) := fun h =>
      find?_eq_none_iff.mp hk ((List.filter_sublist.map _).subset h)
    rw [find?_eq_none_iff.mpr hm, Option.filter_none]
  · have hf : (keys (d.filter fun e => f e.2)).Nodup := (List.filter_sublist.map _).nodup hd
    by_cases hv : f v
    · rw [find?_of_mem hf (List.mem_filter.mpr ⟨mem_of_find? hk, hv⟩), Option.filter_some_pos hv]
    · have hm : k ∉ keys (d.filter fun e => f e.2) := by
        intro h
        obtain ⟨⟨k', w⟩, hw, rfl⟩ := List.mem_map.mp h
        obtain ⟨hw, hfw⟩ := List.mem_filter.mp hw
        have := find?_of_mem hd hw
        simp_all
      rw [find?_eq_none_iff.mpr hm, Option.filter_some_neg (Bool.not_eq_true _ ▸ hv)]

lemma find?_filter_keys (d : Dict α) (f : String → Bool) (k : String) :
    find? k (d.filter fun e => f e.1) = if f k then find? k d else none := by
  induction d with
  | nil => simp
  | cons e d ih =>
    obtain ⟨k', v⟩ := e
    rw [List.filter_cons, find?_cons]
    by_cases hk : k = k'
    · subst hk
      cases hf : f k <;> simp_all [find?_cons]
    · cases f k' <;> simp [find?_cons, hk, ih]

section Series

lemma find?_foldl {γ : Type} {step : Dict α → String × γ → Dict α} (left : γ → Option α)
    (h : ∀ d e k, find? k (step d e) = if k = e.1 then left e.2 else find? k d)
    (es : List (String × γ)) (d : Dict α) (k : String) :
    find? k (es.foldl step d) = (find? k es.reverse).elim (find? k d) left := by
  induction es generalizing d with
  | nil => rfl
  | cons e es ih =>
    rw [List.foldl_cons, ih, List.reverse_cons, find?_append, h, find?_cons, find?_nil]
    rcases find? k es.reverse with _ | v
    · by_cases hk : k = e.1 <;> simp [hk]
    · rfl

lemma find?_merge (d e : Dict α) (k : String) : find? k (merge d e) = (find? k e.reverse).or (find? k d) := by
  rw [merge, find?_foldl some fun d e k => find?_insert e.1 k e.2 d]
  rcases find? k e.reverse with _ | v <;> rfl

lemma find?_ofList (es : List (String × α)) (k : String) : find? k (ofList es) = find? k es.reverse :=
  (find?_merge [] es k).trans (Option.or_none)

lemma find?_ofList_of_nodup {d : Dict α} (hd : (keys d).Nodup) (k : String) :
    find? k (ofList d) = find? k d := by
  rw [find?_ofList, find?_reverse hd]

lemma find?_foldl_erase {γ : Type} (name : γ → String) (cs : List γ) (d : Dict α) (k : String) :
    find? k (cs.foldl (fun d c => erase (name c) d) d) =
      if ∃ c ∈ cs, name c = k then none else find? k d := by
  induction cs generalizing d with
  | nil => simp
  | cons c cs ih =>
    rw [List.foldl_cons, ih, find?_erase]
    by_cases hc : k = name c
    · simp [hc]
    · have hn : name c ≠ k := Ne.symm hc
      simp [hc, hn]

end Series

section Order

instance (d : Dict α) : Decidable (Sorted d) := inferInstanceAs (Decidable (d.Pairwise (·.1 < ·.1)))

lemma Sorted.nodup {d : Dict α} (h : Sorted d) : (keys d).Nodup := by
  refine List.pairwise_map.mpr (h.imp ?_)
  intro a b hlt heq
  exact String.lt_irrefl b.1 (heq ▸ hlt)

lemma mem_insert {e : String × α} {k : String} {v : α} {d : Dict α} (h : e ∈ insert k v d) :
    e = (k, v) ∨ e ∈ d := by
  induction d with
  | nil => simpa [insert] using h
  | cons x d ih =>
    rw [insert] at h
    split at h
    · exact (List.mem_cons.mp h).imp_right (List.mem_cons_of_mem _)
    · split at h
      · exact List.mem_cons.mp h
      · rcases List.mem_cons.mp h with rfl | h
        · exact .inr List.mem_cons_self
        · exact (ih h).imp_right (List.mem_cons_of_mem _)

lemma sorted_insert {d : Dict α} (h : Sorted d) (k : String) (v : α) : Sorted (insert k v d) := by
  induction d with
  | nil => exact List.pairwise_singleton _ _
  | cons x d ih =>
    obtain ⟨hx, hd⟩ := List.pairwise_cons.mp h
    rw [insert]
    split
    · next hk => exact List.pairwise_cons.mpr ⟨fun e he => hk ▸ hx e he, hd⟩
    · next hk =>
      split
      · next hlt =>
        refine List.pairwise_cons.mpr ⟨fun e he => ?_, h⟩
        rcases List.mem_cons.mp he with rfl | he
        · exact hlt
        · exact String.lt_trans hlt (hx e he)
      · next hlt =>
        refine List.pairwise_cons.mpr ⟨fun e he => ?_, ih hd⟩
        rcases mem_insert he with rfl | he
        · exact String.not_le.mp fun hle => hk (String.le_antisymm hle (String.not_lt.mp hlt))
        · exact hx e he

lemma erase_sublist (k : String) (d : Dict α) : (erase k d).Sublist d := by
  induction d with
  | nil => exact .slnil
  | cons x d ih =>
    rw [erase]
    split
    · exact ih.cons _
    · exact ih.cons_cons _

lemma sorted_erase {d : Dict α} (h : Sorted d) (k : String) : Sorted (erase k d) :=
  h.sublist (erase_sublist k d)

lemma sorted_merge {d : Dict α} (h : Sorted d) (e : Dict α) : Sorted (merge d e) := by
  induction e generalizing d with
  | nil => exact h
  | cons x e ih => exact ih (sorted_insert h x.1 x.2)

lemma sorted_ofList (es : List (String × α)) : Sorted (ofList es) := sorted_merge .nil es

lemma length_insert {d : Dict α} (h : Sorted d) (k : String) (v : α) :
    (insert k v d).length = d.length + if k ∈ keys d then 0 else 1 := by
  have hkeys : ∀ d : Dict α, (keys d).length = d.length := fun d => List.length_map _
  have hnodup := (sorted_insert h k v).nodup
  by_cases hk : k ∈ keys d
  · have hperm : (keys (insert k v d)).Perm (keys d) := by
      refine (List.perm_ext_iff_of_nodup hnodup h.nodup).mpr fun k' => ?_
      rw [mem_keys_insert]
      exact or_iff_right_of_imp fun he => he ▸ hk
    rw [if_pos hk, ← hkeys, ← hkeys d, hperm.length_eq, Nat.add_zero]
  · have hperm : (keys (insert k v d)).Perm (k :: keys d) := by
      refine (List.perm_ext_iff_of_nodup hnodup (List.nodup_cons.mpr ⟨hk, h.nodup⟩)).mpr fun k' => ?_
      rw [mem_keys_insert, List.mem_cons]
    rw [if_neg hk, ← hkeys, ← hkeys d, hperm.length_eq, List.length_cons]

lemma length_merge_le {d : Dict α} (h : Sorted d) (e : Dict α) : (merge d e).length ≤ d.length + e.length := by
  induction e generalizing d with
  | nil => exact Nat.le_refl _
  | cons x e ih =>
    have hx := length_insert h x.1 x.2
    have hle := ih (sorted_insert h x.1 x.2)
    rw [merge, List.foldl_cons, ← merge, List.length_cons]
    split at hx <;> omega

lemma length_merge_iff {d : Dict α} (h : Sorted d) (e : Dict α) :
    (merge d e).length = d.length + e.length ↔ (keys e).Nodup ∧ ∀ k ∈ keys e, k ∉ keys d := by
  induction e generalizing d with
  | nil => simp [merge, keys]
  | cons x e ih =>
    have hx := length_insert h x.1 x.2
    have hsorted := sorted_insert h x.1 x.2
    have hle := length_merge_le hsorted e
    have ih := ih hsorted
    have hkeys : keys (x :: e) = x.1 :: keys e := rfl
    rw [merge, List.foldl_cons, ← merge, List.length_cons, hkeys, List.nodup_cons, List.forall_mem_cons]
    by_cases hk : x.1 ∈ keys d
    · rw [if_pos hk] at hx
      refine iff_of_false (by omega) ?_
      rintro ⟨-, hnot, -⟩
      exact hnot hk
    · rw [if_neg hk] at hx
      have hlength : (merge (insert x.1 x.2 d) e).length = d.length + (e.length + 1) ↔
          (merge (insert x.1 x.2 d) e).length = (insert x.1 x.2 d).length + e.length := by omega
      rw [hlength, ih]
      constructor
      · rintro ⟨hnodup, hfree⟩
        refine ⟨⟨fun hin => hfree x.1 hin (mem_keys_insert.mpr (.inl rfl)), hnodup⟩, hk, fun k hin hd => ?_⟩
        exact hfree k hin (mem_keys_insert.mpr (.inr hd))
      · rintro ⟨⟨hnot, hnodup⟩, -, hfree⟩
        refine ⟨hnodup, fun k hin hd => ?_⟩
        rcases mem_keys_insert.mp hd with rfl | hd
        · exact hnot hin
        · exact hfree k hin hd

lemma mem_ofList {e : String × α} {es : List (String × α)} (h : e ∈ ofList es) : e ∈ es := by
  have hf : find? e.1 es.reverse = some e.2 := by
    rw [← find?_ofList]
    exact find?_of_mem (sorted_ofList es).nodup h
  exact List.mem_reverse.mp (mem_of_find? hf)

lemma find?_ofList_of_forall {es : List (String × α)} {k : String} {v : α} (h : ∀ e ∈ es, e.1 = k → e.2 = v) :
    find? k (ofList es) = if k ∈ keys es then some v else none := by
  have hr : k ∈ keys es.reverse ↔ k ∈ keys es := by rw [keys, List.map_reverse, List.mem_reverse, keys]
  rw [find?_ofList]
  rcases hf : find? k es.reverse with _ | w
  · rw [if_neg fun hk => find?_eq_none_iff.mp hf (hr.mpr hk)]
  · have hm := mem_of_find? hf
    have hw : w = v := h _ (List.mem_reverse.mp hm) rfl
    rw [if_pos (hr.mp (List.mem_map.mpr ⟨_, hm, rfl⟩)), hw]

lemma find?_ofList_const {es : List (String × α)} {v : α} (h : ∀ e ∈ es, e.2 = v) {k : String}
    (hk : k ∈ keys es) : find? k (ofList es) = some v := by
  rw [find?_ofList_of_forall fun e he _ => h e he, if_pos hk]

lemma ext_of_sorted {d e : Dict α} (hd : Sorted d) (he : Sorted e) (h : ∀ k, find? k d = find? k e) : d = e := by
  have hmem : ∀ x, x ∈ d ↔ x ∈ e := by
    intro x
    constructor
    · intro hx
      exact mem_of_find? ((h x.1).symm.trans (find?_of_mem hd.nodup hx))
    · intro hx
      exact mem_of_find? ((h x.1).trans (find?_of_mem he.nodup hx))
  have hnodup : ∀ {d : Dict α}, Sorted d → List.Nodup d := by
    refine fun h => h.imp ?_
    rintro a _ hlt rfl
    exact String.lt_irrefl a.1 hlt
  have hperm : d.Perm e := (List.perm_ext_iff_of_nodup (hnodup hd) (hnodup he)).mpr hmem
  exact hperm.eq_of_pairwise (fun a b _ _ hab hba => (String.lt_irrefl a.1 (String.lt_trans hab hba)).elim) hd he

lemma keys_eq_of_subset {d : Dict α} {e : Dict β} (hd : Sorted d) (he : Sorted e) (hl : d.length = e.length)
    (h : keys d ⊆ keys e) : keys d = keys e := by
  -- as many names, none of them twice
  have hperm : (keys d).Perm (keys e) := by
    apply (List.subperm_of_subset hd.nodup h).perm_of_length_le
    simp [keys, hl]
  refine hperm.eq_of_pairwise ?_ (List.pairwise_map.mpr hd) (List.pairwise_map.mpr he)
  intro k l _ _ hkl hlk
  exact (String.lt_irrefl k (String.lt_trans hkl hlk)).elim

end Order

end DocQuery.Dict
