import DocQuery.Proofs.Values
import DocQuery.Rows.Distinct
import Mathlib.Data.List.Induction

namespace DocQuery.Rows

def firsts (rows : List Row) : List Row :=
  (rows.zipIdx.filter fun e => !(rows.take e.2).any (sameContent · e.1)).map (·.1)

structure Novel (earlier later : List Row) : Prop where
  apart : ∀ a ∈ earlier, ∀ b ∈ later, sameContent a b = false
  distinct : later.Pairwise fun a b => sameContent a b = false

def contents (rows : List Row) : List Value := rows.map fun r => r.toValue.leveled

lemma sameContent_iff {a b : Row} : sameContent a b = true ↔ a.toValue.leveled = b.toValue.leveled :=
  Value.deepEqual_iff _ _

lemma any_sameContent_iff {seen : List Row} {r : Row} :
    seen.any (sameContent · r) = true ↔ r.toValue.leveled ∈ contents seen := by
  simp only [List.any_eq_true, sameContent_iff, contents, List.mem_map]

lemma distinctFrom_congr {seen seen' : List Row} (h : ∀ v, v ∈ contents seen ↔ v ∈ contents seen')
    (rows : List Row) : distinctFrom seen rows = distinctFrom seen' rows := by
  induction rows generalizing seen seen' with
  | nil => rfl
  | cons r rows ih =>
    have hr : seen.any (sameContent · r) = seen'.any (sameContent · r) := by
      rw [Bool.eq_iff_iff, any_sameContent_iff, any_sameContent_iff, h]
    have hs : ∀ v, v ∈ contents (seen ++ [r]) ↔ v ∈ contents (seen' ++ [r]) := by
      intro v
      simp only [contents, List.map_append, List.mem_append] at h ⊢
      rw [h]
    simp only [distinctFrom, hr, ih h, ih hs]

lemma mem_contents_distinctFrom (seen rows : List Row) (v : Value) :
    v ∈ contents (seen ++ distinctFrom seen rows) ↔ v ∈ contents (seen ++ rows) := by
  induction rows generalizing seen with
  | nil => rfl
  | cons r rows ih =>
    by_cases hr : seen.any (sameContent · r) = true
    · have hm := any_sameContent_iff.mp hr
      have hv : v ∈ contents (seen ++ r :: rows) ↔ v ∈ contents (seen ++ rows) := by
        simp only [contents, List.map_append, List.map_cons, List.mem_append, List.mem_cons] at hm ⊢
        constructor
        · rintro (h | rfl | h)
          · exact .inl h
          · exact .inl hm
          · exact .inr h
        · rintro (h | h)
          · exact .inl h
          · exact .inr (.inr h)
      rw [distinctFrom, if_pos hr, ih, hv]
    · have hi := ih (seen ++ [r])
      simp only [List.append_assoc, List.singleton_append] at hi
      rw [distinctFrom, if_neg hr, hi]

lemma distinctFrom_append (seen xs ys : List Row) :
    distinctFrom seen (xs ++ ys) = distinctFrom seen xs ++ distinctFrom (seen ++ distinctFrom seen xs) ys := by
  induction xs generalizing seen with
  | nil => simp [distinctFrom]
  | cons x xs ih =>
    simp only [List.cons_append, distinctFrom]
    split
    · exact ih seen
    · rw [ih, List.cons_append, List.append_assoc, List.singleton_append]

lemma distinct_append (xs ys : List Row) : distinct (xs ++ ys) = distinct xs ++ distinctFrom xs ys := by
  rw [distinct, distinctFrom_append]
  congr 1
  exact distinctFrom_congr (fun v => mem_contents_distinctFrom [] xs v) ys

lemma distinctFrom_sublist (seen rows : List Row) : (distinctFrom seen rows).Sublist rows := by
  induction rows generalizing seen with
  | nil => exact .slnil
  | cons r rows ih =>
    rw [distinctFrom]
    split
    · exact (ih seen).cons r
    · exact (ih _).cons_cons r

lemma distinctFrom_eq_self_iff {seen rows : List Row} : distinctFrom seen rows = rows ↔ Novel seen rows := by
  induction rows generalizing seen with
  | nil => exact ⟨fun _ => ⟨nofun, .nil⟩, fun _ => rfl⟩
  | cons r rows ih =>
    rw [distinctFrom]
    split
    · next hr =>
      constructor
      · intro h
        have hl := (distinctFrom_sublist seen rows).length_le
        rw [h, List.length_cons] at hl
        omega
      · intro h
        obtain ⟨a, ha, hs⟩ := List.any_eq_true.mp hr
        have := h.apart a ha r List.mem_cons_self
        simp_all
    · next hr =>
      have hr : ∀ a ∈ seen, sameContent a r = false := by simpa using hr
      rw [List.cons_eq_cons, ih]
      constructor
      · rintro ⟨-, h⟩
        refine ⟨fun a ha b hb => ?_, List.pairwise_cons.mpr ⟨fun b hb => ?_, h.distinct⟩⟩
        · rcases List.mem_cons.mp hb with rfl | hb
          · exact hr a ha
          · exact h.apart a (List.mem_append_left _ ha) b hb
        · exact h.apart r (List.mem_append_right _ List.mem_cons_self) b hb
      · intro h
        obtain ⟨hb, hp⟩ := List.pairwise_cons.mp h.distinct
        refine ⟨rfl, fun a ha b hm => ?_, hp⟩
        rcases List.mem_append.mp ha with ha | ha
        · exact h.apart a ha b (List.mem_cons_of_mem _ hm)
        · obtain rfl := List.mem_singleton.mp ha
          exact hb b hm

lemma distinctFrom_distinctFrom (seen rows : List Row) :
    distinctFrom seen (distinctFrom seen rows) = distinctFrom seen rows := by
  induction rows generalizing seen with
  | nil => rfl
  | cons r rows ih =>
    by_cases hr : seen.any (sameContent · r) = true
    · rw [distinctFrom, if_pos hr, ih]
    · rw [distinctFrom, if_neg hr, distinctFrom, if_neg hr, ih]

lemma distinct_distinct_append (xs ys : List Row) : distinct (distinct xs ++ ys) = distinct (xs ++ ys) := by
  have hs : distinctFrom (distinct xs) ys = distinctFrom xs ys :=
    distinctFrom_congr (fun v => mem_contents_distinctFrom [] xs v) ys
  have hd : distinct (distinct xs) = distinct xs := distinctFrom_distinctFrom [] xs
  rw [distinct_append, distinct_append, hs, hd]

lemma distinct_append_eq_iff {xs ys : List Row} : distinct (xs ++ ys) = distinct xs ++ ys ↔ Novel xs ys := by
  rw [distinct_append, List.append_right_inj, distinctFrom_eq_self_iff]

lemma firsts_append_singleton (rows : List Row) (r : Row) :
    firsts (rows ++ [r]) = firsts rows ++ if rows.any (sameContent · r) then [] else [r] := by
  have hold : ∀ e ∈ rows.zipIdx, (rows ++ [r]).take e.2 = rows.take e.2 := by
    intro e he
    have hlt : e.2 < rows.length := by
      have := List.snd_lt_of_mem_zipIdx he
      omega
    exact List.take_append_of_le_length (Nat.le_of_lt hlt)
  have hfilter : (rows.zipIdx.filter fun e => !((rows ++ [r]).take e.2).any (sameContent · e.1)) =
      rows.zipIdx.filter fun e => !(rows.take e.2).any (sameContent · e.1) := by
    apply List.filter_congr
    intro e he
    rw [hold e he]
  rw [firsts, List.zipIdx_append, List.filter_append, List.map_append, hfilter, ← firsts]
  congr 1
  by_cases h : rows.any (sameContent · r) = true <;> simp_all

lemma distinct_eq_firsts (rows : List Row) : distinct rows = firsts rows := by
  induction rows using List.reverseRecOn with
  | nil => rfl
  | append_singleton rows r ih =>
    rw [distinct_append, firsts_append_singleton, ih, distinctFrom]
    rfl

lemma pairwise_distinct (rows : List Row) : (distinct rows).Pairwise fun a b => sameContent a b = false :=
  (distinctFrom_eq_self_iff.mp (distinctFrom_distinctFrom [] rows)).distinct

lemma nodup_contents_distinct (rows : List Row) : (contents (distinct rows)).Nodup := by
  refine List.pairwise_map.mpr ((pairwise_distinct rows).imp fun hab heq => ?_)
  simp [sameContent_iff.mpr heq] at hab

lemma length_distinct_of_perm {xs ys : List Row} (h : xs.Perm ys) : (distinct xs).length = (distinct ys).length := by
  have hperm : (contents (distinct xs)).Perm (contents (distinct ys)) := by
    refine (List.perm_ext_iff_of_nodup (nodup_contents_distinct xs) (nodup_contents_distinct ys)).mpr fun v => ?_
    have hx := mem_contents_distinctFrom [] xs v
    have hy := mem_contents_distinctFrom [] ys v
    have hxy : v ∈ contents xs ↔ v ∈ contents ys := (h.map _).mem_iff
    exact (hx.trans hxy).trans hy.symm
  simpa [contents] using hperm.length_eq

def kept (rows : List Row) : List (Row × Nat) :=
  rows.zipIdx.filter fun e => !(rows.take e.2).any (sameContent · e.1)

lemma exists_kept {rows : List Row} {e : Row × Nat} (he : e ∈ rows.zipIdx) :
    ∃ k ∈ kept rows, k.2 ≤ e.2 ∧ sameContent k.1 e.1 = true := by
  obtain ⟨r, i⟩ := e
  induction i using Nat.strongRecOn generalizing r with
  | ind i ih =>
    by_cases hany : (rows.take i).any (sameContent · r) = true
    · -- a row before has the content, and one that is kept has it from there
      obtain ⟨s, hs, hsr⟩ := List.any_eq_true.mp hany
      obtain ⟨j, hj, rfl⟩ := List.mem_iff_getElem.mp hs
      have hji : j < i ∧ j < rows.length := by simpa [Nat.lt_min] using hj
      have hm : (rows[j], j) ∈ rows.zipIdx := by simp [List.mem_zipIdx_iff_getElem?, hji.2]
      obtain ⟨k, hk, hle, hks⟩ := ih j hji.1 rows[j] hm
      rw [List.getElem_take] at hsr
      refine ⟨k, hk, by omega, ?_⟩
      exact sameContent_iff.mpr ((sameContent_iff.mp hks).trans (sameContent_iff.mp hsr))
    · exact ⟨(r, i), List.mem_filter.mpr ⟨he, by simpa using hany⟩, Nat.le_refl i, sameContent_iff.mpr rfl⟩

theorem distinct_represents (rows : List Row) :
    (∃ placed : List (Row × Nat), placed.Sublist rows.zipIdx ∧ distinct rows = placed.map Prod.fst ∧
      ∀ e ∈ rows.zipIdx, ∃ k ∈ placed, k.2 ≤ e.2 ∧ sameContent k.1 e.1 = true) ∧
    ((distinct rows).Pairwise fun a b => sameContent a b = false) ∧
    distinct (distinct rows) = distinct rows ∧
    (∀ more : List Row, distinct (rows ++ more) = distinct (distinct rows ++ more)) ∧
    ∀ rows' : List Row, rows'.Perm rows → (distinct rows').length = (distinct rows).length :=
  ⟨⟨kept rows, List.filter_sublist, distinct_eq_firsts rows, fun _ => exists_kept⟩, pairwise_distinct rows,
    distinctFrom_distinctFrom [] rows, fun more => (distinct_distinct_append rows more).symm,
    fun _ => length_distinct_of_perm⟩

end DocQuery.Rows
