import DocQuery.Proofs.Tables
import Mathlib.Data.Finmap
import Mathlib.Data.Finset.Sort
import Mathlib.Data.String.Basic

namespace DocQuery

abbrev Documents := Finmap fun _ : String × String => Value

namespace Documents

variable {d : Documents}

def change (d : Documents) (table key : String) : Value → Documents
  | .null => d.erase (table, key)
  | v => d.insert (table, key) v

def write (d : Documents) (table : String) (changes : Dict Value) : Documents :=
  changes.foldl (fun d c => d.change table c.1 c.2) d

def keysOf (d : Documents) (table : String) : Finset String := (d.keys.filter (·.1 = table)).image (·.2)

def rows (d : Documents) (table : String) : Dict Value :=
  (d.keysOf table).sort.filterMap fun key => (d.lookup (table, key)).map fun v => (key, v)

def tableNames (d : Documents) : Finset String := d.keys.image (·.1)

def tables (d : Documents) : Tables := d.tableNames.sort.map fun table => (table, d.rows table)

def ofTables (ts : Tables) : Documents :=
  ts.foldr (fun t d => t.2.foldr (fun r d => d.insert (t.1, r.1) r.2) d) ∅

lemma lookup_insert (d : Documents) (p q : String × String) (v : Value) :
    (d.insert p v).lookup q = if q = p then some v else d.lookup q := by
  by_cases h : q = p
  · rw [if_pos h, h, Finmap.lookup_insert]
  · rw [if_neg h, Finmap.lookup_insert_of_ne _ h]

lemma lookup_change (d : Documents) (table key : String) (v : Value) (q : String × String) :
    (d.change table key v).lookup q = if q = (table, key) then v.present? else d.lookup q := by
  cases v with
  | null =>
    by_cases h : q = (table, key)
    · rw [if_pos h, h]
      exact Finmap.lookup_erase _ d
    · rw [if_neg h]
      exact Finmap.lookup_erase_ne h
  | _ => exact d.lookup_insert ..

lemma lookup_write (d : Documents) (table : String) (changes : Dict Value) (table' key : String) :
    (d.write table changes).lookup (table', key) =
      if table' = table then (Dict.find? key (Dict.ofList changes)).elim (d.lookup (table', key)) Value.present?
      else d.lookup (table', key) := by
  induction changes generalizing d with
  | nil => exact (ite_self _).symm
  | cons c changes ih =>
    obtain ⟨k, v⟩ := c
    rw [write, List.foldl_cons, ← write, ih, lookup_change, Dict.find?_ofList, Dict.find?_ofList, List.reverse_cons,
      Dict.find?_append, Dict.find?_cons]
    by_cases ht : table' = table
    · -- a later change of the document counts, or else this one
      subst ht
      rw [if_pos rfl, if_pos rfl]
      cases Dict.find? key changes.reverse with
      | some w => rfl
      | none => by_cases hk : key = k <;> simp [hk]
    · simp [ht]

lemma mem_keys {p : String × String} : p ∈ Finmap.keys d ↔ ∃ v, d.lookup p = some v :=
  Finmap.mem_keys.trans Finmap.mem_iff

lemma mem_keysOf {table key : String} : key ∈ d.keysOf table ↔ ∃ v, d.lookup (table, key) = some v := by
  simp [keysOf, mem_keys]

lemma mem_tableNames {table : String} : table ∈ d.tableNames ↔ ∃ key v, d.lookup (table, key) = some v := by
  simp [tableNames, mem_keys]

lemma mem_rows {table key : String} {v : Value} : (key, v) ∈ d.rows table ↔ d.lookup (table, key) = some v := by
  simp only [rows, List.mem_filterMap, Finset.mem_sort, mem_keysOf, Option.map_eq_some_iff, Prod.mk.injEq]
  constructor
  · rintro ⟨_, -, _, hl, rfl, rfl⟩
    exact hl
  · intro hl
    exact ⟨key, ⟨v, hl⟩, v, hl, rfl, rfl⟩

lemma sorted_rows (d : Documents) (table : String) : Dict.Sorted (d.rows table) := by
  have hk : (d.keysOf table).sort.Pairwise (· < ·) := (Finset.sortedLT_sort _).pairwise
  refine List.pairwise_filterMap.mpr (hk.imp ?_)
  intro k l hlt a ha b hb
  obtain ⟨_, -, rfl⟩ := Option.map_eq_some_iff.mp ha
  obtain ⟨_, -, rfl⟩ := Option.map_eq_some_iff.mp hb
  exact hlt

lemma find?_rows (d : Documents) (table key : String) : Dict.find? key (d.rows table) = d.lookup (table, key) := by
  cases hl : d.lookup (table, key) with
  | none =>
    refine Dict.find?_eq_none_iff.mpr fun hk => ?_
    obtain ⟨⟨key, v⟩, hm, rfl⟩ := List.mem_map.mp hk
    rw [mem_rows.mp hm] at hl
    cases hl
  | some v => exact Dict.find?_of_mem (d.sorted_rows table).nodup (mem_rows.mpr hl)

lemma sorted_tables (d : Documents) : Dict.Sorted d.tables :=
  List.pairwise_map.mpr (Finset.sortedLT_sort _).pairwise

lemma find?_tables (d : Documents) (table : String) :
    Dict.find? table d.tables = if (d.rows table).isEmpty then none else some (d.rows table) := by
  have hmem : table ∈ d.tableNames ↔ (d.rows table).isEmpty = false := by
    rw [mem_tableNames, List.isEmpty_eq_false_iff_exists_mem]
    exact ⟨fun ⟨key, v, hl⟩ => ⟨(key, v), mem_rows.mpr hl⟩, fun ⟨⟨key, v⟩, hm⟩ => ⟨key, v, mem_rows.mp hm⟩⟩
  split
  · next he =>
    refine Dict.find?_eq_none_iff.mpr fun hk => ?_
    rw [tables, Dict.keys, List.map_map] at hk
    obtain ⟨_, hm, rfl⟩ := List.mem_map.mp hk
    have := hmem.mp ((Finset.mem_sort _).mp hm)
    rw [he] at this
    cases this
  · next he =>
    have hm := (Finset.mem_sort (· ≤ ·)).mpr (hmem.mpr (Bool.eq_false_of_not_eq_true he))
    exact Dict.find?_of_mem d.sorted_tables.nodup (List.mem_map.mpr ⟨table, hm, rfl⟩)

structure Held (d : Documents) (ts : Tables) : Prop where
  sorted : Dict.Sorted ts
  rows_sorted : ∀ t ∈ ts, Dict.Sorted t.2
  get? : ∀ table key, ts.get? table key = d.lookup (table, key)

namespace Held

variable {ts : Tables}

lemma sorted_rows (h : d.Held ts) (table : String) : Dict.Sorted (ts.rows table) := by
  rw [Tables.rows]
  cases hf : Dict.find? table ts with
  | none => exact .nil
  | some rows => exact h.rows_sorted _ (Dict.mem_of_find? hf)

lemma rows_eq (h : d.Held ts) (table : String) : ts.rows table = d.rows table :=
  Dict.ext_of_sorted (h.sorted_rows table) (d.sorted_rows table) fun key =>
    (h.get? table key).trans (d.find?_rows table key).symm

lemma tables_eq (h : d.Held ts) : ts.filter (!·.2.isEmpty) = d.tables := by
  refine Dict.ext_of_sorted (h.sorted.sublist List.filter_sublist) d.sorted_tables fun table => ?_
  rw [Dict.find?_filter h.sorted.nodup (!·.isEmpty), find?_tables, ← h.rows_eq, Tables.rows]
  cases Dict.find? table ts with
  | none => rfl
  | some rows => cases rows <;> rfl

lemma write (h : d.Held ts) (table : String) (changes : Dict Value) :
    (d.write table changes).Held (ts.write table changes) where
  sorted := by
    rw [Tables.write]
    split
    · exact Dict.sorted_erase h.sorted table
    · exact Dict.sorted_insert h.sorted table _
  rows_sorted t ht := by
    rw [Tables.write] at ht
    have hc := Tables.sorted_changes (h.sorted_rows table) changes
    split at ht
    · exact h.rows_sorted t ((Dict.erase_sublist table ts).subset ht)
    · rcases Dict.mem_insert ht with rfl | ht
      · exact hc
      · exact h.rows_sorted t ht
  get? table' key := by
    rw [Tables.get?_write, lookup_write, h.get?]

lemma insert (h : d.Held ts) (table key : String) (v : Value) :
    Held (Finmap.insert (table, key) v d) (ts.insert table key v) where
  sorted := Dict.sorted_insert h.sorted table _
  rows_sorted t ht := by
    rcases Dict.mem_insert ht with rfl | ht
    · exact Dict.sorted_insert (h.sorted_rows table) key v
    · exact h.rows_sorted t ht
  get? table' key' := by
    rw [lookup_insert, ← h.get?, Tables.get?, Tables.get?, Tables.rows, Tables.insert, Dict.find?_insert]
    by_cases ht : table' = table
    · subst ht
      rw [if_pos rfl, Option.getD_some, Dict.find?_insert]
      by_cases hk : key' = key <;> simp [hk]
    · rw [if_neg ht, if_neg fun he => ht (congrArg Prod.fst he)]
      rfl

end Held

lemma lookup_foldr (table : String) (rows : Dict Value) (d : Documents) (table' key : String) :
    (rows.foldr (fun r d => Finmap.insert (table, r.1) r.2 d) d).lookup (table', key) =
      if table' = table then (Dict.find? key rows).or (d.lookup (table', key)) else d.lookup (table', key) := by
  induction rows with
  | nil => exact (ite_self _).symm
  | cons r rows ih =>
    rw [List.foldr_cons, lookup_insert, ih, Dict.find?_cons]
    by_cases ht : table' = table
    · subst ht
      by_cases hk : key = r.1 <;> simp [hk]
    · simp [ht]

lemma held_ofTables {ts : Tables} (hs : Dict.Sorted ts) (hr : ∀ t ∈ ts, Dict.Sorted t.2) : (ofTables ts).Held ts := by
  refine ⟨hs, hr, fun table key => ?_⟩
  induction ts with
  | nil => rfl
  | cons t ts ih =>
    have hrest := ih hs.of_cons (fun u hu => hr u (List.mem_cons_of_mem _ hu))
    rw [ofTables, List.foldr_cons, ← ofTables, lookup_foldr, ← hrest, Tables.get?, Tables.rows, Dict.find?_cons]
    by_cases ht : table = t.1
    · -- no other table has the name of the first one
      have hn : Dict.find? table ts = none := by
        refine Dict.find?_eq_none_iff.mpr fun hm => ?_
        rw [ht] at hm
        exact (List.nodup_cons.mp hs.nodup).1 hm
      rw [if_pos ht, if_pos ht, Tables.get?, Tables.rows, hn]
      exact (Option.or_none).symm
    · rw [if_neg ht, if_neg ht]
      rfl

end Documents

end DocQuery
