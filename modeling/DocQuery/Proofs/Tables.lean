import DocQuery.Proofs.Dictionaries
import DocQuery.Tables

namespace DocQuery

def Value.present? : Value → Option Value
  | .null => none
  | v => some v

lemma Value.present?_eq_some {v w : Value} (h : v.present? = some w) : v = w := by
  cases v <;> cases h <;> rfl

namespace Tables

structure WellFormed (ts : Tables) : Prop where
  sorted : ∀ name, Dict.Sorted (ts.rows name)
  objects : ∀ {name key v}, ts.get? name key = some v → ∃ fields, v = .object fields

def ofObjects (objects : Dict (Dict (Dict Value))) : Tables := Dict.mapValues (Dict.mapValues .object) objects

lemma rows_ofObjects (objects : Dict (Dict (Dict Value))) (name : String) :
    (ofObjects objects).rows name = ((Dict.find? name objects).map (Dict.mapValues Value.object)).getD [] := by
  rw [rows, ofObjects, Dict.find?_mapValues]

lemma wellFormed_ofObjects {objects : Dict (Dict (Dict Value))} (h : ∀ e ∈ objects, Dict.Sorted e.2) :
    (ofObjects objects).WellFormed := by
  constructor
  · intro name
    rw [rows_ofObjects]
    rcases hf : Dict.find? name objects with _ | rows
    · exact .nil
    · exact List.pairwise_map.mpr (h _ (Dict.mem_of_find? hf))
  · intro name key v hv
    rw [get?, rows_ofObjects] at hv
    rcases hf : Dict.find? name objects with _ | rows
    · rw [hf] at hv
      cases hv
    · rw [hf, Option.map_some, Option.getD_some, Dict.find?_mapValues] at hv
      obtain ⟨fields, -, rfl⟩ := Option.map_eq_some_iff.mp hv
      exact ⟨fields, rfl⟩

lemma find?_change (rows : Dict Value) (c : String × Value) (k : String) :
    Dict.find? k (change rows c.1 c.2) = if k = c.1 then c.2.present? else Dict.find? k rows := by
  obtain ⟨key, v⟩ := c
  cases v with
  | null => exact Dict.find?_erase key k rows
  | bool b => exact Dict.find?_insert key k (.bool b) rows
  | number n => exact Dict.find?_insert key k (.number n) rows
  | string s => exact Dict.find?_insert key k (.string s) rows
  | array vs => exact Dict.find?_insert key k (.array vs) rows
  | object fields => exact Dict.find?_insert key k (.object fields) rows

lemma find?_changes (changes rows : Dict Value) (k : String) :
    Dict.find? k (changes.foldl (fun rows c => change rows c.1 c.2) rows) =
      (Dict.find? k (Dict.ofList changes)).elim (Dict.find? k rows) Value.present? := by
  rw [Dict.find?_foldl Value.present? find?_change, Dict.find?_ofList]

lemma sorted_change {rows : Dict Value} (h : Dict.Sorted rows) (key : String) (v : Value) :
    Dict.Sorted (change rows key v) := by
  unfold change
  split
  · exact Dict.sorted_erase h key
  · exact Dict.sorted_insert h key v

lemma sorted_changes {rows : Dict Value} (h : Dict.Sorted rows) (changes : Dict Value) :
    Dict.Sorted (changes.foldl (fun rows c => change rows c.1 c.2) rows) := by
  induction changes generalizing rows with
  | nil => exact h
  | cons c changes ih => exact ih (sorted_change h c.1 c.2)

lemma rows_write (ts : Tables) (name name' : String) (changes : Dict Value) :
    (ts.write name changes).rows name' =
      if name' = name then changes.foldl (fun rows c => change rows c.1 c.2) (ts.rows name)
      else ts.rows name' := by
  unfold write
  split
  · next h =>
    rw [h, rows, Dict.find?_erase]
    split <;> rfl
  · rw [rows, Dict.find?_insert]
    split <;> rfl

lemma get?_write (ts : Tables) (name name' key : String) (changes : Dict Value) :
    (ts.write name changes).get? name' key =
      if name' = name then (Dict.find? key (Dict.ofList changes)).elim (ts.get? name' key) Value.present?
      else ts.get? name' key := by
  rw [get?, rows_write]
  split
  · next h => rw [find?_changes, h, get?]
  · rfl

def writeAll (ts : Tables) (changes : Dict (Dict Value)) : Tables :=
  changes.foldl (fun ts c => ts.write c.1 c.2) ts

lemma get?_writeAll (ts : Tables) {changes : Dict (Dict Value)} (h : (Dict.keys changes).Nodup)
    (name key : String) :
    (ts.writeAll changes).get? name key =
      ((Dict.find? name changes).bind fun c => Dict.find? key (Dict.ofList c)).elim
        (ts.get? name key) Value.present? := by
  induction changes generalizing ts with
  | nil => rfl
  | cons c changes ih =>
    obtain ⟨hc, h⟩ := List.nodup_cons.mp h
    rw [writeAll, List.foldl_cons, ← writeAll, ih _ h, get?_write, Dict.find?_cons]
    by_cases hn : name = c.1
    · -- the table is changed here and, since names are distinct, nowhere later
      rw [hn, Dict.find?_eq_none_iff.mpr hc, if_pos rfl, if_pos rfl]
      rfl
    · rw [if_neg hn, if_neg hn]

lemma get?_writeAll_nonempty (ts : Tables) {changes : Dict (Dict Value)} (h : (Dict.keys changes).Nodup)
    (name key : String) :
    (ts.writeAll (changes.filter (!·.2.isEmpty))).get? name key = (ts.writeAll changes).get? name key := by
  have hf : (Dict.keys (changes.filter (!·.2.isEmpty))).Nodup := (List.filter_sublist.map _).nodup h
  rw [get?_writeAll ts hf, get?_writeAll ts h, Dict.find?_filter h (!·.isEmpty)]
  rcases Dict.find? name changes with _ | _ | ⟨c, cs⟩ <;> rfl

lemma WellFormed.write {ts : Tables} (h : ts.WellFormed) {changes : Dict Value}
    (hc : ∀ c ∈ changes, c.2 = .null ∨ ∃ fields, c.2 = .object fields) (name : String) :
    (ts.write name changes).WellFormed where
  sorted name' := by
    rw [rows_write]
    split
    · exact sorted_changes (h.sorted name) changes
    · exact h.sorted name'
  objects := by
    intro name' key v hv
    rw [get?_write] at hv
    split at hv
    · rcases hk : Dict.find? key (Dict.ofList changes) with _ | w
      · rw [hk] at hv
        exact h.objects hv
      · rw [hk] at hv
        rw [Dict.find?_ofList] at hk
        obtain rfl := Value.present?_eq_some hv
        rcases hc _ (List.mem_reverse.mp (Dict.mem_of_find? hk)) with hnull | hobject
        · cases hnull
          cases hv
        · exact hobject
    · exact h.objects hv

lemma WellFormed.writeAll {ts : Tables} (h : ts.WellFormed) {changes : Dict (Dict Value)}
    (hc : ∀ e ∈ changes, ∀ c ∈ e.2, c.2 = .null ∨ ∃ fields, c.2 = .object fields) :
    (ts.writeAll changes).WellFormed := by
  induction changes generalizing ts with
  | nil => exact h
  | cons e changes ih =>
    exact ih (h.write (hc e List.mem_cons_self) e.1) fun e' hm => hc e' (List.mem_cons_of_mem _ hm)

end Tables

end DocQuery
