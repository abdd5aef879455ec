import DocQuery.Proofs.Dictionaries
import DocQuery.Rows.Join

namespace DocQuery.Rows

def Unqualified (table : String) (d : Dict Value) : Prop := ∀ name, table ++ "." ++ name ∉ Dict.keys d

lemma Unqualified.ne {table : String} {d : Dict Value} (h : Unqualified table d) {name other : String}
    (hm : name ∈ Dict.keys d) : name ≠ table ++ "." ++ other :=
  fun he => h other (he ▸ hm)

section Names

variable {taken : Dict Value} {table name other : String}

lemma freeName_of_mem (h : name ∈ Dict.keys taken) : freeName taken table name = table ++ "." ++ name :=
  if_pos (Dict.contains_iff.mpr h)

lemma freeName_of_not_mem (h : name ∉ Dict.keys taken) : freeName taken table name = name :=
  if_neg fun hc => h (Dict.contains_iff.mp hc)

lemma freeName_eq (taken : Dict Value) (table name : String) :
    freeName taken table name = table ++ "." ++ name ∨ freeName taken table name = name := by
  by_cases h : name ∈ Dict.keys taken
  · exact .inl (freeName_of_mem h)
  · exact .inr (freeName_of_not_mem h)

lemma freeName_not_mem (h : Unqualified table taken) : freeName taken table name ∉ Dict.keys taken := by
  by_cases hm : name ∈ Dict.keys taken
  · rw [freeName_of_mem hm]
    exact h name
  · rwa [freeName_of_not_mem hm]

lemma freeName_inj {d : Dict Value} (h : Unqualified table d) (hn : name ∈ Dict.keys d)
    (ho : other ∈ Dict.keys d) (he : freeName taken table name = freeName taken table other) :
    name = other := by
  rcases freeName_eq taken table name with hl | hl <;> rcases freeName_eq taken table other with hr | hr <;>
    rw [hl, hr] at he
  · exact (String.append_right_inj _).mp he
  · exact (h.ne ho he.symm).elim
  · exact (h.ne hn he).elim
  · exact he

lemma freeName_eq_qualified {d : Dict Value} (h : Unqualified table d) (hn : name ∈ Dict.keys d)
    (he : freeName taken table name = table ++ "." ++ other) : name = other ∧ name ∈ Dict.keys taken := by
  by_cases hm : name ∈ Dict.keys taken
  · rw [freeName_of_mem hm] at he
    exact ⟨(String.append_right_inj _).mp he, hm⟩
  · rw [freeName_of_not_mem hm] at he
    exact (h.ne hn he).elim

lemma freeName_insert {key : String} (h : name ≠ key) (v : Value) :
    freeName (Dict.insert key v taken) table name = freeName taken table name := by
  rw [freeName, Dict.contains, Dict.find?_insert_of_ne h]
  rfl

end Names

section Renaming

variable {table : String} {taken fields : Dict Value}

def renamed (taken : Dict Value) (table : String) (fields : Dict Value) : Dict Value :=
  fields.map fun f => (freeName taken table f.1, f.2)

lemma keys_renamed : Dict.keys (renamed taken table fields) = (Dict.keys fields).map (freeName taken table) := by
  rw [renamed, Dict.keys, Dict.keys, List.map_map, List.map_map]
  rfl

lemma nodup_renamed (hf : Unqualified table fields) (hd : (Dict.keys fields).Nodup) :
    (Dict.keys (renamed taken table fields)).Nodup := by
  rw [keys_renamed]
  refine List.pairwise_map.mpr (hd.imp_of_mem fun hm ho hne he => hne ?_)
  exact freeName_inj hf hm ho he

lemma find?_renamed (hf : Unqualified table fields) (hd : (Dict.keys fields).Nodup) {x : String} {v : Value} :
    Dict.find? x (renamed taken table fields) = some v ↔
      ∃ name, Dict.find? name fields = some v ∧ freeName taken table name = x := by
  constructor
  · intro h
    obtain ⟨⟨name, w⟩, hm, he⟩ := List.mem_map.mp (Dict.mem_of_find? h)
    cases he
    exact ⟨name, Dict.find?_of_mem hd hm, rfl⟩
  · rintro ⟨name, hn, rfl⟩
    exact Dict.find?_of_mem (nodup_renamed hf hd) (List.mem_map.mpr ⟨_, Dict.mem_of_find? hn, rfl⟩)

lemma foldl_freeName (hf : Unqualified table fields) (hd : (Dict.keys fields).Nodup) (d : Dict Value)
    (h : ∀ name ∈ Dict.keys fields, freeName d table name = freeName taken table name) :
    fields.foldl (fun d f => Dict.insert (freeName d table f.1) f.2 d) d =
      Dict.merge d (renamed taken table fields) := by
  induction fields generalizing d with
  | nil => rfl
  | cons f fields ih =>
    obtain ⟨hm, hd⟩ := List.nodup_cons.mp hd
    have hf' : Unqualified table fields := fun name hn => hf name (List.mem_cons_of_mem _ hn)
    rw [List.foldl_cons, h f.1 List.mem_cons_self]
    refine ih hf' hd _ fun name hn => ?_
    rw [freeName_insert, h name (List.mem_cons_of_mem _ hn)]
    rcases freeName_eq taken table f.1 with he | he <;> rw [he]
    · exact hf'.ne hn
    · rintro rfl
      exact hm hn

end Renaming

section Combine

lemma joinTables_eq (tables : List String) (r : Row) :
    (tables.foldl joinTable r).content = r.content ∧ (tables.foldl joinTable r).table = r.table ∧
      (tables.foldl joinTable r).key = r.key := by
  induction tables generalizing r with
  | nil => exact ⟨rfl, rfl, rfl⟩
  | cons t tables ih =>
    have hr : (joinTable r t).content = r.content ∧ (joinTable r t).table = r.table ∧
        (joinTable r t).key = r.key := by
      unfold joinTable
      split <;> exact ⟨rfl, rfl, rfl⟩
    obtain ⟨hc, ht, hk⟩ := ih (joinTable r t)
    exact ⟨hc.trans hr.1, ht.trans hr.2.1, hk.trans hr.2.2⟩

lemma addFields_eq (table : String) (fields : Dict Value) (r : Row) :
    let s := fields.foldl (fun r f => r.addField (freeName r.content table f.1) f.2) r
    s.content = fields.foldl (fun d f => Dict.insert (freeName d table f.1) f.2 d) r.content ∧
      s.table = r.table ∧ s.key = r.key := by
  induction fields generalizing r with
  | nil => exact ⟨rfl, rfl, rfl⟩
  | cons f fields ih => exact ih _

variable {a b : Row}

@[simp] lemma combine_table : (combine a b).table = a.table := by
  rw [combine, (joinTables_eq _ _).2.1, (addFields_eq _ _ _).2.1]

@[simp] lemma combine_key : (combine a b).key = a.key := by
  rw [combine, (joinTables_eq _ _).2.2, (addFields_eq _ _ _).2.2]

lemma combine_content (hf : Unqualified b.table.name b.content) (hd : (Dict.keys b.content).Nodup) :
    (combine a b).content = Dict.merge a.content (renamed a.content b.table.name b.content) := by
  rw [combine, (joinTables_eq _ _).1, (addFields_eq _ _ _).1]
  exact foldl_freeName hf hd _ fun _ _ => rfl

lemma find?_combine (hf : Unqualified b.table.name b.content) (hd : (Dict.keys b.content).Nodup) (x : String) :
    Dict.find? x (combine a b).content =
      (Dict.find? x (renamed a.content b.table.name b.content)).or (Dict.find? x a.content) := by
  rw [combine_content hf hd, Dict.find?_merge, Dict.find?_reverse (nodup_renamed hf hd)]

def Vacant (taken : Dict Value) (b : Row) (x : String) : Prop :=
  ∀ name, freeName taken b.table.name name = x → b.field name = .null

lemma find?_combine_qualified (ha : Unqualified b.table.name a.content)
    (hf : Unqualified b.table.name b.content) (hd : (Dict.keys b.content).Nodup) (x : String) :
    Dict.find? (b.table.name ++ "." ++ x) (combine a b).content =
      if x ∈ Dict.keys a.content then Dict.find? x b.content else none := by
  rw [find?_combine hf hd, Dict.find?_eq_none_iff.mpr (ha x), Option.or_none]
  refine Option.ext fun v => ?_
  rw [find?_renamed hf hd]
  constructor
  · rintro ⟨name, hn, he⟩
    obtain ⟨rfl, hm⟩ := freeName_eq_qualified hf (List.mem_map_of_mem (Dict.mem_of_find? hn)) he
    rw [if_pos hm, hn]
  · intro h
    split at h
    · next hm => exact ⟨x, h, freeName_of_mem hm⟩
    · cases h

lemma find?_combine_of_mem (ha : Unqualified b.table.name a.content)
    (hf : Unqualified b.table.name b.content) (hd : (Dict.keys b.content).Nodup) {x : String}
    (hx : x ∈ Dict.keys a.content) : Dict.find? x (combine a b).content = Dict.find? x a.content := by
  have hn : x ∉ Dict.keys (renamed a.content b.table.name b.content) := by
    rw [keys_renamed]
    rintro h
    obtain ⟨name, -, rfl⟩ := List.mem_map.mp h
    exact freeName_not_mem ha hx
  rw [find?_combine hf hd, Dict.find?_eq_none_iff.mpr hn, Option.none_or]

lemma field_combine_of_mem (ha : Unqualified b.table.name a.content)
    (hf : Unqualified b.table.name b.content) (hd : (Dict.keys b.content).Nodup) {x : String}
    (hx : x ∈ Dict.keys a.content) : (combine a b).field x = a.field x := by
  rw [Row.field, find?_combine_of_mem ha hf hd hx, Row.field]

lemma field_combine_eq_null (ha : Unqualified b.table.name a.content)
    (hf : Unqualified b.table.name b.content) (hd : (Dict.keys b.content).Nodup) (x : String) :
    (combine a b).field x = .null ↔ a.field x = .null ∧ Vacant a.content b x := by
  by_cases hx : x ∈ Dict.keys a.content
  · rw [field_combine_of_mem ha hf hd hx]
    refine ⟨fun h => ⟨h, ?_⟩, And.left⟩
    rintro name rfl
    exact (freeName_not_mem ha hx).elim
  · have hnone : Dict.find? x a.content = none := Dict.find?_eq_none_iff.mpr hx
    rw [Row.field, find?_combine hf hd, Row.field, hnone, Option.or_none, Option.getD_none]
    refine ⟨fun h => ⟨rfl, fun name hn => ?_⟩, fun h => ?_⟩
    · rcases hv : Dict.find? name b.content with _ | v
      · rw [Row.field, hv, Option.getD_none]
      · rw [(find?_renamed hf hd).mpr ⟨name, hv, hn⟩] at h
        rw [Row.field, hv]
        exact h
    · rcases hv : Dict.find? x (renamed a.content b.table.name b.content) with _ | v
      · rfl
      · obtain ⟨name, hn, he⟩ := (find?_renamed hf hd).mp hv
        have := h.2 name he
        rwa [Row.field, hn] at this

end Combine

section StandIn

lemma find?_addNulls (names : List String) (r : Row) (x : String) :
    Dict.find? x (names.foldl addNull r).content =
      (Dict.find? x r.content).or (if x ∈ names then some .null else none) := by
  induction names generalizing r with
  | nil => simp
  | cons name names ih =>
    have hr : Dict.find? x (addNull r name).content =
        (Dict.find? x r.content).or (if x = name then some .null else none) := by
      unfold addNull
      split
      · next hc =>
        split
        · next hx =>
          obtain ⟨v, hv⟩ := Option.isSome_iff_exists.mp hc
          rw [hx, hv, Option.some_or]
        · rw [Option.or_none]
      · next hc =>
        rw [Dict.find?_insert]
        split
        · next hx =>
          have hnone : Dict.find? x r.content = none := by simpa [hx, Dict.contains] using hc
          rw [hnone, Option.none_or]
        · rw [Option.or_none]
    rw [List.foldl_cons, ih, hr, Option.or_assoc]
    by_cases hx : x = name <;> simp [hx]

lemma find?_addRows (rows : List Row) (r : Row) (x : String) :
    Dict.find? x (rows.foldl (fun r row => row.fields.foldl addNull r) r).content =
      (Dict.find? x r.content).or (if ∃ row ∈ rows, x ∈ row.fields then some .null else none) := by
  induction rows generalizing r with
  | nil => simp
  | cons row rows ih =>
    rw [List.foldl_cons, ih, find?_addNulls, Option.or_assoc]
    by_cases hx : x ∈ row.fields <;> simp [hx]

lemma find?_nulled (r : Row) (x : String) :
    Dict.find? x r.nulled.content = if x ∈ r.fields then some .null else none := by
  split
  · next hx =>
    refine Dict.find?_ofList_const (fun e he => ?_) (List.mem_map.mpr ⟨_, List.mem_map_of_mem hx, rfl⟩)
    obtain ⟨f, -, rfl⟩ := List.mem_map.mp he
    rfl
  · next hx =>
    rw [Dict.find?_eq_none_iff]
    intro hk
    obtain ⟨e, he, rfl⟩ := List.mem_map.mp hk
    obtain ⟨f, hf, rfl⟩ := List.mem_map.mp (Dict.mem_ofList he)
    exact hx hf

lemma find?_standIn (rows : List Row) (table : Table) (x : String) :
    Dict.find? x (standIn rows table).content =
      if ∃ row ∈ rows, x ∈ row.fields then some .null else none := by
  cases rows with
  | nil => simp [standIn, Row.ofValue]
  | cons first rest =>
    rw [standIn, find?_addRows, find?_nulled]
    by_cases hx : x ∈ first.fields <;> simp [hx]

lemma mem_keys_standIn {rows : List Row} {table : Table} {x : String} :
    x ∈ Dict.keys (standIn rows table).content ↔ ∃ row ∈ rows, x ∈ row.fields := by
  rw [← Dict.contains_iff, Dict.contains, find?_standIn]
  split <;> simp [*]

lemma field_standIn (rows : List Row) (table : Table) (x : String) : (standIn rows table).field x = .null := by
  rw [Row.field, find?_standIn]
  split <;> rfl

lemma sorted_addNulls (names : List String) {r : Row} (h : Dict.Sorted r.content) :
    Dict.Sorted (names.foldl addNull r).content := by
  induction names generalizing r with
  | nil => exact h
  | cons name names ih =>
    refine ih ?_
    unfold addNull
    split
    · exact h
    · exact Dict.sorted_insert h name .null

lemma nodup_standIn (rows : List Row) (table : Table) : (Dict.keys (standIn rows table).content).Nodup := by
  have hadd : ∀ (rest : List Row) (r : Row), Dict.Sorted r.content →
      Dict.Sorted (rest.foldl (fun r row => row.fields.foldl addNull r) r).content := by
    intro rest
    induction rest with
    | nil => exact fun _ h => h
    | cons row rest ih => exact fun r h => ih _ (sorted_addNulls row.fields h)
  cases rows with
  | nil => exact .nil
  | cons first rest => exact (hadd rest _ (Dict.sorted_ofList _)).nodup

lemma standIn_table (rows : List Row) (table : Table) :
    (standIn rows table).table = (rows.head?.map (·.table)).getD table := by
  have hnull : ∀ (names : List String) (r : Row), (names.foldl addNull r).table = r.table := by
    intro names
    induction names with
    | nil => exact fun _ => rfl
    | cons name names ih =>
      refine fun r => (ih _).trans ?_
      unfold addNull
      split <;> rfl
  have hadd : ∀ (rest : List Row) (r : Row),
      (rest.foldl (fun r row => row.fields.foldl addNull r) r).table = r.table := by
    intro rest
    induction rest with
    | nil => exact fun _ => rfl
    | cons row rest ih => exact fun r => (ih _).trans (hnull row.fields r)
  cases rows with
  | nil => rfl
  | cons first rest => exact hadd rest first.nulled

end StandIn

end DocQuery.Rows
