import DocQuery.Proofs.Function.Framing
import DocQuery.Proofs.Rows.Repeating

namespace DocQuery

namespace Row

lemma mem_labels_of_project {columns : List Column} (hne : columns ≠ []) (hall : ∀ c ∈ columns, c.isAll = false)
    {r : Row} {name : String} (h : name ∈ Dict.keys (r.project columns).content) :
    name ∈ columns.map Column.label := by
  rw [content_project hne hall] at h
  obtain ⟨e, he, rfl⟩ := List.mem_map.mp h
  exact (r.keys_entries_sublist columns).subset (List.mem_map_of_mem (Dict.mem_ofList he))

end Row

namespace Rows

lemma mem_of_mem_partition {keys : List SortKey} {rows g : List Row} {r : Row} (hg : g ∈ partition keys rows)
    (hr : r ∈ g) : r ∈ rows := by
  by_cases hk : keys = []
  · rw [partition, if_pos hk] at hg
    rwa [List.mem_singleton.mp hg] at hr
  · rw [partition_eq_classes hk] at hg
    exact (flatten_classes_perm alike_groupKey_iff rows).mem_iff.mp (List.mem_flatten_of_mem hg hr)

end Rows

namespace Select

variable {rs : Results} {p : Plan} {r : Row} {rows : List Row} {name : String}

lemma mem_of_mem_arrange (h : r ∈ arrange rs p rows) : r ∈ rows := by
  rw [arrange, Conditions.filter_unless_isEmpty] at h
  have hsorted : r ∈ Rows.order p.orderBy (Rows.group p.groupBy (rows.filter (p.having.test rs))) := by
    cases hl : p.limit with
    | none => rwa [hl] at h
    | some l =>
      rw [hl] at h
      exact (l.apply_infix _).subset h
  have hgrouped := (List.mergeSort_perm _ _).mem_iff.mp hsorted
  exact (List.mem_filter.mp ((Rows.group_perm _ _).mem_iff.mp hgrouped)).1

lemma mem_keys_applyCalls [Source] {table : String} (hr : r ∈ applyCalls p table rows)
    (h : name ∈ Dict.keys r.content) :
    name ∈ targets p ∨ ∃ base ∈ rows, name ∈ Dict.keys base.content := by
  rw [applyCalls] at hr
  split at hr
  · exact .inr ⟨r, hr, h⟩
  · obtain ⟨g, hg, hr⟩ := List.mem_flatMap.mp hr
    obtain ⟨base, hbase, hchanged⟩ := Call.exists_base hr
    rcases hchanged.mem_keys h with ⟨c, hc, -, rfl⟩ | hm
    · exact .inl (List.mem_map_of_mem hc)
    · rcases hbase with hbase | hbase
      · exact .inr ⟨base, Rows.mem_of_mem_partition hg hbase, hm⟩
      · rw [hbase] at hm
        cases hm

lemma mem_keys_dropHelpers (h : name ∈ Dict.keys (dropHelpers p r).content) :
    drops p name = false ∧ name ∈ Dict.keys r.content := by
  rw [← Dict.contains_iff, Dict.contains, find?_dropHelpers] at h
  split at h
  · cases h
  · next hd => exact ⟨by simpa using hd, Dict.contains_iff.mp h⟩

lemma asked_of_not_drops (hd : drops p name = false)
    (h : onlyCalls p = true ∨ name ∈ targets p ∨ name ∈ p.columns.map Column.label) :
    name ∈ targets p ∨ ∃ c ∈ p.columns, c.temporary = false ∧ c.label = name := by
  rw [drops] at hd
  cases ho : onlyCalls p with
  | true => simp_all
  | false =>
    rcases h with h | h | h
    · simp [ho] at h
    · exact .inl h
    · obtain ⟨c, hc, rfl⟩ := List.mem_map.mp h
      cases ht : c.temporary with
      | false => exact .inr ⟨c, hc, ht, rfl⟩
      | true =>
        have hm : c.label ∈ (p.columns.filter (·.temporary)).map Column.label :=
          List.mem_map_of_mem (List.mem_filter.mpr ⟨hc, ht⟩)
        have hkept : c.label ∈ (p.columns.filter (!·.temporary)).map Column.label ∨ c.label ∈ targets p := by
          by_contra hno
          obtain ⟨hs, htargets⟩ := not_or.mp hno
          have : c.label ∈ helpers p := List.mem_filter.mpr ⟨hm, by simpa using ⟨by simpa using hs, htargets⟩⟩
          simp_all
        rcases hkept with hs | hs
        · obtain ⟨d, hd, he⟩ := List.mem_map.mp hs
          obtain ⟨hdm, hdt⟩ := List.mem_filter.mp hd
          exact .inr ⟨d, hdm, by simpa using hdt, he⟩
        · exact .inl hs

lemma mem_projected {sets : RowSets} {table : String}
    (hm : (table, rows) ∈ dropRepetitions p (Dict.mapValues (project rs p) sets)) (hr : r ∈ rows) :
    ∃ source : Row, r = source.project p.columns := by
  have hproject : ∀ {e : String × List Row}, e ∈ Dict.mapValues (project rs p) sets → ∀ r ∈ e.2,
      ∃ source : Row, r = source.project p.columns := by
    intro e he r hr
    obtain ⟨e, -, rfl⟩ := List.mem_map.mp he
    obtain ⟨source, -, rfl⟩ := List.mem_map.mp hr
    exact ⟨source, rfl⟩
  rw [dropRepetitions] at hm
  split at hm
  · obtain ⟨e, he, heq⟩ := List.mem_map.mp hm
    cases heq
    exact hproject he r ((Rows.distinctFrom_sublist [] _).subset hr)
  · exact hproject hm r hr

lemma mem_keys_shown [Source] (hu : p.unions = []) (hne : p.columns ≠ [] ∨ p.calls ≠ [])
    (hall : ∀ c ∈ p.columns, c.isAll = false) {primary : Table} {sets : RowSets} {table : String}
    (hm : (table, rows) ∈ shown rs p primary sets) (hr : r ∈ rows) (h : name ∈ Dict.keys r.content) :
    name ∈ targets p ∨ ∃ c ∈ p.columns, c.temporary = false ∧ c.label = name := by
  rw [shown, addUnions, hu] at hm
  obtain ⟨⟨table, picked⟩, hpicked, he⟩ := List.mem_map.mp hm
  cases he
  obtain ⟨made, hmade, rfl⟩ := List.mem_map.mp (mem_of_mem_arrange hr)
  obtain ⟨hd, h⟩ := mem_keys_dropHelpers h
  apply asked_of_not_drops hd
  by_cases hc : p.columns = []
  · have hcalls := hne.resolve_left fun hne => hne hc
    exact .inl (by simp [onlyCalls, hc, hcalls])
  · rcases mem_keys_applyCalls hmade h with h | ⟨base, hbase, h⟩
    · exact .inr (.inl h)
    · obtain ⟨source, rfl⟩ := mem_projected hpicked hbase
      exact .inr (.inr (Row.mem_labels_of_project hc hall h))

lemma exists_shown [Source] {s s' : Store} {sets : RowSets} (h : (Select.rows rs p).run s = (.ok sets, s')) :
    ∃ primary fetched, sets = shown rs p primary fetched := by
  obtain ⟨primary, _, _, h⟩ := run_bind_eq_ok h
  obtain ⟨_, _, _, h⟩ := run_bind_eq_ok h
  obtain ⟨fetched, _, _, h⟩ := run_bind_eq_ok h
  cases h
  exact ⟨primary, fetched, rfl⟩

variable {made : Results} {before after : Scheme} {args : List Arg}

section OfScheme

variable (hp : Plan.ofScheme made (before ++ ⟨.select, args⟩ :: after) = .ok p)
  (hone : ∀ o ∈ before ++ after, o.keyword ≠ .select ∧ o.keyword ≠ .delete)

include hp hone

lemma mem_targets_iff : name ∈ targets p ↔ ∃ c ∈ called args, c.target = name := by
  rw [targets, (Plan.ofScheme_select hp hone).2, List.map_map]
  exact List.mem_map

lemma exists_requested (h : ∃ c ∈ p.columns, c.temporary = false ∧ c.label = name) :
    ∃ c ∈ requested args, c.label = name := by
  obtain ⟨c, hc, ht, rfl⟩ := h
  rw [(Plan.ofScheme_select hp hone).1] at hc
  obtain ⟨d, hd, rfl⟩ := List.mem_map.mp hc
  rw [Column.inTable_temporary] at ht
  exact ⟨d, (Plan.mem_withInputs _ _ d hd).resolve_right (by simp [ht]), (d.inTable_label _).symm⟩

lemma drops_of_asked (h : (∃ c ∈ requested args, c.temporary = false ∧ c.label = name) ∨
    ∃ c ∈ called args, c.target = name) : drops p name = false := by
  rcases h with ⟨c, hc, ht, rfl⟩ | h
  · have hm : c.inTable p.primary? ∈ p.columns := by
      rw [(Plan.ofScheme_select hp hone).1]
      exact List.mem_map_of_mem (Plan.subset_withInputs _ _ hc)
    rw [← c.inTable_label p.primary?]
    exact drops_shown hm (by simpa using ht)
  · obtain ⟨c, hc, rfl⟩ := List.mem_map.mp ((mem_targets_iff hp hone).mpr h)
    exact drops_target hc

lemma columns_or_calls (hargs : args ≠ []) : p.columns ≠ [] ∨ p.calls ≠ [] := by
  obtain ⟨hcolumns, hcalls⟩ := Plan.ofScheme_select hp hone
  rcases Plan.ofScheme_select_nonempty hp hone hargs with h | h
  · left
    intro hnil
    rw [hcolumns, List.map_eq_nil_iff] at hnil
    exact h (List.subset_nil.mp (hnil ▸ Plan.subset_withInputs (requested args) _))
  · right
    intro hnil
    exact h (List.map_eq_nil_iff.mp (hcalls ▸ hnil))

end OfScheme

theorem run_requested [Source] (hp : Plan.ofScheme made (before ++ ⟨.select, args⟩ :: after) = .ok p)
    (hone : ∀ o ∈ before ++ after, o.keyword ≠ .select ∧ o.keyword ≠ .delete)
    (hc : p.command = some .select) (hu : p.unions = []) (hargs : args ≠ [])
    (hall : ∀ c ∈ requested args, c.isAll = false) :
    (∀ (rs : Results) (s s' : Store) (v : Value), (p.run rs).run s = (.ok v, s') →
      ∃ sets : Dict (List (Dict Value)), v = .object (Dict.mapValues (fun rows => .array (rows.map .object)) sets) ∧
        ∀ e ∈ sets, ∀ content ∈ e.2, ∀ name ∈ Dict.keys content,
          (∃ c ∈ requested args, c.label = name) ∨ ∃ c ∈ called args, c.target = name) ∧
    ∀ (r : Row) (name : String), ((∃ c ∈ requested args, c.temporary = false ∧ c.label = name) ∨
        ∃ c ∈ called args, c.target = name) →
      Dict.find? name (dropHelpers p r).content = Dict.find? name r.content := by
  constructor
  · intro rs s s' v h
    have hrun : p.run rs = run rs p := by rw [Plan.run, hc]
    rw [hrun, run_eq] at h
    obtain ⟨sets, u, hsets, h⟩ := run_bind_eq_ok h
    cases h
    obtain ⟨primary, fetched, rfl⟩ := exists_shown hsets
    refine ⟨Dict.mapValues (List.map Row.content) (shown rs p primary fetched), ?_, ?_⟩
    · simp only [Dict.mapValues, List.map_map, Function.comp_def]
      rfl
    · intro e he content hcontent name hname
      obtain ⟨⟨table, rows⟩, hm, rfl⟩ := List.mem_map.mp he
      obtain ⟨r, hr, rfl⟩ := List.mem_map.mp hcontent
      rcases mem_keys_shown hu (columns_or_calls hp hone hargs) (explicit_of_scheme hp hone hall) hm hr hname with h | h
      · exact .inr ((mem_targets_iff hp hone).mp h)
      · exact .inl (exists_requested hp hone h)
  · intro r name h
    rw [find?_dropHelpers, drops_of_asked hp hone h]
    rfl

def cityList : List Arg :=
  [.value (.string "city"), .function ⟨"MAX", "oldest", [.column (.named "age")]⟩,
    .function ⟨"UPPER", "age", [.column (.named "name")]⟩]

def byCity : Scheme := [⟨.fromTables, [.value (.string "users")]⟩, ⟨.groupBy, [.value (.string "city")]⟩]

def cityPlan : Plan :=
  { Plan.empty with
    command := some .select
    columns := [userColumn "city", { userColumn "age" with temporary := true },
      { userColumn "name" with temporary := true }]
    calls := [⟨"MAX", "oldest", [.column (userColumn "age")]⟩, ⟨"UPPER", "age", [.column (userColumn "name")]⟩]
    tables := [.named "users"]
    groupBy := [⟨userColumn "city", .ascending⟩] }

def cityRow (city first : String) (oldest : Int) : Dict Value :=
  [("age", .string first), ("city", .string city), ("oldest", .int oldest)]

theorem run_requested_cities :
    Plan.ofScheme [] ([] ++ ⟨.select, cityList⟩ :: byCity) = .ok cityPlan ∧
    (∀ o ∈ [] ++ byCity, o.keyword ≠ .select ∧ o.keyword ≠ .delete) ∧ cityPlan.command = some .select ∧
    cityPlan.unions = [] ∧ cityList ≠ [] ∧ (∀ c ∈ requested cityList, c.isAll = false) ∧
    ∃ v s', (cityPlan.run []).run citizenStore = (.ok v, s') ∧
      v = .object [("users", .array [.object (cityRow "Oslo" "BOB" 40), .object (cityRow "Bergen" "AL" 30)])] ∧
      ∃ sets : Dict (List (Dict Value)), v = .object (Dict.mapValues (fun rows => .array (rows.map .object)) sets) ∧
        ∀ e ∈ sets, ∀ content ∈ e.2, ∀ name ∈ Dict.keys content,
          (∃ c ∈ requested cityList, c.label = name) ∨ ∃ c ∈ called cityList, c.target = name := by
  have hp : Plan.ofScheme [] ([] ++ ⟨.select, cityList⟩ :: byCity) = .ok cityPlan := rfl
  have hone : ∀ o ∈ [] ++ byCity, o.keyword ≠ .select ∧ o.keyword ≠ .delete := by decide
  have hall : ∀ c ∈ requested cityList, c.isAll = false := by decide
  have hlaid : laidOut cityPlan "users" citizens =
      Rows.group cityPlan.groupBy ((applyCalls cityPlan "users" (citizens.map (·.project cityPlan.columns))).map
        (dropHelpers cityPlan)) := Rows.order_nil _
  have hrun : ∃ s', (cityPlan.run []).run citizenStore = (.ok (.object [("users", .array
      [.object (cityRow "Oslo" "BOB" 40), .object (cityRow "Bergen" "AL" 30)])]), s') := by
    refine ⟨citizenStore.asked (.fetch "users" none), ?_⟩
    have hselect : cityPlan.run [] = run [] cityPlan := rfl
    rw [hselect, run_laidOut rfl rfl rfl (.inl (by decide))]
    change (Except.ok (Value.object [("users", .array ((laidOut cityPlan "users" citizens).map Row.toValue))]), _) = _
    rw [hlaid]
    rfl
  obtain ⟨s', hrun⟩ := hrun
  exact ⟨hp, hone, rfl, rfl, by decide, hall, _, s', hrun, rfl,
    (run_requested hp hone rfl rfl (by decide) hall).1 [] _ _ _ hrun⟩

end Select

end DocQuery
