import DocQuery.Proofs.Plan.Building
import DocQuery.Proofs.Run.Changing

/-! Which tables a deletion with a list of columns reaches. A column of one table keeps it away from the
others; `*` does not, whichever table it is of. -/

namespace DocQuery

lemma Tables.rows_writeAll (ts : Tables) {changes : Dict (Dict Value)} {name : String}
    (h : ∀ c ∈ changes, c.1 = name → c.2 = []) : (ts.writeAll changes).rows name = ts.rows name := by
  induction changes generalizing ts with
  | nil => rfl
  | cons c changes ih =>
    rw [writeAll, List.foldl_cons, ← writeAll, ih _ fun c hm => h c (List.mem_cons_of_mem _ hm), rows_write]
    split
    · next hn => rw [h c List.mem_cons_self hn.symm, hn, List.foldl_nil]
    · rfl

namespace Plan

variable {rs made : Results} {p : Plan} {scheme : Scheme} {v : Value} {s s' : Store} {name : String}

lemma mem_keys_of_matched {ts : Tables} {r : Row} (hr : r ∈ p.matched rs ts name) :
    r.key ∈ Dict.keys (ts.rows name) := by
  rcases hf : p.tables.find? (·.name == name) with _ | t
  · rw [matched, hf] at hr
    cases hr
  · obtain ⟨hm, rfl⟩ := @matched_of_find? rs p ts _ _ hf
    rw [hm] at hr
    obtain ⟨e, he, rfl⟩ := List.mem_map.mp ((chosen_sublist _).subset hr)
    exact List.mem_map_of_mem ((ts.fetch_sublist t.name p.bound?).subset he)

lemma rows_of_change {changes : String → List Row → Dict Value} {t : Store} {sets : RowSets}
    (hs : (Query.matchedRows rs p).run s = (.ok sets, t))
    (hw : (Query.writeAll (sets.map fun e => (e.1, changes e.1 e.2))).run t = (.ok ⟨⟩, s'))
    (h : changes name (p.matched rs s.tables name) = []) : s'.tables.rows name = s.tables.rows name := by
  obtain ⟨ht, hsorted, hfind⟩ := Query.matchedRows_run hs
  rw [Query.writeAll_run hw, Tables.rows_writeAll, ht]
  rintro c hc rfl
  obtain ⟨⟨table, rows⟩, he, rfl⟩ := List.mem_map.mp (List.mem_filter.mp hc).1
  have hrows : rows = p.matched rs s.tables table := by
    rw [← hfind, Dict.find?_of_mem hsorted.nodup he, Option.getD_some]
  rw [hrows, h]

lemma Delete.changes_of_columns {p : Plan} (hcols : p.columns ≠ []) (hall : ∀ c ∈ p.columns, c.isAll = false)
    (hn : ∀ c ∈ p.columns, ∃ u, c.tableName? = some u ∧ u ≠ name) (rows : List Row) :
    Delete.changes p name rows = [] := by
  have hw : Delete.wholeRows p = false := by
    simpa [Delete.wholeRows, hcols] using hall
  have hc : Delete.columnsOf p name = [] := by
    refine List.filter_eq_nil_iff.mpr fun c hm => ?_
    obtain ⟨u, hu, hne⟩ := hn c hm
    simpa [hu] using hne
  rw [Delete.changes, hw, hc]
  rfl

lemma get?_of_wholeRows (hd : Delete.wholeRows p = true) (h : (Delete.run rs p).run s = (.ok v, s')) {r : Row}
    (hr : r ∈ p.matched rs s.tables name) : s'.tables.get? name r.key = none := by
  obtain ⟨sets, t, hs, hw⟩ := run_delete h
  have hc : Delete.changes p name (p.matched rs s.tables name) =
      Dict.ofList ((p.matched rs s.tables name).map fun r => (r.key, .null)) := if_pos hd
  have hnull : ∀ e ∈ (p.matched rs s.tables name).map fun r => (r.key, Value.null), e.2 = .null := by
    rintro e he
    obtain ⟨r, -, rfl⟩ := List.mem_map.mp he
    rfl
  have hk : r.key ∈ Dict.keys ((p.matched rs s.tables name).map fun r => (r.key, Value.null)) :=
    List.mem_map_of_mem (f := Prod.fst) (List.mem_map_of_mem hr)
  rw [get?_of_change (rowWise_delete p) hs hw, hc, Dict.find?_ofList_of_nodup (Dict.sorted_ofList _).nodup,
    Dict.find?_ofList_const hnull hk]
  rfl

lemma exists_primary (h : (Delete.run rs p).run s = (.ok v, s')) : ∃ t, p.primary? = some t := by
  obtain ⟨_, _, hp, _⟩ := run_bind_eq_ok h
  unfold Query.primary at hp
  split at hp
  · next t ht => exact ⟨t, ht⟩
  · cases hp

theorem untouched_iff [Source] (hp : ofScheme made scheme = .ok p) (hc : p.command = some .delete)
    (hcols : p.columns ≠ []) (hn : ∀ c ∈ p.columns, c.tableName? ≠ some name)
    (h : (p.run rs).run s = (.ok v, s')) :
    s'.tables.rows name = s.tables.rows name ↔
      (∀ c ∈ p.columns, c.isAll = false) ∨ p.matched rs s.tables name = [] := by
  rw [run, hc] at h
  obtain ⟨sets, t, hs, hw⟩ := run_delete h
  constructor
  · intro hrows
    by_cases hm : p.matched rs s.tables name = []
    · exact .inr hm
    · refine .inl fun c hmem => Bool.eq_false_iff.mpr fun hstar => ?_
      obtain ⟨r, hr⟩ := List.exists_mem_of_ne_nil _ hm
      have hwhole : Delete.wholeRows p = true :=
        Bool.or_eq_true_iff.mpr (.inr (List.any_eq_true.mpr ⟨c, hmem, hstar⟩))
      have hgone : s.tables.get? name r.key = none := by
        rw [Tables.get?, ← hrows]
        exact get?_of_wholeRows hwhole h hr
      exact Dict.find?_eq_none_iff.mp hgone (mem_keys_of_matched hr)
  · rintro (hall | hm)
    · obtain ⟨table, ht⟩ := exists_primary h
      refine rows_of_change hs hw (Delete.changes_of_columns hcols hall (fun c hmem => ?_) _)
      obtain ⟨u, hu⟩ := table_of_mem_columns hp ht hmem
      have hu' : c.tableName? = some u.name := by rw [Column.tableName?, hu, Option.map_some]
      exact ⟨u.name, hu', fun he => hn c hmem (he ▸ hu')⟩
    · refine rows_of_change hs hw ?_
      rw [hm, Delete.changes]
      split
      · rfl
      · split <;> rfl

def usersAndOrders : Tables :=
  .ofObjects [("orders", [("o1", [("mark", .string "x")])]), ("users", [("u1", [("mark", .string "x")]), ("u2", [])])]

def columnsFromBoth (columns : List String) : Scheme :=
  [⟨.delete, columns.map fun c => .value (.string c)⟩,
    ⟨.fromTables, [.table (.named "users"), .table (.named "orders")]⟩]

def twoColumns : Plan :=
  { empty with
    command := some .delete
    columns := [.ofTable (.named "users") "mark", .ofTable (.named "users") "name"]
    tables := [.named "users", .named "orders"] }

theorem untouched_iff_two_columns :
    ∃ s, ofScheme [] (columnsFromBoth ["mark", "users.name"]) = .ok twoColumns ∧
      twoColumns.command = some .delete ∧ twoColumns.columns ≠ [] ∧
      (∀ c ∈ twoColumns.columns, c.tableName? ≠ some "orders") ∧
      (twoColumns.run []).run (.ofTables usersAndOrders) = (.ok (.bool true), s) ∧
      (twoColumns.matched [] usersAndOrders "orders").map Row.key = ["o1"] ∧
      (s.tables.rows "orders" = usersAndOrders.rows "orders" ↔
        (∀ c ∈ twoColumns.columns, c.isAll = false) ∨ twoColumns.matched [] usersAndOrders "orders" = []) := by
  have hp : ofScheme [] (columnsFromBoth ["mark", "users.name"]) = .ok twoColumns := rfl
  have hcols : twoColumns.columns ≠ [] := List.cons_ne_nil _ _
  have hn : ∀ c ∈ twoColumns.columns, c.tableName? ≠ some "orders" := by decide
  have hr : (twoColumns.run []).run (.ofTables usersAndOrders) =
    (.ok (.bool true), ((twoColumns.run []).run (.ofTables usersAndOrders)).2) := rfl
  exact ⟨_, hp, rfl, hcols, hn, hr, rfl, untouched_iff hp rfl hcols hn hr⟩

/-- All columns of one table are listed, and a row of the other is gone. -/
theorem orders_not_untouched :
    ∃ p s, ofScheme [] (columnsFromBoth ["users.*"]) = .ok p ∧ p.command = some .delete ∧
      p.columns ≠ [] ∧ (∀ c ∈ p.columns, c.tableName? ≠ some "orders") ∧
      (p.run []).run (.ofTables usersAndOrders) = (.ok (.bool true), s) ∧
      s.tables.rows "orders" ≠ usersAndOrders.rows "orders" := by
  have hn : ∀ c ∈ [Column.ofTable (.named "users") "*"], c.tableName? ≠ some "orders" := by decide
  exact ⟨_, _, rfl, rfl, List.cons_ne_nil _ _, hn, rfl, fun h => nomatch h⟩

end Plan

end DocQuery
