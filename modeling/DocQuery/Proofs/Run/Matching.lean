import DocQuery.Proofs.Outcomes
import DocQuery.Proofs.Tables
import DocQuery.Run.Fetch

namespace DocQuery

lemma Bound.apply_sublist {α : Type} (b : Bound) (rows : List α) : (b.apply rows).Sublist rows := by
  cases b with
  | first n => exact List.take_sublist n rows
  | last n => exact List.drop_sublist _ rows

lemma Limit.apply_sublist {α : Type} (l : Limit) (rows : List α) : (l.apply rows).Sublist rows :=
  (List.drop_sublist _ _).trans (List.take_sublist _ _)

lemma Conditions.test_of_isEmpty {c : Conditions} (h : c.isEmpty = true) (rs : Results) (row : Row) :
    c.test rs row = true := by
  obtain ⟨ts⟩ := c
  obtain rfl := List.isEmpty_iff.mp h
  rfl

lemma Conditions.filter_unless_isEmpty (c : Conditions) (rs : Results) (rows : List Row) :
    (if c.isEmpty then rows else rows.filter (c.test rs)) = rows.filter (c.test rs) := by
  split
  · next he => exact (List.filter_eq_self.mpr fun r _ => test_of_isEmpty he rs r).symm
  · rfl

namespace Tables

lemma fetch_sublist (ts : Tables) (name : String) (bound : Option Bound) :
    (ts.fetch name bound).Sublist (ts.rows name) := by
  cases bound with
  | none => exact .refl _
  | some b => exact b.apply_sublist _

def rowsOf (ts : Tables) (bound : Option Bound) (t : Table) : List Row :=
  (ts.fetch t.name bound).map fun e => Row.ofValue t e.1 e.2

lemma table_of_mem_rowsOf {ts : Tables} {bound : Option Bound} {t : Table} {r : Row} (h : r ∈ ts.rowsOf bound t) :
    r.table = t := by
  obtain ⟨e, -, rfl⟩ := List.mem_map.mp h
  rfl

lemma WellFormed.rowsOf_keys {ts : Tables} (h : ts.WellFormed) (bound : Option Bound) (t : Table) :
    ((ts.rowsOf bound t).map Row.key).Nodup := by
  have hk : (ts.rowsOf bound t).map Row.key = Dict.keys (ts.fetch t.name bound) := by
    rw [rowsOf, List.map_map]
    rfl
  rw [hk]
  exact ((ts.fetch_sublist t.name bound).map _).nodup (h.sorted t.name).nodup

lemma WellFormed.get?_rowsOf {ts : Tables} (h : ts.WellFormed) {bound : Option Bound} {t : Table} {r : Row}
    (hr : r ∈ ts.rowsOf bound t) : ts.get? t.name r.key = some (.object r.content) := by
  obtain ⟨⟨key, v⟩, he, rfl⟩ := List.mem_map.mp hr
  have hv : ts.get? t.name key = some v :=
    Dict.find?_of_mem (h.sorted t.name).nodup ((ts.fetch_sublist t.name bound).subset he)
  obtain ⟨fields, rfl⟩ := h.objects hv
  exact hv

end Tables

namespace Plan

variable {rs : Results} {p : Plan} {ts : Tables}

def chosen (rs : Results) (p : Plan) (rows : List Row) : List Row :=
  p.limit.elim (rows.filter (p.conditions.test rs)) (·.apply (rows.filter (p.conditions.test rs)))

def matched (rs : Results) (p : Plan) (ts : Tables) (name : String) : List Row :=
  (p.tables.find? (·.name == name)).elim [] fun t => p.chosen rs (ts.rowsOf p.bound? t)

lemma chosen_sublist (rows : List Row) : (p.chosen rs rows).Sublist rows := by
  unfold chosen
  cases p.limit with
  | none => exact List.filter_sublist
  | some l => exact (l.apply_sublist _).trans List.filter_sublist

lemma matched_of_find? {name : String} {t : Table} (h : p.tables.find? (·.name == name) = some t) :
    p.matched rs ts name = p.chosen rs (ts.rowsOf p.bound? t) ∧ t.name = name := by
  rw [matched, h]
  exact ⟨rfl, by simpa using List.find?_some h⟩

lemma matched_keys (h : ts.WellFormed) (name : String) : ((p.matched rs ts name).map Row.key).Nodup := by
  rcases hf : p.tables.find? (·.name == name) with _ | t
  · rw [matched, hf]
    exact .nil
  · rw [(matched_of_find? hf).1]
    exact ((chosen_sublist _).map _).nodup (h.rowsOf_keys _ t)

lemma get?_matched (h : ts.WellFormed) {name : String} {r : Row} (hr : r ∈ p.matched rs ts name) :
    ts.get? name r.key = some (.object r.content) := by
  rcases hf : p.tables.find? (·.name == name) with _ | t
  · rw [matched, hf] at hr
    cases hr
  · obtain ⟨hm, rfl⟩ := @matched_of_find? rs p ts _ _ hf
    rw [hm] at hr
    exact h.get?_rowsOf ((chosen_sublist _).subset hr)

end Plan

lemma Store.run_fetch (name : String) (bound : Option Bound) (s : Store) :
    (Store.fetch name bound).run s =
      (if s.offline.contains name then .error .offline else .ok (s.tables.fetch name bound),
        { s with journal := s.journal ++ [.fetch name bound] }) := by
  unfold Store.fetch
  rw [run_bind_of_ok (m := log _) rfl, run_bind_of_ok (m := get) rfl]
  split <;> rfl

namespace Query

lemma run_ofStore {α : Type} (a : StoreAction α) (s : Store) :
    (ofStore a).run s = ((a.run s).1.mapError Error.store, (a.run s).2) := rfl

lemma fetchRows_run {t : Table} {bound : Option Bound} {s s' : Store} {rows : List Row}
    (h : (fetchRows t bound).run s = (.ok rows, s')) :
    rows = s.tables.rowsOf bound t ∧ s'.tables = s.tables := by
  obtain ⟨found, u, hf, h⟩ := run_bind_eq_ok h
  rw [run_ofStore, Store.run_fetch] at hf
  split at hf
  · cases hf
  · cases hf
    cases h
    exact ⟨rfl, rfl⟩

lemma applyJoins_invariant {t : Table} {motive : List Join → List Row → Prop} {js : List Join} (done : List Join)
    {rows : List Row} {sets : RowSets} {s s' : Store} (start : motive done rows)
    (skip : ∀ j ∈ js, ∀ done rows, j.other.table = none → motive done rows → motive (done ++ [j]) rows)
    (step : ∀ j ∈ js, ∀ done rows others u, j.other.table = some u → (∀ r ∈ others, r.table = u) →
      motive done rows → motive (done ++ [j]) (Rows.join j rows others))
    (h : (applyJoins t [(t.name, rows)] js).run s = (.ok sets, s')) :
    ∃ joined, sets = [(t.name, joined)] ∧ motive (done ++ js) joined := by
  induction js generalizing done rows s with
  | nil =>
    cases h
    exact ⟨rows, rfl, (List.append_nil done).symm ▸ start⟩
  | cons j js ih =>
    have hskip := fun j' hm => skip j' (List.mem_cons_of_mem _ hm)
    have hstep := fun j' hm => step j' (List.mem_cons_of_mem _ hm)
    rw [List.append_cons]
    rw [applyJoins] at h
    split at h
    · next hn => exact ih _ (skip j List.mem_cons_self done rows hn start) hskip hstep h
    · next u hu =>
      obtain ⟨others, u', hf, h⟩ := run_bind_eq_ok h
      have hothers : ∀ r ∈ others, r.table = u := by
        rw [(fetchRows_run hf).1]
        exact fun r hr => Tables.table_of_mem_rowsOf hr
      have hfind : (Dict.find? t.name [(t.name, rows)]).getD [] = rows := by
        rw [Dict.find?_cons, if_pos rfl, Option.getD_some]
      have hinsert (rows' : List Row) : Dict.insert t.name rows' [(t.name, rows)] = [(t.name, rows')] := if_pos rfl
      dsimp only at h
      rw [hfind, hinsert] at h
      exact ih _ (step j List.mem_cons_self done rows others u hu hothers start) hskip hstep h

lemma fetchTables_run {bound : Option Bound} {tables : List Table} {sets sets' : RowSets} {s s' : Store}
    (h : (fetchTables bound sets tables).run s = (.ok sets', s')) (hs : Dict.Sorted sets) :
    s'.tables = s.tables ∧ Dict.Sorted sets' ∧
      ∀ name, Dict.find? name sets' =
        (Dict.find? name sets).or ((tables.find? (·.name == name)).map (s.tables.rowsOf bound)) := by
  induction tables generalizing sets s with
  | nil =>
    cases h
    exact ⟨rfl, hs, fun name => (Option.or_none).symm⟩
  | cons t tables ih =>
    rw [fetchTables] at h
    split at h
    · next hc =>
      obtain ⟨ht, hs', hf⟩ := ih h hs
      refine ⟨ht, hs', fun name => ?_⟩
      rw [hf name, List.find?_cons]
      by_cases hn : t.name = name
      · obtain ⟨rows, hrows⟩ := Option.isSome_iff_exists.mp hc
        rw [← hn, hrows, Option.some_or, Option.some_or]
      · rw [beq_eq_false_iff_ne.mpr hn]
    · next hc =>
      obtain ⟨rows, u, hr, h⟩ := run_bind_eq_ok h
      obtain ⟨rfl, hu⟩ := fetchRows_run hr
      obtain ⟨ht, hs', hf⟩ := ih h (Dict.sorted_insert hs _ _)
      refine ⟨ht.trans hu, hs', fun name => ?_⟩
      rw [hf name, hu, Dict.find?_insert, List.find?_cons]
      by_cases hn : t.name = name
      · have hnone : Dict.find? name sets = none := by
          rw [← hn]
          simpa [Dict.contains] using hc
        rw [if_pos hn.symm, hnone, beq_iff_eq.mpr hn]
        rfl
      · rw [if_neg (Ne.symm hn), beq_eq_false_iff_ne.mpr hn]

lemma matchedRows_run {rs : Results} {p : Plan} {s s' : Store} {sets : RowSets}
    (h : (matchedRows rs p).run s = (.ok sets, s')) :
    s'.tables = s.tables ∧ Dict.Sorted sets ∧
      ∀ name, (Dict.find? name sets).getD [] = p.matched rs s.tables name := by
  obtain ⟨fetched, u, hf, h⟩ := run_bind_eq_ok h
  obtain ⟨hu, hs, hfind⟩ := fetchTables_run hf .nil
  cases h
  refine ⟨hu, List.pairwise_map.mpr hs, fun name => ?_⟩
  rw [Dict.find?_mapValues, hfind name, Dict.find?_nil, Option.none_or, Plan.matched]
  cases p.tables.find? (·.name == name) with
  | none => rfl
  | some t =>
    rw [Option.map_some, Option.map_some, Option.getD_some]
    exact congrArg (fun rows => p.limit.elim rows (·.apply rows))
      (p.conditions.filter_unless_isEmpty rs (s.tables.rowsOf p.bound? t))

end Query

end DocQuery
