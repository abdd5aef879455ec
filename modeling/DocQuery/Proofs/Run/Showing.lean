import DocQuery.Proofs.Limits
import DocQuery.Proofs.Plan.Heads
import DocQuery.Proofs.Rows.Classes
import DocQuery.Proofs.Rows.Joining
import DocQuery.Proofs.Run.Calling
import DocQuery.Proofs.Run.Matching
import DocQuery.Run

namespace DocQuery

namespace Rows

lemma order_nil (rows : List Row) : order [] rows = rows :=
  List.mergeSort_of_pairwise (List.pairwise_of_forall fun _ _ => rfl)

lemma order_pair (keys : List SortKey) (a b : Row) :
    order keys [a, b] = if (compare keys a b).isLE then [a, b] else [b, a] :=
  mergeSort_pair _ a b

def partners (j : Join) (bs : List Row) (a : Row) : List Row :=
  match bs.filter (isMatch j a) with
  | [] => [standIn bs (sideTable j.other bs)]
  | matched => matched

lemma partners_ne_nil (j : Join) (bs : List Row) (a : Row) : partners j bs a ≠ [] := by
  unfold partners
  split
  · exact List.cons_ne_nil _ _
  · next hne => exact hne

lemma left_eq (j : Join) (as bs : List Row) :
    left j as bs = as.flatMap fun a => (partners j bs a).map (combine a) := by
  unfold left
  dsimp only
  congr 1
  funext a
  unfold partners
  cases bs.filter (isMatch j a) <;> rfl

lemma mem_keys_left {j : Join} {as bs : List Row} {key : String} :
    key ∈ (left j as bs).map Row.key ↔ key ∈ as.map Row.key := by
  rw [left_eq]
  constructor
  · intro h
    obtain ⟨r, hr, rfl⟩ := List.mem_map.mp h
    obtain ⟨a, ha, hr⟩ := List.mem_flatMap.mp hr
    obtain ⟨b, _, rfl⟩ := List.mem_map.mp hr
    rw [combine_key]
    exact List.mem_map_of_mem ha
  · intro h
    obtain ⟨a, ha, rfl⟩ := List.mem_map.mp h
    obtain ⟨b, hb⟩ := List.exists_mem_of_ne_nil _ (partners_ne_nil j bs a)
    have hm : combine a b ∈ as.flatMap fun a => (partners j bs a).map (combine a) :=
      List.mem_flatMap.mpr ⟨a, ha, List.mem_map_of_mem hb⟩
    exact List.mem_map.mpr ⟨_, hm, combine_key⟩

end Rows

namespace Select

def shown [Source] (rs : Results) (p : Plan) (primary : Table) (sets : RowSets) : RowSets :=
  (dropRepetitions p (addUnions rs p primary (Dict.mapValues (project rs p) sets))).map fun (name, rows) =>
    (name, arrange rs p ((applyCalls p name rows).map (dropHelpers p)))

lemma output_eq [Source] (rs : Results) (p : Plan) (primary : Table) (sets : RowSets) :
    output rs p primary sets =
      .object (Dict.mapValues (fun rows => .array (rows.map Row.toValue)) (shown rs p primary sets)) := by
  simp only [output, shown, finish, Dict.mapValues, List.map_map, Function.comp_def]

def rows [Source] (rs : Results) (p : Plan) : Query RowSets := do
  let primary ← Query.primary p .select
  let sets ← Query.fetchTables p.bound? [] p.tables
  let sets ← Query.applyJoins primary sets p.joins
  return shown rs p primary sets

lemma run_eq [Source] (rs : Results) (p : Plan) : run rs p = do
    let sets ← rows rs p
    return .object (Dict.mapValues (fun rows => .array (rows.map Row.toValue)) sets) := by
  simp only [run, rows, output_eq, bind_assoc, pure_bind]

def displayed (rs : Results) (p : Plan) (rows : List Row) : List Row :=
  arrange rs p ((project rs p rows).map (dropHelpers p))

section Plain

variable {rs : Results} {p : Plan} (hp : p.Plain)

include hp

lemma shown_plain [Source] (primary : Table) (sets : RowSets) :
    shown rs p primary sets = Dict.mapValues (displayed rs p) sets := by
  simp [shown, addUnions, hp.unions, dropRepetitions, hp.distinct, applyCalls, hp.calls, Dict.mapValues, displayed]

lemma arrange_plain (rows : List Row) :
    arrange rs p rows = p.limit.elim (Rows.order p.orderBy rows) (·.apply (Rows.order p.orderBy rows)) := by
  simp only [arrange, hp.having, hp.groupBy, Rows.group, if_true]

end Plain

section Keys

variable {rs : Results} {p : Plan}

lemma keys_project (rows : List Row) :
    ((project rs p rows).map (dropHelpers p)).map Row.key = (rows.filter (p.conditions.test rs)).map Row.key := by
  rw [project, List.map_map, List.map_map]
  apply List.map_congr_left
  intro r _
  exact (dropHelpers_key _).trans (r.project_key _)

lemma keys_displayed_of_unordered (hp : p.Plain) (ho : p.orderBy = []) (rows : List Row) :
    (displayed rs p rows).map Row.key = (p.chosen rs rows).map Row.key := by
  rw [displayed, arrange_plain hp, ho, Rows.order_nil, Plan.chosen]
  cases p.limit with
  | none => exact keys_project rows
  | some l =>
    rw [Option.elim_some, Option.elim_some, ← Limit.apply_map, keys_project, Limit.apply_map]

lemma mem_keys_displayed_of_unlimited (hp : p.Plain) (hl : p.limit = none) (rows : List Row) {key : String} :
    key ∈ (displayed rs p rows).map Row.key ↔ key ∈ (p.chosen rs rows).map Row.key := by
  rw [displayed, arrange_plain hp, Plan.chosen, hl, Option.elim_none, Option.elim_none, ← keys_project]
  exact ((List.mergeSort_perm _ _).map Row.key).mem_iff

end Keys

end Select

def Store.asked (s : Store) (r : Request) : Store := { s with journal := s.journal ++ [r] }

namespace Query

variable {t : Table} {s : Store}

lemma primary_of_tables {p : Plan} (ht : p.tables = [t]) (command : Command) : primary p command = pure t := by
  rw [primary, Plan.primary?, ht]
  rfl

lemma fetchTables_singleton (bound : Option Bound) (t : Table) :
    fetchTables bound [] [t] = fetchRows t bound >>= fun rows => pure [(t.name, rows)] := rfl

lemma run_fetchTables_offline (ho : t.name ∈ s.offline) (bound : Option Bound) :
    (fetchTables bound [] [t]).run s = (.error (.store .offline), s.asked (.fetch t.name bound)) := by
  have hc : s.offline.contains t.name = true := List.contains_iff_mem.mpr ho
  rw [fetchTables_singleton, fetchRows, run_bind, run_bind, run_ofStore, Store.run_fetch, if_pos hc]
  rfl

lemma run_fetchTables_online (ho : t.name ∉ s.offline) (bound : Option Bound) :
    (fetchTables bound [] [t]).run s =
      (.ok [(t.name, s.tables.rowsOf bound t)], s.asked (.fetch t.name bound)) := by
  have hc : ¬ s.offline.contains t.name = true := fun hc => ho (List.contains_iff_mem.mp hc)
  rw [fetchTables_singleton, fetchRows, run_bind, run_bind, run_ofStore, Store.run_fetch, if_neg hc]
  rfl

lemma applyJoins_left {js : List Join} (hk : ∀ j ∈ js, j.kind = .left) {rows : List Row} {sets : RowSets}
    {s s' : Store} (h : (applyJoins t [(t.name, rows)] js).run s = (.ok sets, s')) :
    ∃ joined, sets = [(t.name, joined)] ∧ ∀ key, key ∈ joined.map Row.key ↔ key ∈ rows.map Row.key := by
  refine applyJoins_invariant (motive := fun _ joined => ∀ key, key ∈ joined.map Row.key ↔ key ∈ rows.map Row.key)
    [] (fun _ => .rfl) (fun _ _ _ _ _ hm => hm) (fun j hj _ joined others u _ _ hm key => ?_) h
  rw [Rows.join, hk j hj]
  exact Rows.mem_keys_left.trans (hm key)

end Query

namespace Plan

def shown [Source] (rs : Results) (p : Plan) (s : Store) (table : String) : List String :=
  match ((Select.rows rs p).run s).1 with
  | .ok sets => ((Dict.find? table sets).getD []).map Row.key
  | .error _ => []

variable [Source] {rs : Results} {p : Plan} {t : Table} {s s' : Store} (ht : p.tables = [t])

include ht

lemma shown_offline (ho : t.name ∈ s.offline) : p.shown rs s t.name = [] := by
  rw [shown, Select.rows, Query.primary_of_tables ht, pure_bind, ht,
    run_bind_of_error (Query.run_fetchTables_offline ho _)]

lemma shown_of_joins (ho : t.name ∉ s.offline) {rows : List Row}
    (hj : (Query.applyJoins t [(t.name, s.tables.rowsOf p.bound? t)] p.joins).run
      (s.asked (.fetch t.name p.bound?)) = (.ok [(t.name, rows)], s')) (hp : p.Plain) :
    p.shown rs s t.name = (Select.displayed rs p rows).map Row.key := by
  have hr : (Select.rows rs p).run s = (.ok (Select.shown rs p t [(t.name, rows)]), s') := by
    rw [Select.rows, Query.primary_of_tables ht, pure_bind, ht,
      run_bind_of_ok (Query.run_fetchTables_online ho _), run_bind_of_ok hj]
    rfl
  rw [shown, hr, Select.shown_plain hp]
  dsimp only
  rw [Dict.find?_mapValues, Dict.find?_cons, if_pos rfl, Option.map_some, Option.getD_some]

lemma shown_of_single (ho : t.name ∉ s.offline) (hj : p.joins = []) (hp : p.Plain) :
    p.shown rs s t.name = (Select.displayed rs p (s.tables.rowsOf p.bound? t)).map Row.key := by
  have hr : (Query.applyJoins t [(t.name, s.tables.rowsOf p.bound? t)] p.joins).run
      (s.asked (.fetch t.name p.bound?)) =
      (.ok [(t.name, s.tables.rowsOf p.bound? t)], s.asked (.fetch t.name p.bound?)) := by
    rw [hj]
    rfl
  exact shown_of_joins ht ho hr hp

lemma joins_of_run (hc : p.command = some .select) {v : Value} (h : (p.run rs).run s = (.ok v, s')) :
    t.name ∉ s.offline ∧ ∃ sets u, (Query.applyJoins t [(t.name, s.tables.rowsOf p.bound? t)] p.joins).run
      (s.asked (.fetch t.name p.bound?)) = (.ok sets, u) := by
  rw [run, hc] at h
  simp only [Select.run, Query.primary_of_tables ht, pure_bind, ht] at h
  obtain ⟨sets, u, hf, h⟩ := run_bind_eq_ok h
  by_cases ho : t.name ∈ s.offline
  · rw [Query.run_fetchTables_offline ho] at hf
    cases hf
  · rw [Query.run_fetchTables_online ho] at hf
    cases hf
    obtain ⟨joined, u, hj, _⟩ := run_bind_eq_ok h
    exact ⟨ho, joined, u, hj⟩

end Plan

end DocQuery
