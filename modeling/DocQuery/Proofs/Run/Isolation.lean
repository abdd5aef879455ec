import DocQuery.Proofs.Run.Matching
import DocQuery.Run

/-! Tables beside each other in a selection do not meet. The rows listed under a table come from that table alone, and
those under the primary table from it and the tables joined to it. -/

namespace DocQuery

namespace Tables

def joinAll (ts : Tables) (js : List Join) (rows : List Row) : List Row :=
  js.foldl (fun rows j => j.other.table.elim rows fun t => Rows.join j rows (ts.rowsOf none t)) rows

variable {ts ts' : Tables}

lemma rowsOf_congr {t : Table} (h : ts'.rows t.name = ts.rows t.name) (bound : Option Bound) :
    ts'.rowsOf bound t = ts.rowsOf bound t := by
  simp only [rowsOf, fetch, h]

lemma joinAll_congr {js : List Join} (h : ∀ j ∈ js, ∀ t ∈ j.other.table, ts'.rows t.name = ts.rows t.name)
    (rows : List Row) : ts'.joinAll js rows = ts.joinAll js rows := by
  induction js generalizing rows with
  | nil => rfl
  | cons j js ih =>
    obtain ⟨hj, hjs⟩ := List.forall_mem_cons.mp h
    rw [joinAll, joinAll, List.foldl_cons, List.foldl_cons]
    cases ht : j.other.table with
    | none => exact ih hjs rows
    | some t =>
      rw [Option.elim_some, Option.elim_some, rowsOf_congr (hj t ht)]
      exact ih hjs _

end Tables

lemma Query.applyJoins_run {primary : Table} {js : List Join} {sets sets' : RowSets} {rows : List Row} {s s' : Store}
    (h : (applyJoins primary sets js).run s = (.ok sets', s')) (hrows : Dict.find? primary.name sets = some rows) :
    Dict.find? primary.name sets' = some (s.tables.joinAll js rows) ∧
      ∀ name, name ≠ primary.name → Dict.find? name sets' = Dict.find? name sets := by
  induction js generalizing sets rows s with
  | nil =>
    cases h
    exact ⟨hrows, fun _ _ => rfl⟩
  | cons j js ih =>
    rw [applyJoins] at h
    rw [Tables.joinAll, List.foldl_cons, ← Tables.joinAll]
    split at h
    · next hn =>
      rw [hn, Option.elim_none]
      exact ih h hrows
    · next t ht =>
      obtain ⟨others, u, hf, h⟩ := run_bind_eq_ok h
      obtain ⟨rfl, hu⟩ := fetchRows_run hf
      dsimp only at h
      rw [hrows, Option.getD_some] at h
      obtain ⟨hp, hothers⟩ := ih h (Dict.find?_insert_self _ _ _)
      rw [hu] at hp
      rw [ht, Option.elim_some]
      exact ⟨hp, fun name hne => (hothers name hne).trans (Dict.find?_insert_of_ne hne _ _)⟩

namespace Plan

variable {rs : Results} {p : Plan} {s s' u u' : Store} {v v' : Value}

def isPrimary (p : Plan) (name : String) : Bool := p.primary?.any (·.name == name)

def sources (p : Plan) (name : String) : List String :=
  name :: if p.isPrimary name then p.joins.filterMap fun j => j.other.table.map (·.name) else []

def fetched (p : Plan) (ts : Tables) (t : Table) : List Row :=
  if p.isPrimary t.name then ts.joinAll p.joins (ts.rowsOf p.bound? t) else ts.rowsOf p.bound? t

def listing [Source] (rs : Results) (p : Plan) (ts : Tables) (t : Table) : Value :=
  let rows := Select.project rs p (p.fetched ts t)
  Select.finish rs p t.name (if p.distinct then Rows.distinct rows else rows)

lemma listing_congr [Source] {ts ts' : Tables} {t : Table}
    (h : ∀ name ∈ p.sources t.name, ts'.rows name = ts.rows name) :
    p.listing rs ts' t = p.listing rs ts t := by
  obtain ⟨ht, hjoined⟩ := List.forall_mem_cons.mp h
  have hfetched : p.fetched ts' t = p.fetched ts t := by
    rw [fetched, fetched, Tables.rowsOf_congr ht]
    split
    · next hp =>
      rw [if_pos hp] at hjoined
      refine Tables.joinAll_congr (fun j hj u hu => hjoined u.name ?_) _
      exact List.mem_filterMap.mpr ⟨j, hj, by rw [Option.mem_def.mp hu]; rfl⟩
    · rfl
  rw [listing, listing, hfetched]

lemma primary_eq_ok {command : Command} {primary : Table} (h : (Query.primary p command).run s = (.ok primary, s')) :
    p.primary? = some primary ∧ s' = s := by
  rw [Query.primary] at h
  split at h
  · next t ht =>
    cases h
    exact ⟨ht, rfl⟩
  · cases h

lemma find?_fetched {primary : Table} (hprimary : p.primary? = some primary) {fetched sets : RowSets}
    (hfetch : (Query.fetchTables p.bound? [] p.tables).run s = (.ok fetched, s'))
    (hjoins : (Query.applyJoins primary fetched p.joins).run s' = (.ok sets, u)) {t : Table}
    (ht : p.tables.find? (·.name == t.name) = some t) : Dict.find? t.name sets = some (p.fetched s.tables t) := by
  obtain ⟨htables, -, hfind⟩ := Query.fetchTables_run hfetch .nil
  have hlisted : p.tables.find? (·.name == primary.name) = some primary := by
    obtain ⟨tables, hcons⟩ := List.head?_eq_some_iff.mp hprimary
    rw [hcons, List.find?_cons_of_pos (by simp)]
  have hrows : Dict.find? primary.name fetched = some (s.tables.rowsOf p.bound? primary) := by
    rw [hfind, hlisted]
    rfl
  obtain ⟨hjoined, hothers⟩ := Query.applyJoins_run hjoins hrows
  rw [Plan.fetched, isPrimary, hprimary, Option.any_some]
  by_cases hname : t.name = primary.name
  · obtain rfl : t = primary := by
      rw [hname, hlisted] at ht
      exact (Option.some.inj ht).symm
    rw [hjoined, htables, if_pos (by simp)]
  · rw [hothers t.name hname, hfind, ht, if_neg (by simpa using Ne.symm hname)]
    rfl

lemma find?_run [Source] (hc : p.command = some .select) (hn : p.unions = []) (h : (p.run rs).run s = (.ok v, u))
    {t : Table} (ht : p.tables.find? (·.name == t.name) = some t) :
    ∃ out, v = .object out ∧ Dict.find? t.name out = some (p.listing rs s.tables t) := by
  simp only [run, hc, Select.run] at h
  obtain ⟨primary, w, hp, hrest⟩ := run_bind_eq_ok h
  obtain ⟨hprimary, rfl⟩ := primary_eq_ok hp
  obtain ⟨fetched, x, hfetch, hrest⟩ := run_bind_eq_ok hrest
  obtain ⟨sets, y, hjoins, hrest⟩ := run_bind_eq_ok hrest
  cases hrest
  have hfound := find?_fetched hprimary hfetch hjoins ht
  have hunited : Select.addUnions rs p primary (Dict.mapValues (Select.project rs p) sets) =
      Dict.mapValues (Select.project rs p) sets := by
    rw [Select.addUnions, hn]
    rfl
  refine ⟨_, rfl, ?_⟩
  rw [hunited, Dict.find?_map, Select.dropRepetitions, listing]
  split
  · rw [Dict.find?_mapValues, Dict.find?_mapValues, hfound]
    rfl
  · rw [Dict.find?_mapValues, hfound]
    rfl

theorem run_isolated [Source] (hc : p.command = some .select) (hn : p.unions = []) {t : Table} (ht : t ∈ p.tables)
    (hs : ∀ name ∈ p.sources t.name, s'.tables.rows name = s.tables.rows name)
    (h : (p.run rs).run s = (.ok v, u)) (h' : (p.run rs).run s' = (.ok v', u')) :
    ∃ out out' rows, v = .object out ∧ v' = .object out' ∧ Dict.find? t.name out = some (.array rows) ∧
      Dict.find? t.name out' = some (.array rows) := by
  obtain ⟨t₁, ht₁⟩ : ∃ t₁, p.tables.find? (·.name == t.name) = some t₁ :=
    Option.isSome_iff_exists.mp (List.find?_isSome.mpr ⟨t, ht, beq_self_eq_true _⟩)
  have hname : t₁.name = t.name := by simpa using List.find?_some ht₁
  rw [← hname] at ht₁ hs ⊢
  obtain ⟨out, hv, hout⟩ := find?_run hc hn h ht₁
  obtain ⟨out', hv', hout'⟩ := find?_run hc hn h' ht₁
  rw [listing_congr hs] at hout'
  exact ⟨out, out', _, hv, hv', hout, hout'⟩

def citizensAndOrders : Plan :=
  { Plan.empty with
    command := some .select
    columns := [.named "*"]
    distinct := true
    tables := [.named "users", .named "orders"]
    joins := [⟨.left, .ofTable (.named "users") "city", .ofTable (.named "cities") "id"⟩]
    limit := some ⟨1, none⟩ }

def townWith (orders : Dict (Dict Value)) : Store :=
  .ofTables (.ofObjects [("cities", [("c1", [("id", .string "rome")])]), ("orders", orders),
    ("users", [("u1", [("city", .string "rome")]), ("u2", [("city", .string "oslo")])])])

theorem run_isolated_citizens :
    (townWith [("o1", [("total", .int 7)])]).tables.rows "orders" ≠ (townWith []).tables.rows "orders" ∧
    ∃ v v' u u' out out' rows, (citizensAndOrders.run []).run (townWith []) = (.ok v, u) ∧
      (citizensAndOrders.run []).run (townWith [("o1", [("total", .int 7)])]) = (.ok v', u') ∧
      v = .object out ∧ v' = .object out' ∧ Dict.find? "users" out = some (.array rows) ∧
      Dict.find? "users" out' = some (.array rows) := by
  have hs : ∀ name ∈ citizensAndOrders.sources "users",
      (townWith [("o1", [("total", .int 7)])]).tables.rows name = (townWith []).tables.rows name := by
    have hsources : citizensAndOrders.sources "users" = ["users", "cities"] := rfl
    rw [hsources]
    exact List.forall_mem_cons.mpr ⟨rfl, List.forall_mem_singleton.mpr rfl⟩
  have ht : Table.named "users" ∈ citizensAndOrders.tables := List.mem_cons_self
  have h : (citizensAndOrders.run []).run (townWith []) = (.ok _, _) := rfl
  have h' : (citizensAndOrders.run []).run (townWith [("o1", [("total", .int 7)])]) = (.ok _, _) := rfl
  obtain ⟨out, out', rows, hv, hv', hout, hout'⟩ := run_isolated rfl rfl ht hs h h'
  exact ⟨List.cons_ne_nil _ _, _, _, _, _, out, out', rows, h, h', hv, hv', hout, hout'⟩

end Plan

end DocQuery
