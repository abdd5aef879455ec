import DocQuery.Proofs.Condition.Verdicts
import DocQuery.Proofs.Plan.Selecting
import DocQuery.Proofs.Rows.Combining
import DocQuery.Proofs.Run.Arranging
import DocQuery.Proofs.Run.Showing

/-! What a selection of columns and calls of functions shows of each row. The columns that the functions read are
added to the projection and taken away again; if none of them gets in the way of another column, each row has
what was asked for, by its own values. -/

namespace DocQuery

namespace Row

def results [Source] (r : Row) (calls : List Call) : List (String × Value) :=
  calls.filterMap fun c => (c.scalar? r).map fun f => (c.target, f (c.params.map (·.eval r)))

def listed [Source] (columns : List Column) (calls : List Call) (r : Row) : Row :=
  let content := Dict.ofList (r.entries columns ++ r.results calls)
  { r with content := content, fields := Dict.keys content }

lemma read_congr {r r' : Row} {c : Column} (ht : r'.table = r.table) (hk : r'.key = r.key)
    (h : ∀ name ∈ c.lookups c.name, Dict.find? name r'.content = Dict.find? name r.content) :
    r'.read c = r.read c := by
  have hfield : r'.field c.name = r.field c.name := by
    rw [field, field, h c.name List.mem_cons_self]
  have hqualified : c.tableName?.getD r.table.name ≠ r.table.name →
      Dict.find? (c.tableName?.getD r.table.name ++ "." ++ c.name) r'.content =
        Dict.find? (c.tableName?.getD r.table.name ++ "." ++ c.name) r.content := by
    intro hne
    apply h
    cases hc : c.tableName? <;> simp_all [Column.lookups]
  rw [read, read, hk, ht]
  split
  · rfl
  · dsimp only
    split
    · exact hfield
    · next hne => rw [hqualified hne, hfield]

end Row

namespace Call

def Apart (c d : Call) : Prop := ∀ q ∈ d.columns, c.target ∉ q.lookups q.name

lemma eval_scalar [Source] {c d : Call} (h : c.Apart d) {q : Param} (hq : q ∈ d.params) (r : Row) :
    q.eval (c.scalar r) = q.eval r := by
  cases q with
  | value v => rfl
  | column e =>
    have he : e ∈ d.columns := List.mem_filterMap.mpr ⟨_, hq, rfl⟩
    rw [Param.eval, Param.eval]
    split
    · rfl
    · refine Row.read_congr (scalar_table c r) (scalar_key c r) fun name hn => ?_
      rw [find?_scalar, if_neg]
      rintro rfl
      exact h e he hn

lemma find?_scalarAll [Source] {calls : List Call} (hp : calls.Pairwise Apart) {r r' : Row} (hk : r'.key = r.key)
    (he : ∀ c ∈ calls, ∀ q ∈ c.params, q.eval r' = q.eval r) (name : String) :
    Dict.find? name (scalarAll calls r').content =
      (Dict.find? name (r.results calls).reverse).or (Dict.find? name r'.content) := by
  induction calls generalizing r' with
  | nil => rfl
  | cons c calls ih =>
    obtain ⟨hc, hp⟩ := List.pairwise_cons.mp hp
    have hlater : ∀ d ∈ calls, ∀ q ∈ d.params, q.eval (c.scalar r') = q.eval r := fun d hd q hq =>
      (eval_scalar (hc d hd) hq r').trans (he d (List.mem_cons_of_mem _ hd) q hq)
    have hparams : c.params.map (·.eval r') = c.params.map (·.eval r) :=
      List.map_congr_left (he c List.mem_cons_self)
    refine (ih hp ((scalar_key c r').trans hk) hlater).trans ?_
    rw [find?_scalar, hparams, scalar?_congr hk]
    cases hf : c.scalar? r with
    | none => simp [Row.results, hf]
    | some f =>
      have hr : r.results (c :: calls) = (c.target, f (c.params.map (·.eval r))) :: r.results calls :=
        List.filterMap_cons_some (by rw [hf]; rfl)
      rw [hr, List.reverse_cons, Dict.find?_append, Dict.find?_cons, Dict.find?_nil, Option.or_assoc]
      congr 1
      split <;> rfl

lemma keys_results [Source] {calls : List Call} (hs : ∀ c ∈ calls, c.isScalar = true) (r : Row) :
    Dict.keys (r.results calls) = calls.map (·.target) := by
  induction calls with
  | nil => rfl
  | cons c calls ih =>
    obtain ⟨f, hf⟩ := Option.isSome_iff_exists.mp ((isSome_scalar? c r).trans (hs c List.mem_cons_self))
    have hr : r.results (c :: calls) = (c.target, f (c.params.map (·.eval r))) :: r.results calls :=
      List.filterMap_cons_some (by rw [hf]; rfl)
    rw [hr, List.map_cons, ← ih fun d hd => hs d (List.mem_cons_of_mem _ hd)]
    rfl

end Call

namespace Plan

def covered (p : Plan) : List String := p.tables.map (·.name) ++ p.joins.filterMap fun j => j.other.tableName?

/-- No column of the projection is shown as one that was asked for but that one, and each column that a function
reads is there under its own name, and no other where it is looked for. -/
structure Clear (p : Plan) : Prop where
  shown : ∀ d ∈ p.columns, d.temporary = false → ∀ e ∈ p.columns, e.label = d.label → e.Same d
  read : ∀ c ∈ p.calls, ∀ q ∈ c.columns, q.isAll = true ∨ q.isKey = true ∨
    (∀ name ∈ q.tableName?, name ∈ p.covered) ∧ q.Kept q.name p.columns p.columns

/-- A selection from one table, others joined to it by inner and left joins, that shows row after row. -/
structure Straight (p : Plan) (t : Table) : Prop where
  command : p.command = some .select
  tables : p.tables = [t]
  joins : ∀ j ∈ p.joins, j.kind = .inner ∨ j.kind = .left
  distinct : p.distinct = false
  unions : p.unions = []
  groupBy : p.groupBy = []
  orderBy : p.orderBy = []
  limit : p.limit = none

end Plan

namespace Select

structure Explicit (args : List Arg) : Prop where
  nonempty : requested args ≠ [] ∨ called args ≠ []
  columns : ∀ c ∈ requested args, c.isAll = false ∧ c.temporary = false
  calls : ∀ c ∈ called args, c.isScalar = true
  names : ((requested args).map Column.label ++ (called args).map (·.target)).Nodup

variable {p : Plan} {r : Row}

structure Lists (p : Plan) (columns : List Column) : Prop where
  requested : p.columns.filter (!·.temporary) = columns
  explicit : ∀ c ∈ p.columns, c.isAll = false
  nonempty : p.columns ≠ [] ∨ p.calls ≠ []
  scalars : ∀ c ∈ p.calls, c.isScalar = true
  names : (columns.map Column.label ++ p.calls.map (·.target)).Nodup
  apart : p.calls.Pairwise Call.Apart
  clear : p.Clear

namespace Lists

variable {columns : List Column} (h : Lists p columns)

include h

lemma mem_iff {d : Column} : d ∈ columns ↔ d ∈ p.columns ∧ d.temporary = false := by
  rw [← h.requested, List.mem_filter]
  simp

lemma any_aggregate : p.calls.any (·.aggregate?.isSome) = false := by
  rw [List.any_eq_false]
  intro c hc ha
  have hnone := (Bool.and_eq_true_iff.mp (h.scalars c hc)).1
  rw [Option.isNone_iff_eq_none.mp hnone] at ha
  cases ha

lemma find?_project {d : Column} (hd : d ∈ columns) :
    Dict.find? d.label (r.project p.columns).content = Dict.find? d.label (r.entries columns) := by
  obtain ⟨hdp, htemp⟩ := h.mem_iff.mp hd
  have hsame : ∀ e ∈ p.columns, e.label = d.label → e.Same d := h.clear.shown d hdp htemp
  have hkeys : (Dict.keys (r.entries columns)).Nodup :=
    (r.keys_entries_sublist columns).nodup (List.nodup_append.mp h.names).1
  have hproject := Row.find?_entries (r := r) hsame
  have hrequested := Row.find?_entries (r := r) fun e he => hsame e (h.mem_iff.mp he).1
  rw [Row.content_project (List.ne_nil_of_mem hdp) h.explicit, hproject, ← Dict.find?_ofList_of_nodup hkeys,
    hrequested]
  congr 2
  exact propext ⟨fun _ => ⟨d, hd, rfl⟩, fun _ => ⟨d, hdp, rfl⟩⟩

lemma drops_or_none {name : String} (hn : name ∉ columns.map Column.label) (ht : name ∉ targets p) :
    drops p name = true ∨ Dict.find? name (r.project p.columns).content = none := by
  rw [drops]
  cases ho : onlyCalls p with
  | true => simp [ht]
  | false =>
    rw [if_neg Bool.false_ne_true]
    by_cases hl : ∃ e ∈ p.columns, e.label = name
    · obtain ⟨e, he, rfl⟩ := hl
      left
      have htemp : e.temporary = true := by
        by_contra htemp
        exact hn (List.mem_map_of_mem (h.mem_iff.mpr ⟨he, by simpa using htemp⟩))
      rw [helpers, h.requested, List.contains_iff_mem, List.mem_filter]
      refine ⟨List.mem_map_of_mem (List.mem_filter.mpr ⟨he, htemp⟩), ?_⟩
      simpa using ⟨by simpa using hn, ht⟩
    · right
      have hp : p.columns ≠ [] := by
        intro hp
        have := h.nonempty
        simp_all [onlyCalls]
      rw [Row.content_project hp h.explicit, Row.find?_entries (c := .rowKey) fun e he hel => (hl ⟨e, he, hel⟩).elim,
        if_neg fun h => hl h.2]

section OfRow

variable {t : Table} (hr : r.Of t p.covered)

include hr

lemma eval_project {c : Call} (hc : c ∈ p.calls) {q : Param} (hq : q ∈ c.params) :
    q.eval (r.project p.columns) = q.eval r := by
  cases q with
  | value v => rfl
  | column d =>
    rw [Param.eval, Param.eval]
    split
    · rfl
    · next ha =>
      apply read_project h.explicit
      rcases h.clear.read c hc d (List.mem_filterMap.mpr ⟨_, hq, rfl⟩) with hd | hd | ⟨ht, hk⟩
      · exact (ha hd).elim
      · exact .inl hd
      · refine .inr (.inr ⟨?_, hk⟩)
        rw [Row.coversColumn]
        cases hd : d.tableName? with
        | none => rfl
        | some name => exact hr.covers name (ht name hd)

lemma content_shape [Source] : (shape p r).content = (r.listed columns p.calls).content := by
  obtain ⟨-, htargets, hdisjoint⟩ := List.nodup_append.mp h.names
  have hkeys : Dict.keys (r.results p.calls) = targets p := Call.keys_results h.scalars r
  have hresults : (Dict.keys (r.results p.calls)).Nodup := hkeys ▸ htargets
  have hall : (Dict.keys (r.entries columns ++ r.results p.calls)).Nodup := by
    have hsub := (r.keys_entries_sublist columns).append (List.Sublist.refl (targets p))
    rw [Dict.keys, List.map_append, ← Dict.keys, ← Dict.keys, hkeys]
    exact hsub.nodup h.names
  have hlisted : ∀ name, Dict.find? name (r.listed columns p.calls).content =
      (Dict.find? name (r.entries columns)).or (Dict.find? name (r.results p.calls)) := by
    intro name
    rw [← Dict.find?_append]
    exact Dict.find?_ofList_of_nodup hall name
  have hparams : ∀ c ∈ p.calls, ∀ q ∈ c.params, q.eval (r.project p.columns) = q.eval r :=
    fun c hc q hq => h.eval_project hr hc hq
  have hsorted : Dict.Sorted (shape p r).content :=
    sorted_dropHelpers (Call.sorted_scalarAll _ (Row.sorted_project h.explicit hr.sorted))
  refine Dict.ext_of_sorted hsorted (Dict.sorted_ofList _) fun name => ?_
  rw [hlisted, shape, find?_dropHelpers, Call.find?_scalarAll h.apart (r.project_key _) hparams,
    Dict.find?_reverse hresults]
  by_cases ht : name ∈ targets p
  · -- the result of a call stays, and no column is shown as it
    obtain ⟨c, hc, rfl⟩ := List.mem_map.mp ht
    have hnone : Dict.find? c.target (r.entries columns) = none := by
      refine Dict.find?_eq_none_iff.mpr fun hm => ?_
      exact hdisjoint _ ((r.keys_entries_sublist columns).subset hm) _ ht rfl
    have hsome : Dict.contains c.target (r.results p.calls) = true := Dict.contains_iff.mpr (hkeys ▸ ht)
    obtain ⟨v, hv⟩ := Option.isSome_iff_exists.mp hsome
    rw [drops_target hc, hnone, hv]
    rfl
  · have hnone : Dict.find? name (r.results p.calls) = none := by
      rwa [Dict.find?_eq_none_iff, hkeys]
    rw [hnone, Option.none_or, Option.or_none]
    by_cases hn : name ∈ columns.map Column.label
    · obtain ⟨d, hd, rfl⟩ := List.mem_map.mp hn
      obtain ⟨hdp, htemp⟩ := h.mem_iff.mp hd
      rw [drops_shown hdp htemp, h.find?_project hd]
      rfl
    · have hno : Dict.find? name (r.entries columns) = none :=
        Dict.find?_eq_none_iff.mpr fun hm => hn ((r.keys_entries_sublist columns).subset hm)
      rw [hno]
      rcases h.drops_or_none (r := r) hn ht with hd | hd <;> simp [hd]

lemma test_shape [Source] (rs : Results) (cs : Conditions) :
    cs.test rs (shape p r) = cs.test rs (r.listed columns p.calls) := by
  have hcovers : (shape p r).covers = (r.listed columns p.calls).covers :=
    funext fun name => by simp [Row.covers, shape, Row.listed]
  apply Conditions.test_congr
  · intro c
    rw [Row.coversColumn, Row.coversColumn, hcovers]
  · intro c
    refine Row.read_congr (by simp [shape, Row.listed]) (by simp [shape, Row.listed]) fun name _ => ?_
    rw [h.content_shape hr]

end OfRow

lemma shown_eq [Source] {t : Table} {rows : List Row} (hr : ∀ r ∈ rows, r.Of t p.covered) (rs : Results) :
    ((rows.map (shape p)).filter (p.having.test rs)).map Row.toValue =
      ((rows.map (Row.listed columns p.calls)).filter (p.having.test rs)).map Row.toValue := by
  have hfilter : rows.filter (p.having.test rs ∘ shape p) =
      rows.filter (p.having.test rs ∘ Row.listed columns p.calls) :=
    List.filter_congr fun r hm => h.test_shape (hr r hm) rs p.having
  rw [List.filter_map, List.filter_map, List.map_map, List.map_map, hfilter]
  apply List.map_congr_left
  intro r hm
  exact congrArg Value.object (h.content_shape (hr r (List.mem_filter.mp hm).1))

end Lists

lemma run_straight [Source] {t : Table} (hp : p.Straight t) (ha : p.calls.any (·.aggregate?.isSome) = false)
    (rs : Results) :
    p.run rs = do
      let sets ← sources p
      return .object (sets.map fun (name, rows) =>
        (name, .array ((((rows.filter (p.conditions.test rs)).map (shape p)).filter (p.having.test rs)).map
          Row.toValue))) := by
  have hb : p.bound? = none := by
    rw [Plan.bound?, hp.limit]
    split <;> rfl
  have hfinish : ∀ name rows, finish rs p name (project rs p rows) = .array
      ((((rows.filter (p.conditions.test rs)).map (shape p)).filter (p.having.test rs)).map Row.toValue) := by
    intro name rows
    rw [finish, project, applyCalls_ungrouped ha (.inr hp.groupBy), arrange,
      Conditions.filter_unless_isEmpty, hp.groupBy, hp.orderBy, hp.limit, Rows.group, if_pos rfl, Rows.order_nil]
    rfl
  have hrun : p.run rs = run rs p := by rw [Plan.run, hp.command]
  simp only [hrun, run_sources hb hp.unions hp.distinct, hfinish]

lemma sources_of {t : Table} (hp : p.Straight t) {s s' : Store} (hts : s.tables.Canonical) {sets : RowSets}
    (h : (sources p).run s = (.ok sets, s')) : ∃ rows, sets = [(t.name, rows)] ∧ ∀ r ∈ rows, r.Of t p.covered := by
  rw [sources, Query.primary_of_tables hp.tables, pure_bind, hp.tables] at h
  obtain ⟨fetched, u, hf, h⟩ := run_bind_eq_ok h
  by_cases ho : t.name ∈ s.offline
  · rw [Query.run_fetchTables_offline ho] at hf
    cases hf
  · rw [Query.run_fetchTables_online ho] at hf
    cases hf
    have hr := Query.applyJoins_of hp.joins (fun r hr => hts.of_mem_rowsOf hr) h
    rwa [Plan.covered, hp.tables]

def columnsOf (args : List Arg) (t : Table) : List Column := (requested args).map (·.inTable (some t))

def callsOf (args : List Arg) (t : Table) : List Call := (called args).map (·.inTable (some t))

section Scheme

variable {made : Results} {before after : Scheme} {args : List Arg} {t : Table}
  (hp : Plan.ofScheme made (before ++ ⟨.select, args⟩ :: after) = .ok p)
  (hone : ∀ o ∈ before ++ after, o.keyword ≠ .select ∧ o.keyword ≠ .delete)

include hp hone

lemma calls_of_scheme (ht : p.tables = [t]) : p.calls = callsOf args t := by
  rw [(Plan.ofScheme_select hp hone).2, Plan.primary?, ht]
  rfl

lemma requested_of_scheme (ht : p.tables = [t]) (hargs : Explicit args) :
    p.columns.filter (!·.temporary) = columnsOf args t := by
  have hshown := Plan.withInputs_shown (fun c hc => (hargs.columns c hc).2) ((called args).flatMap Call.columns)
  rw [(Plan.ofScheme_select hp hone).1, List.filter_map]
  simp only [Function.comp_def, Column.inTable_temporary, hshown]
  rw [Plan.primary?, ht]
  rfl

lemma explicit_of_scheme (hall : ∀ c ∈ requested args, c.isAll = false) : ∀ c ∈ p.columns, c.isAll = false := by
  rw [(Plan.ofScheme_select hp hone).1]
  intro c hc
  obtain ⟨d, hd, rfl⟩ := List.mem_map.mp hc
  rw [Column.inTable_isAll]
  exact Plan.withInputs_explicit hall _ d hd

lemma lists_of_scheme (ht : p.tables = [t]) (hargs : Explicit args) (hapart : p.calls.Pairwise Call.Apart)
    (hclear : p.Clear) : Lists p (columnsOf args t) := by
  have hcalls := calls_of_scheme hp hone ht
  have hrequested := requested_of_scheme hp hone ht hargs
  have hlabels : (columnsOf args t).map Column.label = (requested args).map Column.label := by
    rw [columnsOf, List.map_map]
    exact List.map_congr_left fun c _ => c.inTable_label (some t)
  have htargets : (callsOf args t).map (·.target) = (called args).map (·.target) := List.map_map
  refine ⟨hrequested, explicit_of_scheme hp hone fun c hc => (hargs.columns c hc).1, ?_, ?_, ?_, hapart, hclear⟩
  · rcases hargs.nonempty with h | h
    · left
      intro hnil
      rw [hnil, List.filter_nil] at hrequested
      exact h (List.map_eq_nil_iff.mp hrequested.symm)
    · exact .inr fun hnil => h (List.map_eq_nil_iff.mp (hcalls ▸ hnil))
  · rw [hcalls]
    intro c hc
    obtain ⟨d, hd, rfl⟩ := List.mem_map.mp hc
    exact hargs.calls d hd
  · rw [hcalls, hlabels, htargets]
    exact hargs.names

end Scheme

theorem run_listed [Source] {made : Results} {before after : Scheme} {args : List Arg} {t : Table} {s : Store}
    (hp : Plan.ofScheme made (before ++ ⟨.select, args⟩ :: after) = .ok p)
    (hone : ∀ o ∈ before ++ after, o.keyword ≠ .select ∧ o.keyword ≠ .delete) (hargs : Explicit args)
    (hplan : p.Straight t) (hapart : p.calls.Pairwise Call.Apart) (hclear : p.Clear)
    (hts : s.tables.Canonical) (rs : Results) :
    (∀ e s', (sources p).run s = (.error e, s') → (p.run rs).run s = (.error e, s')) ∧
    ∀ sets s', (sources p).run s = (.ok sets, s') → ∃ rows, sets = [(t.name, rows)] ∧
      (p.run rs).run s = (.ok (.object [(t.name, .array ((((rows.filter (p.conditions.test rs)).map
        (Row.listed (columnsOf args t) (callsOf args t))).filter (p.having.test rs)).map Row.toValue))]), s') := by
  have hlists := lists_of_scheme hp hone hplan.tables hargs hapart hclear
  rw [run_straight hplan hlists.any_aggregate]
  constructor
  · intro e s' h
    exact run_bind_of_error h _
  · intro sets s' h
    obtain ⟨rows, rfl, hrows⟩ := sources_of hplan hts h
    have hshown := hlists.shown_eq
      (fun r hr => hrows r (List.mem_filter (p := p.conditions.test rs).mp hr).1) rs
    rw [calls_of_scheme hp hone hplan.tables] at hshown
    refine ⟨rows, rfl, (run_bind_of_ok h _).trans ?_⟩
    exact congrArg (fun values => (Except.ok (Value.object [(t.name, .array values)]), s')) hshown

def purchaseList (alias? : Option String) : List Arg :=
  [.column ⟨some (.named "users"), "name", alias?, false⟩,
    .function ⟨"UPPER", "bought", [.column (.ofTable (.named "orders") "name")]⟩]

def purchases (alias? : Option String) : Scheme :=
  [⟨.select, purchaseList alias?⟩, ⟨.fromTables, [.value (.string "users")]⟩,
    ⟨.join, [.value (.string "orders.buyer")]⟩, ⟨.onColumn, [.value (.string "users.id")]⟩]

def purchasePlan (alias? : Option String) : Plan :=
  { Plan.empty with
    command := some .select
    columns := [⟨some (.named "users"), "name", alias?, false⟩, ⟨some (.named "orders"), "name", none, true⟩]
    calls := [⟨"UPPER", "bought", [.column (.ofTable (.named "orders") "name")]⟩]
    tables := [.named "users"]
    joins := [⟨.inner, .ofTable (.named "users") "id", .ofTable (.named "orders") "buyer"⟩] }

lemma purchasePlan_straight (alias? : Option String) : (purchasePlan alias?).Straight (.named "users") where
  command := rfl
  tables := rfl
  joins := List.forall_mem_singleton.mpr (.inl rfl)
  distinct := rfl
  unions := rfl
  groupBy := rfl
  orderBy := rfl
  limit := rfl

def shop : Store :=
  .ofTables (.ofObjects [("orders", [("o1", [("buyer", .string "ann"), ("name", .string "Mug")])]),
    ("users", [("u1", [("id", .string "ann"), ("name", .string "Ann")])])])

lemma shop_canonical : shop.tables.Canonical := Tables.canonical_ofObjects (by decide +kernel)

def purchase (name shown : String) : Value := .object [("bought", .string "MUG"), (name, .string shown)]

theorem run_listed_purchase :
    Plan.ofScheme [] (purchases (some "who")) = .ok (purchasePlan (some "who")) ∧
    (∀ o ∈ [] ++ (purchases (some "who")).tail, o.keyword ≠ .select ∧ o.keyword ≠ .delete) ∧
    Explicit (purchaseList (some "who")) ∧ (purchasePlan (some "who")).Straight (.named "users") ∧
    (purchasePlan (some "who")).calls.Pairwise Call.Apart ∧ (purchasePlan (some "who")).Clear ∧
    shop.tables.Canonical ∧
    (((purchasePlan (some "who")).run []).run shop).1 =
      .ok (.object [("users", .array [purchase "who" "Ann"])]) := by
  have hp : Plan.ofScheme [] (purchases (some "who")) = .ok (purchasePlan (some "who")) := rfl
  have hone : ∀ o ∈ [] ++ (purchases (some "who")).tail, o.keyword ≠ .select ∧ o.keyword ≠ .delete := by decide
  have hargs : Explicit (purchaseList (some "who")) := ⟨.inl (by decide), by decide, by decide, by decide⟩
  have hclear : (purchasePlan (some "who")).Clear := ⟨by decide, by decide⟩
  have hapart : (purchasePlan (some "who")).calls.Pairwise Call.Apart := List.pairwise_singleton _ _
  refine ⟨hp, hone, hargs, purchasePlan_straight _, hapart, hclear, shop_canonical, ?_⟩
  obtain ⟨rows, hrows, hrun⟩ :=
    (run_listed hp hone hargs (purchasePlan_straight _) hapart hclear shop_canonical []).2 _ _ rfl
  cases hrows
  rw [hrun]
  rfl

/-- The name of the mug, which a function reads, is shown as that of the user. -/
theorem run_not_listed :
    Plan.ofScheme [] (purchases none) = .ok (purchasePlan none) ∧ Explicit (purchaseList none) ∧
    (purchasePlan none).Straight (.named "users") ∧ (purchasePlan none).calls.Pairwise Call.Apart ∧
    shop.tables.Canonical ∧
    ∃ rows s', (sources (purchasePlan none)).run shop = (.ok [("users", rows)], s') ∧
      ((purchasePlan none).run []).run shop = (.ok (.object [("users", .array [purchase "name" "Mug"])]), s') ∧
      (rows.map (Row.listed (columnsOf (purchaseList none) (.named "users"))
        (callsOf (purchaseList none) (.named "users")))).map Row.toValue = [purchase "name" "Ann"] := by
  refine ⟨rfl, ⟨.inl (by decide), by decide, by decide, by decide⟩, purchasePlan_straight _,
    List.pairwise_singleton _ _, shop_canonical, _, _, rfl, ?_, rfl⟩
  rw [run_straight (purchasePlan_straight none) (by decide)]
  rfl

end Select

end DocQuery
