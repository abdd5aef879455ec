import DocQuery.Proofs.Rows.Projecting
import DocQuery.Run.Select
import Mathlib.Data.List.Induction

namespace DocQuery

namespace Function

variable (name : String) (drawn drawn' : Option Int → Float)

lemma names_scalars : (scalars drawn).map (·.1) = (scalars drawn').map (·.1) := rfl

lemma isSome_scalar? : (scalar? name drawn).isSome = (scalar? name).isSome := by
  have hiff (x : Option Int → Float) : (scalar? name x).isSome = true ↔
      ∃ known ∈ (scalars x).map (·.1), (DocQuery.Text.upper name == known) = true := by
    rw [scalar?, List.lookup_isSome_iff]
    simp only [List.mem_map, exists_exists_and_eq_and]
  rw [Bool.eq_iff_iff, hiff, hiff, names_scalars drawn fun _ => 0]

end Function

namespace Call

def isScalar (c : Call) : Bool := c.aggregate?.isNone && (Function.scalar? c.function).isSome

def aggregateAll (calls : List Call) (rows : List Row) (base : Row) : Row := calls.foldl (aggregate rows) base

lemma find?_aggregateAll {calls : List Call} {c : Call} {a : Aggregate} (hc : c ∈ calls) (ha : c.aggregate? = some a)
    (hu : ∀ d ∈ calls, d.target = c.target → d = c) (rows : List Row) (base : Row) :
    Dict.find? c.target (aggregateAll calls rows base).content = some (a.apply c.ofAllRows (c.inputs rows)) := by
  induction calls using List.reverseRecOn with
  | nil => cases hc
  | append_singleton calls d ih =>
    rw [aggregateAll, List.foldl_append, List.foldl_cons, List.foldl_nil, ← aggregateAll]
    by_cases hd : d.target = c.target
    · obtain rfl := hu d (by simp) hd
      simp [aggregate, ha, Row.addField]
    · have hc' : c ∈ calls := by
        rcases List.mem_append.mp hc with hc | hc
        · exact hc
        · exact (hd (by rw [List.mem_singleton.mp hc])).elim
      have ih := ih hc' fun e he => hu e (List.mem_append_left _ he)
      rw [aggregate]
      split
      · simp only [Row.addField, Dict.find?_insert, if_neg (Ne.symm hd), ih]
      · exact ih

section Scalar

variable [Source]

lemma isSome_scalar? (c : Call) (r : Row) : (c.scalar? r).isSome = c.isScalar := by
  rw [scalar?, isScalar]
  cases c.aggregate? with
  | none => exact Function.isSome_scalar? _ _
  | some a => rfl

lemma scalar?_congr {r r' : Row} (hk : r'.key = r.key) (c : Call) : c.scalar? r' = c.scalar? r := by
  rw [scalar?, scalar?, hk]

lemma scalar?_eq_none {c : Call} (h : c.isScalar = false) (r : Row) : c.scalar? r = none := by
  rwa [← Option.not_isSome_iff_eq_none, isSome_scalar?, Bool.not_eq_true]

def scalarAll (calls : List Call) (r : Row) : Row := calls.foldl (fun r c => c.scalar r) r

lemma foldl_map_scalar (calls : List Call) (rows : List Row) :
    calls.foldl (fun rows c => rows.map c.scalar) rows = rows.map (scalarAll calls) := by
  induction calls generalizing rows with
  | nil => exact (List.map_id _).symm
  | cons c calls ih =>
    rw [List.foldl_cons, ih, List.map_map]
    rfl

lemma applyAll_scalars {calls : List Call} (h : calls.any (·.aggregate?.isSome) = false) (table : Table)
    (rows : List Row) : applyAll table calls rows = rows.map (scalarAll calls) := by
  rw [applyAll, h, foldl_map_scalar]
  rfl

lemma applyAll_aggregates {calls : List Call} (h : calls.any (·.aggregate?.isSome) = true) (table : Table)
    (rows : List Row) : applyAll table calls rows =
      [scalarAll calls (aggregateAll calls rows (rows.head?.getD (Row.ofValue table "" .null)))] := by
  rw [applyAll, h, foldl_map_scalar]
  rfl

@[simp] lemma scalar_table (c : Call) (r : Row) : (c.scalar r).table = r.table := by
  rw [scalar]
  split <;> rfl

@[simp] lemma scalar_key (c : Call) (r : Row) : (c.scalar r).key = r.key := by
  rw [scalar]
  split <;> rfl

@[simp] lemma scalar_joined (c : Call) (r : Row) : (c.scalar r).joined = r.joined := by
  rw [scalar]
  split <;> rfl

lemma find?_scalar (c : Call) (r : Row) (name : String) :
    Dict.find? name (c.scalar r).content =
      if name = c.target then ((c.scalar? r).map fun f => f (c.params.map (·.eval r))).or (Dict.find? name r.content)
      else Dict.find? name r.content := by
  rw [scalar]
  cases c.scalar? r with
  | none => simp
  | some f =>
    simp only [Row.addField, Dict.find?_insert]
    split <;> simp_all

@[simp] lemma scalarAll_table (calls : List Call) (r : Row) : (scalarAll calls r).table = r.table := by
  induction calls generalizing r with
  | nil => rfl
  | cons c calls ih => exact (ih _).trans (scalar_table c r)

@[simp] lemma scalarAll_key (calls : List Call) (r : Row) : (scalarAll calls r).key = r.key := by
  induction calls generalizing r with
  | nil => rfl
  | cons c calls ih => exact (ih _).trans (scalar_key c r)

@[simp] lemma scalarAll_joined (calls : List Call) (r : Row) : (scalarAll calls r).joined = r.joined := by
  induction calls generalizing r with
  | nil => rfl
  | cons c calls ih => exact (ih _).trans (scalar_joined c r)

lemma sorted_scalarAll (calls : List Call) {r : Row} (h : Dict.Sorted r.content) :
    Dict.Sorted (scalarAll calls r).content := by
  induction calls generalizing r with
  | nil => exact h
  | cons c calls ih =>
    refine ih ?_
    simp only [scalar]
    split
    · exact Dict.sorted_insert h _ _
    · exact h

lemma find?_scalarAll_of_no_target {calls : List Call} {name : String}
    (h : ∀ c ∈ calls, c.target = name → c.isScalar = false) (r : Row) :
    Dict.find? name (scalarAll calls r).content = Dict.find? name r.content := by
  induction calls generalizing r with
  | nil => rfl
  | cons c calls ih =>
    refine (ih (fun d hd => h d (List.mem_cons_of_mem _ hd)) _).trans ?_
    rw [find?_scalar]
    split
    · next hn => simp [scalar?_eq_none (h c List.mem_cons_self hn.symm)]
    · rfl

lemma find?_aggregated {calls : List Call} {c : Call} {a : Aggregate} (hc : c ∈ calls) (ha : c.aggregate? = some a)
    (hu : ∀ d ∈ calls, d.target = c.target → d = c) (rows : List Row) (base : Row) :
    Dict.find? c.target (scalarAll calls (aggregateAll calls rows base)).content =
      some (a.apply c.ofAllRows (c.inputs rows)) := by
  rw [find?_scalarAll_of_no_target, find?_aggregateAll hc ha hu]
  intro d hd ht
  rw [hu d hd ht, isScalar, ha]
  rfl

end Scalar

end Call

namespace Select

variable {p : Plan}

def drops (p : Plan) (name : String) : Bool :=
  if onlyCalls p then !(targets p).contains name else (helpers p).contains name

@[simp] lemma dropHelpers_table (r : Row) : (dropHelpers p r).table = r.table := by
  rw [dropHelpers]
  split
  · rfl
  · split <;> rfl

@[simp] lemma dropHelpers_key (r : Row) : (dropHelpers p r).key = r.key := by
  rw [dropHelpers]
  split
  · rfl
  · split <;> rfl

@[simp] lemma dropHelpers_joined (r : Row) : (dropHelpers p r).joined = r.joined := by
  rw [dropHelpers]
  split
  · rfl
  · split <;> rfl

lemma sorted_dropHelpers {r : Row} (h : Dict.Sorted r.content) : Dict.Sorted (dropHelpers p r).content := by
  have herase : ∀ (names : List String) (d : Dict Value), Dict.Sorted d →
      Dict.Sorted (names.foldl (fun content name => Dict.erase name content) d) := by
    intro names
    induction names with
    | nil => exact fun _ hd => hd
    | cons name names ih => exact fun d hd => ih _ (Dict.sorted_erase hd name)
  rw [dropHelpers]
  split
  · exact h.sublist List.filter_sublist
  · split
    · exact h
    · exact herase _ _ h

lemma find?_dropHelpers (r : Row) (name : String) :
    Dict.find? name (dropHelpers p r).content = if drops p name then none else Dict.find? name r.content := by
  rw [dropHelpers, drops]
  cases onlyCalls p with
  | true =>
    rw [if_pos rfl, if_pos rfl, withContent, Dict.find?_filter_keys _ fun k => (targets p).contains k]
    cases (targets p).contains name <;> rfl
  | false =>
    rw [if_neg Bool.false_ne_true, if_neg Bool.false_ne_true]
    split
    · next he => simp [List.isEmpty_iff.mp he]
    · rw [withContent, Dict.find?_foldl_erase fun k => k]
      simp

lemma drops_target {c : Call} (hc : c ∈ p.calls) : drops p c.target = false := by
  have hm : (targets p).contains c.target = true := List.contains_iff_mem.mpr (List.mem_map_of_mem hc)
  have hh : c.target ∉ helpers p := fun h => by simp_all [helpers]
  rw [drops]
  split <;> simp_all

lemma drops_shown {d : Column} (hd : d ∈ p.columns) (ht : d.temporary = false) : drops p d.label = false := by
  have ho : onlyCalls p = false := by
    rw [onlyCalls, Bool.and_eq_false_iff]
    exact .inr (List.all_eq_false.mpr ⟨d, hd, by simp [ht]⟩)
  have hs : d.label ∈ (p.columns.filter (!·.temporary)).map Column.label :=
    List.mem_map_of_mem (List.mem_filter.mpr ⟨hd, by simp [ht]⟩)
  have hh : d.label ∉ helpers p := fun h => by simp_all [helpers]
  simpa [drops, ho] using hh

def shape [Source] (p : Plan) (r : Row) : Row := dropHelpers p (Call.scalarAll p.calls (r.project p.columns))

lemma shape_eq_project [Source] (hc : p.calls = []) (ht : ∀ c ∈ p.columns, c.temporary = false) :
    shape p = (·.project p.columns) := by
  have hhelpers : helpers p = [] := by
    simp only [helpers, List.filter_eq_nil_iff, List.mem_map, List.mem_filter]
    rintro _ ⟨d, ⟨hd, hdt⟩, rfl⟩
    simp [ht d hd] at hdt
  funext r
  simp [shape, dropHelpers, onlyCalls, hc, hhelpers, Call.scalarAll]

lemma map_shape [Source] (p : Plan) (rows : List Row) :
    ((rows.map (·.project p.columns)).map (Call.scalarAll p.calls)).map (dropHelpers p) = rows.map (shape p) := by
  rw [List.map_map, List.map_map]
  rfl

lemma applyCalls_ungrouped [Source] (ha : p.calls.any (·.aggregate?.isSome) = false)
    (hg : p.calls = [] ∨ p.groupBy = []) (name : String) (rows : List Row) :
    (applyCalls p name (rows.map (·.project p.columns))).map (dropHelpers p) = rows.map (shape p) := by
  rw [← map_shape, applyCalls]
  split
  · next hc =>
    rw [List.isEmpty_iff.mp hc]
    exact congrArg _ (List.map_id _).symm
  · next hc =>
    have hg := hg.resolve_left fun h => hc (List.isEmpty_iff.mpr h)
    rw [Rows.partition, if_pos hg, List.flatMap_singleton, Call.applyAll_scalars ha]

def sources (p : Plan) : Query RowSets := do
  let primary ← Query.primary p .select
  let sets ← Query.fetchTables none [] p.tables
  Query.applyJoins primary sets p.joins

lemma run_sources [Source] {rs : Results} (hb : p.bound? = none) (hu : p.unions = []) (hd : p.distinct = false) :
    run rs p = do
      let sets ← sources p
      return .object (sets.map fun (name, rows) => (name, finish rs p name (project rs p rows))) := by
  have hout : ∀ primary sets, output rs p primary sets =
      .object (sets.map fun (name, rows) => (name, finish rs p name (project rs p rows))) := by
    intro primary sets
    simp [output, addUnions, hu, dropRepetitions, hd, Dict.mapValues, Function.comp_def]
  simp only [run, sources, hb, hout, bind_assoc]

end Select

end DocQuery
