import DocQuery.Plan.Builder
import DocQuery.Proofs.Rows.Classes
import DocQuery.Proofs.Run.Calling
import DocQuery.Run

/-! Grouping and ordering of a selection. They see the rows that the projection leaves; if it leaves the columns
they go by, they come to the same on the rows that were fetched. -/

namespace DocQuery

namespace Rows

def sourceKey (keys : List SortKey) (r : Row) : List Value := keys.map fun k => r.read k.column

def sourceCompare : List SortKey → Row → Row → Ordering
  | [], _, _ => .eq
  | k :: keys, a, b =>
    (k.direction.apply ((a.read k.column).order (b.read k.column))).then (sourceCompare keys a b)

def grouped (keys : List SortKey) (rows : List Row) : List (List Row) := classes (alike (sourceKey keys)) rows

def sorted (keys : List SortKey) (rows : List Row) : List Row :=
  rows.mergeSort fun a b => (sourceCompare keys a b).isLE

lemma alike_sourceKey_iff {keys : List SortKey} (a b : Row) : alike (sourceKey keys) a b = true ↔
    (sourceKey keys a).map Value.leveled = (sourceKey keys b).map Value.leveled :=
  alike_iff

variable {f : Row → Row} {rows : List Row} {keys : List SortKey}

lemma groupKey_eq {r : Row} (h : ∀ k ∈ keys, sortValue (f r) k.column = r.read k.column) :
    groupKey keys (f r) = sourceKey keys r :=
  List.map_congr_left h

lemma classes_groupKey (h : ∀ r ∈ rows, ∀ k ∈ keys, sortValue (f r) k.column = r.read k.column) :
    classes (alike (groupKey keys)) (rows.map f) = (grouped keys rows).map (·.map f) := by
  apply classes_map
  intro a ha b hb
  rw [alike, alike, groupKey_eq (h a ha), groupKey_eq (h b hb)]

lemma compare_eq {a b : Row} (ha : ∀ k ∈ keys, sortValue (f a) k.column = a.read k.column)
    (hb : ∀ k ∈ keys, sortValue (f b) k.column = b.read k.column) :
    compare keys (f a) (f b) = sourceCompare keys a b := by
  induction keys with
  | nil => rfl
  | cons k keys ih =>
    simp only [List.forall_mem_cons] at ha hb
    rw [compare, sourceCompare, ha.1, hb.1, ih ha.2 hb.2]

lemma order_map (h : ∀ r ∈ rows, ∀ k ∈ keys, sortValue (f r) k.column = r.read k.column) :
    order keys (rows.map f) = (sorted keys rows).map f := by
  refine (List.map_mergeSort fun a ha b hb => ?_).symm
  rw [compare_eq (h a ha) (h b hb)]

end Rows

namespace Plan

/-- Whether what is left of a row by the projection still tells the value of a column: it is the key, or nothing
is left out and the table has the column itself, or it is kept. -/
def Reads (p : Plan) (r : Row) (c : Column) (label : String) : Prop :=
  c.isKey = true ∨ (p.columns = [] ∧ label = c.name ∧ c.tableName?.getD r.table.name = r.table.name) ∨
    r.coversColumn c = true ∧ c.Kept label p.columns p.columns

/-- Whether a row as it is shown still tells the value of a column: it is the key, or one of the columns asked
for keeps it and no function gives its result a name under which it is looked for. -/
def Shows (p : Plan) (r : Row) (c : Column) : Prop :=
  c.isKey = true ∨ r.coversColumn c = true ∧ c.Kept c.label (p.columns.filter (!·.temporary)) p.columns ∧
    ∀ d ∈ p.calls, d.target ∉ c.lookups c.label

def Takes (p : Plan) (r : Row) : Param → Prop
  | .column c => c.isAll = true ∨ p.Reads r c c.name
  | .value _ => True

variable {p : Plan} {r : Row} {c : Column} {label : String}

instance : Decidable (p.Reads r c label) := inferInstanceAs (Decidable (_ ∨ _))

instance : Decidable (p.Shows r c) := inferInstanceAs (Decidable (_ ∨ _))

lemma Shows.reads (h : p.Shows r c) : p.Reads r c c.label := by
  rcases h with h | ⟨hc, ⟨⟨d, hd, hs⟩, ha⟩, -⟩
  · exact .inl h
  · exact .inr (.inr ⟨hc, ⟨d, (List.mem_filter.mp hd).1, hs⟩, ha⟩)

end Plan

namespace Select

open Rows

variable {p : Plan}

section Values

variable {r : Row} {c : Column} (hall : ∀ c ∈ p.columns, c.isAll = false)

include hall

lemma read_project (h : p.Reads r c c.name) : (r.project p.columns).read c = r.read c := by
  cases hk : c.isKey with
  | true => simp [Row.read, hk]
  | false =>
    rcases h with h | ⟨h, -⟩ | ⟨hc, h⟩
    · simp [hk] at h
    · rw [Row.project, if_pos h]
    · exact (Row.bears_project hall hc h fun d hd => hd).read_eq hk

lemma sortValue_project (h : p.Reads r c c.label) : sortValue (r.project p.columns) c = r.read c := by
  cases hk : c.isKey with
  | true => simp [sortValue, Row.read, hk]
  | false =>
    rcases h with h | ⟨h, hl, ht⟩ | ⟨hc, h⟩
    · simp [hk] at h
    · have hr : r.read c = r.field c.name := by simp [Row.read, hk, ht]
      rw [Row.project, if_pos h, sortValue, hl, hr]
      split <;> simp_all
    · exact (Row.bears_project hall hc h fun d hd => hd).sortValue_eq hk

lemma sortValue_shape [Source] (h : p.Shows r c) : sortValue (shape p r) c = r.read c := by
  cases hk : c.isKey with
  | true => simp [sortValue, Row.read, hk, shape]
  | false =>
    rcases h with h | ⟨hc, h, ht⟩
    · simp [hk] at h
    · have hfind : ∀ name ∈ c.lookups c.label, Dict.find? name (shape p r).content =
          if drops p name then none else Dict.find? name (r.project p.columns).content := by
        intro name hn
        rw [shape, find?_dropHelpers, Call.find?_scalarAll_of_no_target]
        rintro d hd rfl
        exact (ht d hd hn).elim
      obtain ⟨d, hd, -, hl⟩ := h.shown
      obtain ⟨hd, htemp⟩ := List.mem_filter.mp hd
      have hm : d.label ∈ c.lookups c.label := by
        rcases hl with hl | hl <;> simp [Column.lookups, hl]
      have hb := Row.bears_project hall hc h fun d hd => (List.mem_filter.mp hd).1
      refine (hb.mono hl ?_ ?_).sortValue_eq hk
      · rw [hfind _ hm, drops_shown hd (by simpa using htemp), Row.find?_project_kept hall hc h hd hl]
        rfl
      · intro name hn w hw
        rw [hfind name hn] at hw
        split at hw
        · cases hw
        · exact hw

end Values

def groupRow [Source] (p : Plan) (g : List Row) : Row :=
  let rows := g.map (·.project p.columns)
  dropHelpers p (Call.scalarAll p.calls
    (Call.aggregateAll p.calls rows (rows.head?.getD (Row.ofValue (.named "") "" .null))))

def laidOut [Source] (p : Plan) (name : String) (rows : List Row) : List Row :=
  order p.orderBy (group p.groupBy ((applyCalls p name (rows.map (·.project p.columns))).map (dropHelpers p)))

section Layout

variable {rows : List Row} (hall : ∀ c ∈ p.columns, c.isAll = false)

include hall

lemma map_applyCalls [Source] (name : String) (ha : p.calls.any (·.aggregate?.isSome) = false)
    (hk : ∀ r ∈ rows, ∀ k ∈ p.groupBy, p.Reads r k.column k.column.label) :
    ∃ rows', (∀ r ∈ rows', r ∈ rows) ∧ grouped p.groupBy rows' = grouped p.groupBy rows ∧
      (applyCalls p name (rows.map (·.project p.columns))).map (dropHelpers p) = rows'.map (shape p) := by
  by_cases hu : p.calls = [] ∨ p.groupBy = []
  · exact ⟨rows, fun _ hr => hr, rfl, applyCalls_ungrouped ha hu name rows⟩
  · obtain ⟨hc, hg⟩ := not_or.mp hu
    refine ⟨(grouped p.groupBy rows).flatten, ?_, classes_flatten_classes alike_sourceKey_iff rows, ?_⟩
    · exact fun r hr => (flatten_classes_perm alike_sourceKey_iff rows).mem_iff.mp hr
    · have hcalls : ∀ table, Call.applyAll table p.calls = fun rows => rows.map (Call.scalarAll p.calls) :=
        fun table => funext fun rows => Call.applyAll_scalars ha table rows
      rw [applyCalls, if_neg (mt List.isEmpty_iff.mp hc)]
      dsimp only
      rw [partition_eq_classes hg, classes_groupKey fun r hr k hk' => sortValue_project hall (hk r hr k hk'),
        hcalls, ← map_shape, List.map_flatten, List.map_flatten, List.flatMap_def]

lemma laidOut_scalars [Source] (name : String) (ha : p.calls.any (·.aggregate?.isSome) = false)
    (hk : ∀ r ∈ rows, ∀ k ∈ p.groupBy ++ p.orderBy, p.Shows r k.column) :
    laidOut p name rows = (sorted p.orderBy (grouped p.groupBy rows).flatten).map (shape p) := by
  have hvalue : ∀ r ∈ rows, ∀ k ∈ p.groupBy ++ p.orderBy, sortValue (shape p r) k.column = r.read k.column :=
    fun r hr k hk' => sortValue_shape hall (hk r hr k hk')
  obtain ⟨rows', hsub, hgrouped, hcalls⟩ := map_applyCalls hall name ha fun r hr k hk' =>
    (hk r hr k (List.mem_append_left _ hk')).reads
  have hgroup : group p.groupBy (rows'.map (shape p)) = (grouped p.groupBy rows).flatten.map (shape p) := by
    rw [group_eq_flatten, classes_groupKey fun r hr k hk' => hvalue r (hsub r hr) k (List.mem_append_left _ hk'),
      hgrouped, List.map_flatten]
  rw [laidOut, hcalls, hgroup]
  apply order_map
  intro r hr k hk'
  have hr := (flatten_classes_perm alike_sourceKey_iff rows).mem_iff.mp hr
  exact hvalue r hr k (List.mem_append_right _ hk')

lemma laidOut_aggregates [Source] (name : String) (hg : p.groupBy ≠ []) (ha : p.calls.any (·.aggregate?.isSome) = true)
    (hk : ∀ r ∈ rows, ∀ k ∈ p.groupBy, p.Reads r k.column k.column.label) :
    (laidOut p name rows).Perm ((grouped p.groupBy rows).map (groupRow p)) := by
  have hc : ¬ p.calls.isEmpty = true := by
    intro hc
    simp [List.isEmpty_iff.mp hc] at ha
  have hrow : ∀ table, ∀ g ∈ grouped p.groupBy rows,
      (Call.applyAll table p.calls (g.map (·.project p.columns))).map (dropHelpers p) = [groupRow p g] := by
    intro table g hgm
    have hne := (classes_separated alike_sourceKey_iff rows).nonempty g hgm
    rw [Call.applyAll_aggregates ha, groupRow]
    cases g with
    | nil => exact (hne rfl).elim
    | cons r g => rfl
  have hcalls : (applyCalls p name (rows.map (·.project p.columns))).map (dropHelpers p) =
      (grouped p.groupBy rows).map (groupRow p) := by
    rw [applyCalls, if_neg hc, partition_eq_classes hg,
      classes_groupKey fun r hr k hk' => sortValue_project hall (hk r hr k hk')]
    dsimp only
    rw [List.flatMap_map, List.map_flatMap]
    exact (List.flatMap_congr (hrow _)).trans List.map_eq_flatMap.symm
  rw [laidOut, hcalls]
  exact (List.mergeSort_perm _ _).trans (group_perm _ _)

lemma inputs_project {c : Call} {g : List Row} (h : ∀ r ∈ g, ∀ q ∈ c.params.head?, p.Takes r q) :
    c.inputs (g.map (·.project p.columns)) = c.inputs g := by
  rw [Call.inputs, Call.inputs]
  cases hp : c.params with
  | nil => exact List.map_map
  | cons q params =>
    refine List.map_map.trans (List.map_congr_left fun r hr => ?_)
    have hq := h r hr q (by simp [hp])
    cases q with
    | value v => rfl
    | column d =>
      rw [Function.comp_apply, Param.eval, Param.eval]
      cases hd : d.isAll with
      | true => rfl
      | false => exact read_project hall (hq.resolve_left (by simp [hd]))

lemma field_groupRow [Source] {c : Call} {a : Aggregate} (hc : c ∈ p.calls) (ha : c.aggregate? = some a)
    (hu : ∀ d ∈ p.calls, d.target = c.target → d = c) {g : List Row}
    (h : ∀ r ∈ g, ∀ q ∈ c.params.head?, p.Takes r q) :
    (groupRow p g).field c.target = a.apply c.ofAllRows (c.inputs g) := by
  rw [Row.field, groupRow, find?_dropHelpers, drops_target hc, Call.find?_aggregated hc ha hu, inputs_project hall h]
  rfl

end Layout

lemma run_laidOut [Source] {rs : Results} (hu : p.unions = []) (hd : p.distinct = false) (hh : p.having.isEmpty = true)
    (hk : p.groupBy ≠ [] ∨ p.orderBy ≠ []) : run rs p = do
      let sets ← sources p
      return .object (sets.map fun (name, rows) =>
        let rows := laidOut p name (rows.filter (p.conditions.test rs))
        (name, .array ((p.limit.elim rows (·.apply rows)).map Row.toValue))) := by
  have hb : p.bound? = none := by
    have : p.reshapes = true := by
      rcases hk with hk | hk <;> simp [Plan.reshapes, List.isEmpty_eq_false_iff.mpr hk]
    rw [Plan.bound?, this]
    rfl
  have hfinish : ∀ name rows, finish rs p name (project rs p rows) =
      let rows := laidOut p name (rows.filter (p.conditions.test rs))
      .array ((p.limit.elim rows (·.apply rows)).map Row.toValue) := by
    intro name rows
    rw [finish, arrange, if_pos hh]
    rfl
  simp only [run_sources hb hu hd, hfinish]

theorem run_arranged [Source] (hc : p.command = some .select) (hall : ∀ c ∈ p.columns, c.isAll = false)
    (hu : p.unions = []) (hd : p.distinct = false) (hh : p.having.isEmpty = true)
    (hk : p.groupBy ≠ [] ∨ p.orderBy ≠ []) (rs : Results) :
    (p.run rs = do
      let sets ← sources p
      return .object (sets.map fun (name, rows) =>
        let rows := laidOut p name (rows.filter (p.conditions.test rs))
        (name, .array ((p.limit.elim rows (·.apply rows)).map Row.toValue)))) ∧
    (p.calls = [] → (∀ c ∈ p.columns, c.temporary = false) → shape p = (·.project p.columns)) ∧
    ∀ name rows,
      (p.calls.any (·.aggregate?.isSome) = false →
        (∀ r ∈ rows, ∀ k ∈ p.groupBy ++ p.orderBy, p.Shows r k.column) →
        laidOut p name rows = (sorted p.orderBy (grouped p.groupBy rows).flatten).map (shape p)) ∧
      (p.calls.any (·.aggregate?.isSome) = true → p.groupBy ≠ [] →
        (∀ r ∈ rows, ∀ k ∈ p.groupBy, p.Reads r k.column k.column.label) →
        (laidOut p name rows).Perm ((grouped p.groupBy rows).map (groupRow p)) ∧
        ∀ g ∈ grouped p.groupBy rows, ∀ c ∈ p.calls, ∀ a, c.aggregate? = some a →
          (∀ d ∈ p.calls, d.target = c.target → d = c) → (∀ r ∈ g, ∀ q ∈ c.params.head?, p.Takes r q) →
          (groupRow p g).field c.target = a.apply c.ofAllRows (c.inputs g)) := by
  have hrun : p.run rs = run rs p := by rw [Plan.run, hc]
  refine ⟨hrun.trans (run_laidOut hu hd hh hk), shape_eq_project, fun name rows => ⟨?_, ?_⟩⟩
  · exact laidOut_scalars hall name
  · intro ha hg hkeys
    refine ⟨laidOut_aggregates hall name hg ha hkeys, ?_⟩
    intro g _ c hcall a hagg hunique htakes
    exact field_groupRow hall hcall hagg hunique htakes

def citizen (name city : String) (age : Int) : Value :=
  .object [("age", .int age), ("city", .string city), ("name", .string name)]

def citizens : List Row :=
  [.ofValue (.named "users") "u1" (citizen "Bob" "Oslo" 40),
    .ofValue (.named "users") "u2" (citizen "Al" "Bergen" 30)]

def neighbours : List Row := citizens ++ [.ofValue (.named "users") "u3" (citizen "Eve" "Oslo" 20)]

def citizenStore : Store :=
  .ofTables [("users", [("u1", citizen "Bob" "Oslo" 40), ("u2", citizen "Al" "Bergen" 30)])]

def userColumn (name : String) : Column := .ofTable (.named "users") name

def byAge (shown : List String) : Scheme :=
  [⟨.select, shown.map fun name => .value (.string name)⟩, ⟨.fromTables, [.value (.string "users")]⟩,
    ⟨.orderBy, [.value (.string "age")]⟩]

def byAgePlan (shown : List String) : Plan :=
  { Plan.empty with
    command := some .select
    columns := shown.map userColumn
    tables := [.named "users"]
    orderBy := [⟨userColumn "age", .ascending⟩] }

def countByCity (shown : String) : Scheme :=
  [⟨.select, [.value (.string shown), .function ⟨"COUNT", "n", [.column (.named "*")]⟩]⟩,
    ⟨.fromTables, [.value (.string "users")]⟩, ⟨.groupBy, [.value (.string "city")]⟩]

def countByCityPlan (shown : String) : Plan :=
  { Plan.empty with
    command := some .select
    columns := [userColumn shown]
    calls := [⟨"COUNT", "n", [.column (userColumn "*")]⟩]
    tables := [.named "users"]
    groupBy := [⟨userColumn "city", .ascending⟩] }

theorem run_arranged_citizens :
    Plan.ofScheme [] (byAge ["name", "age"]) = .ok (byAgePlan ["name", "age"]) ∧
    laidOut (byAgePlan ["name", "age"]) "users" neighbours =
      (sorted (byAgePlan ["name", "age"]).orderBy neighbours).map (·.project (byAgePlan ["name", "age"]).columns) ∧
    Plan.ofScheme [] (countByCity "city") = .ok (countByCityPlan "city") ∧
    (laidOut (countByCityPlan "city") "users" neighbours).Perm
      ((grouped (countByCityPlan "city").groupBy neighbours).map (groupRow (countByCityPlan "city"))) ∧
    ∀ g ∈ grouped (countByCityPlan "city").groupBy neighbours,
      (groupRow (countByCityPlan "city") g).field "n" = .ofNat g.length := by
  obtain ⟨-, hshape, hrows⟩ := run_arranged (p := byAgePlan ["name", "age"]) rfl (by decide) rfl rfl rfl
    (.inr (by decide)) []
  obtain ⟨-, -, hgroups⟩ := run_arranged (p := countByCityPlan "city") rfl (by decide) rfl rfl rfl
    (.inl (by decide)) []
  obtain ⟨hperm, hfield⟩ := (hgroups "users" neighbours).2 (by decide) (by decide) (by decide)
  refine ⟨rfl, ?_, rfl, hperm, fun g hg => ?_⟩
  · rw [← hshape rfl (by decide)]
    exact (hrows "users" neighbours).1 rfl (by decide)
  · have hn := hfield g hg ⟨"COUNT", "n", [.column (userColumn "*")]⟩ List.mem_cons_self .count (by decide)
      (by rintro d hd -; exact List.mem_singleton.mp hd) (by rintro r _ q ⟨⟩; exact .inl rfl)
    rw [hn, ← List.length_map (Param.eval · (.column (userColumn "*")))]
    rfl

/-- Names come out unsorted by an age that is not shown, and all cities as one if none is shown. -/
theorem laidOut_not_sorted :
    Plan.ofScheme [] (byAge ["name"]) = .ok (byAgePlan ["name"]) ∧
    (((byAgePlan ["name"]).run []).run citizenStore).1 = .ok (.object [("users", .array
      [.object [("name", .string "Bob")], .object [("name", .string "Al")]])]) ∧
    (sorted (byAgePlan ["name"]).orderBy (grouped (byAgePlan ["name"]).groupBy citizens).flatten).map
        (fun r => (r.project (byAgePlan ["name"]).columns).toValue) =
      [.object [("name", .string "Al")], .object [("name", .string "Bob")]] ∧
    Plan.ofScheme [] (countByCity "name") = .ok (countByCityPlan "name") ∧
    (((countByCityPlan "name").run []).run citizenStore).1 = .ok (.object [("users", .array
      [.object [("n", .int 2), ("name", .string "Bob")]])]) ∧
    (grouped (countByCityPlan "name").groupBy citizens).length = 2 := by
  refine ⟨rfl, ?_, ?_, rfl, ?_, rfl⟩
  · have hrun : (byAgePlan ["name"]).run [] = run [] (byAgePlan ["name"]) := rfl
    have hlaid : laidOut (byAgePlan ["name"]) "users" citizens =
        citizens.map (·.project (byAgePlan ["name"]).columns) := by
      refine (mergeSort_pair _ _ _).trans (if_pos ?_)
      rfl
    rw [hrun, run_laidOut rfl rfl rfl (.inr (by decide))]
    change Except.ok (Value.object
      [("users", .array ((laidOut (byAgePlan ["name"]) "users" citizens).map Row.toValue))]) = _
    rw [hlaid]
    rfl
  · have hsorted : sorted (byAgePlan ["name"]).orderBy citizens = citizens.reverse := by
      refine (mergeSort_pair _ _ _).trans (if_neg ?_)
      decide
    change (sorted (byAgePlan ["name"]).orderBy citizens).map _ = _
    rw [hsorted]
    rfl
  · have hrun : (countByCityPlan "name").run [] = run [] (countByCityPlan "name") := rfl
    have hlaid : laidOut (countByCityPlan "name") "users" citizens =
        applyCalls (countByCityPlan "name") "users" (citizens.map (·.project [userColumn "name"])) :=
      List.mergeSort_singleton _
    rw [hrun, run_laidOut rfl rfl rfl (.inl (by decide))]
    change Except.ok (Value.object
      [("users", .array ((laidOut (countByCityPlan "name") "users" citizens).map Row.toValue))]) = _
    rw [hlaid]
    rfl

end Select

end DocQuery
