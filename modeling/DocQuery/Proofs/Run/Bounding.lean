import DocQuery.Proofs.Run.Showing

/-! Fetching no more rows than the limit can keep does not show: a run that fetches whole tables gives the
same answer and leaves the same store, and only the journals tell which of the two it was. -/

namespace DocQuery

def Request.unbounded : Request → Request
  | .fetch table _ => .fetch table none
  | r => r

namespace Store

structure UpToBounds (s t : Store) : Prop where
  tables : s.tables = t.tables
  medium : s.medium = t.medium
  readOnly : s.readOnly = t.readOnly
  offline : s.offline = t.offline
  issued : s.issued = t.issued
  journal : s.journal.map Request.unbounded = t.journal.map Request.unbounded

lemma UpToBounds.refl (s : Store) : UpToBounds s s := ⟨rfl, rfl, rfl, rfl, rfl, rfl⟩

lemma UpToBounds.setTables {s t : Store} (h : UpToBounds s t) (tables : Tables) :
    UpToBounds (s.setTables tables) (t.setTables tables) where
  tables := rfl
  medium := by
    unfold Store.setTables
    rw [h.medium]
  readOnly := h.readOnly
  offline := h.offline
  issued := h.issued
  journal := h.journal

lemma alike_log {r r' : Request} (h : r.unbounded = r'.unbounded) :
    Alike UpToBounds Eq (log r) (log r') := by
  refine .update fun s t hst => { hst with journal := ?_ }
  rw [List.map_append, List.map_append, hst.journal, List.map_singleton, List.map_singleton, h]

lemma alike_change (tables : Tables) : Alike UpToBounds Eq (change tables) (change tables) := by
  refine .bind_eq (.update fun s t hst => hst.setTables tables) fun _ => .bind .get fun s t hst => ?_
  rw [hst.medium]
  split
  · exact .throw _
  · exact .pure rfl

lemma alike_write (name : String) (changes : Dict Value) :
    Alike UpToBounds Eq (write name changes) (write name changes) := by
  refine .bind_eq (alike_log rfl) fun _ => .bind .get fun s t hst => ?_
  rw [hst.readOnly, hst.tables]
  split
  · exact .throw _
  · exact alike_change _

lemma alike_fetch (name : String) (b : Bound) :
    Alike UpToBounds (fun rows part => part = b.apply rows) (fetch name none) (fetch name (some b)) := by
  refine .bind_eq (alike_log rfl) fun _ => .bind .get fun s t hst => ?_
  rw [hst.offline, hst.tables]
  split
  · exact .throw _
  · exact .pure rfl

end Store

namespace Query

open Store (UpToBounds)

lemma alike_ofStore {α β : Type} {A : α → β → Prop} {a : StoreAction α} {b : StoreAction β}
    (h : Alike UpToBounds A a b) : Alike UpToBounds A (ofStore a) (ofStore b) := by
  intro s t hst
  obtain ⟨ha, hst⟩ := h s t hst
  refine ⟨?_, hst⟩
  rw [run_ofStore, run_ofStore]
  generalize (a.run s).1 = x at ha ⊢
  generalize (b.run t).1 = y at ha ⊢
  cases ha with
  | error e => exact .error _
  | ok h => exact .ok h

lemma alike_attempt {α : Type} {a : StoreAction α} (h : Alike UpToBounds Eq a a) :
    Alike UpToBounds Eq (attempt a) (attempt a) :=
  fun s t hst => ⟨.ok (h s t hst).1.eq, (h s t hst).2⟩

lemma alike_writeAll (changes : Dict (Dict Value)) :
    Alike UpToBounds Eq (writeAll changes) (writeAll changes) := by
  refine .bind_eq (.mapM (fun c => ?_) _) fun answers => ?_
  · exact .bind_eq (alike_attempt (Store.alike_write c.1 c.2)) fun _ => .pure rfl
  · dsimp only
    split
    · exact .pure rfl
    · exact .throw _

lemma alike_fetchRows (t : Table) (b : Bound) :
    Alike UpToBounds (fun rows part => part = b.apply rows) (fetchRows t none) (fetchRows t (some b)) :=
  .bind (alike_ofStore (Store.alike_fetch t.name b)) fun rows part h =>
    .pure (by rw [h, Bound.apply_map])

lemma alike_fetchTables (b : Bound) (sets : RowSets) (tables : List Table) :
    Alike UpToBounds (fun sets parts => parts = Dict.mapValues b.apply sets)
      (fetchTables none sets tables) (fetchTables (some b) (Dict.mapValues b.apply sets) tables) := by
  induction tables generalizing sets with
  | nil => exact .pure rfl
  | cons t tables ih =>
    rw [fetchTables, fetchTables, Dict.contains_mapValues]
    split
    · exact ih sets
    · refine .bind (alike_fetchRows t b) fun rows part h => ?_
      rw [h, Dict.insert_mapValues]
      exact ih _

def matchedWithin (bound : Option Bound) (rs : Results) (p : Plan) : Query RowSets := do
  let sets ← fetchTables bound [] p.tables
  let pass (rows : List Row) : List Row :=
    if p.conditions.isEmpty then rows else rows.filter (p.conditions.test rs)
  let limit (rows : List Row) : List Row := p.limit.elim rows (·.apply rows)
  return Dict.mapValues (fun rows => limit (pass rows)) sets

end Query

namespace Plan

def runWithin [Source] (bound : Option Bound) (rs : Results) (p : Plan) : Query Value :=
  match p.command with
  | some .select => do
    let primary ← Query.primary p .select
    let sets ← Query.fetchTables bound [] p.tables
    let sets ← Query.applyJoins primary sets p.joins
    return Select.output rs p primary sets
  | some .insert => Insert.run p
  | some .update => do
    let _ ← Query.primary p .update
    match p.assignments with
    | none => throw (.malformed .noSet)
    | some assignments =>
      let sets ← Query.matchedWithin bound rs p
      Query.writeAll (Dict.mapValues (Update.changes assignments) sets)
      return .bool true
  | some .delete => do
    let _ ← Query.primary p .delete
    let sets ← Query.matchedWithin bound rs p
    Query.writeAll (sets.map fun (table, rows) => (table, Delete.changes p table rows))
    return .bool true
  | none => throw .noCommand

lemma run_eq_runWithin [Source] (rs : Results) (p : Plan) : p.run rs = p.runWithin p.bound? rs := by
  unfold run runWithin
  cases p.command with
  | none => rfl
  | some command => cases command <;> rfl

lemma bound?_eq_none_or (p : Plan) :
    p.bound? = none ∨ ∃ l, p.limit = some l ∧ p.reshapes = false ∧ p.bound? = some l.bound := by
  unfold bound?
  cases p.reshapes with
  | true => exact .inl rfl
  | false =>
    cases p.limit with
    | none => exact .inl rfl
    | some l => exact .inr ⟨l, rfl, rfl, rfl⟩

end Plan

structure Plan.Quiet (p : Plan) : Prop extends p.Plain where
  conditions : p.conditions.isEmpty = true
  joins : p.joins = []
  orderBy : p.orderBy = []

lemma Plan.quiet_of_reshapes {p : Plan} (h : p.reshapes = false) : p.Quiet := by
  simp only [reshapes, Bool.or_eq_false_iff, Bool.not_eq_false', List.isEmpty_iff] at h
  obtain ⟨⟨⟨⟨⟨⟨⟨hc, hh⟩, hj⟩, hu⟩, hf⟩, hg⟩, ho⟩, hd⟩ := h
  exact ⟨⟨hd, hg, hf, hu, hh⟩, hc, hj, ho⟩

section Quiet

variable {rs : Results} {p : Plan} {l : Limit} (hq : p.Quiet) (hl : p.limit = some l)

include hq

lemma Plan.Quiet.filter (rows : List Row) : rows.filter (p.conditions.test rs) = rows :=
  List.filter_eq_self.mpr fun r _ => Conditions.test_of_isEmpty hq.conditions rs r

include hl

lemma Plan.Quiet.chosen (rows : List Row) : p.chosen rs rows = l.apply rows := by
  rw [Plan.chosen, hl, hq.filter, Option.elim_some]

lemma Select.displayed_quiet (rows : List Row) :
    displayed rs p rows = (l.apply rows).map fun r => dropHelpers p (r.project p.columns) := by
  rw [displayed, project, hq.filter, arrange_plain hq.toPlain, hq.orderBy, Rows.order_nil, hl, Option.elim_some,
    List.map_map, Limit.apply_map]
  rfl

lemma Select.output_bounded [Source] (hf : l.Fits) (primary : Table) (sets : RowSets) :
    output rs p primary (Dict.mapValues l.bound.apply sets) = output rs p primary sets := by
  simp only [output_eq, shown_plain hq.toPlain, Dict.mapValues, List.map_map, Function.comp_def,
    displayed_quiet hq hl, Limit.apply_bound hf]

lemma Query.alike_matchedWithin (hf : l.Fits) :
    Alike Store.UpToBounds Eq (matchedWithin none rs p) (matchedWithin (some l.bound) rs p) := by
  refine .bind (alike_fetchTables l.bound [] p.tables) fun sets parts h => .pure ?_
  simp only [h, hq.conditions, hl, Dict.mapValues, List.map_map, Function.comp_def, if_true,
    Option.elim_some, Limit.apply_bound hf]

end Quiet

namespace Plan

variable {rs : Results} {p : Plan} {l : Limit}

lemma alike_primary (command : Command) :
    Alike Store.UpToBounds Eq (Query.primary p command) (Query.primary p command) := by
  unfold Query.primary
  split
  · exact .pure rfl
  · exact .throw _

lemma alike_select [Source] (hq : p.Quiet) (hl : p.limit = some l) (hf : l.Fits) (hc : p.command = some .select) :
    Alike Store.UpToBounds Eq (p.runWithin none rs) (p.runWithin (some l.bound) rs) := by
  simp only [runWithin, hc, hq.joins]
  refine .bind_eq (alike_primary .select) fun t => ?_
  refine .bind (Query.alike_fetchTables l.bound [] p.tables) fun sets parts h => .pure ?_
  rw [h, Select.output_bounded hq hl hf]

lemma alike_update [Source] (hq : p.Quiet) (hl : p.limit = some l) (hf : l.Fits) (hc : p.command = some .update) :
    Alike Store.UpToBounds Eq (p.runWithin none rs) (p.runWithin (some l.bound) rs) := by
  simp only [runWithin, hc]
  refine .bind_eq (alike_primary .update) fun _ => ?_
  split
  · exact .throw _
  · refine .bind_eq (Query.alike_matchedWithin hq hl hf) fun sets => ?_
    exact .bind_eq (Query.alike_writeAll _) fun _ => .pure rfl

lemma alike_delete [Source] (hq : p.Quiet) (hl : p.limit = some l) (hf : l.Fits) (hc : p.command = some .delete) :
    Alike Store.UpToBounds Eq (p.runWithin none rs) (p.runWithin (some l.bound) rs) := by
  simp only [runWithin, hc]
  refine .bind_eq (alike_primary .delete) fun _ => ?_
  refine .bind_eq (Query.alike_matchedWithin hq hl hf) fun sets => ?_
  exact .bind_eq (Query.alike_writeAll _) fun _ => .pure rfl

theorem run_whole [Source] (hf : ∀ l, p.limit = some l → l.Fits) (rs : Results) (s : Store) :
    ((p.run rs).run s).1 = ((p.runWithin none rs).run s).1 ∧
      Store.UpToBounds ((p.runWithin none rs).run s).2 ((p.run rs).run s).2 := by
  rw [run_eq_runWithin]
  rcases bound?_eq_none_or p with hb | ⟨l, hl, hr, hb⟩
  · rw [hb]
    exact ⟨rfl, .refl _⟩
  · have hq := quiet_of_reshapes hr
    have same (h : Alike Store.UpToBounds Eq (p.runWithin none rs) (p.runWithin (some l.bound) rs)) :
        ((p.runWithin (some l.bound) rs).run s).1 = ((p.runWithin none rs).run s).1 ∧
          Store.UpToBounds ((p.runWithin none rs).run s).2 ((p.runWithin (some l.bound) rs).run s).2 :=
      ⟨(h s s (.refl s)).1.eq.symm, (h s s (.refl s)).2⟩
    rw [hb]
    cases hc : p.command with
    | none =>
      have he : p.runWithin (some l.bound) rs = p.runWithin none rs := by simp only [runWithin, hc]
      exact he ▸ ⟨rfl, .refl _⟩
    | some command =>
      cases command with
      | select => exact same (alike_select hq hl (hf l hl) hc)
      | update => exact same (alike_update hq hl (hf l hl) hc)
      | delete => exact same (alike_delete hq hl (hf l hl) hc)
      | insert =>
        have he : p.runWithin (some l.bound) rs = p.runWithin none rs := by simp only [runWithin, hc]
        exact he ▸ ⟨rfl, .refl _⟩

def threeTables : Store :=
  { Store.ofTables (.ofObjects [("logs", [("l1", []), ("l2", [])]), ("orders", [("o1", [])]),
      ("users", [("u1", []), ("u2", []), ("u3", []), ("u4", []), ("u5", [])])]) with readOnly := ["logs"] }

theorem run_whole_pair :
    ∃ p, ofScheme [] [⟨.delete, []⟩, ⟨.fromTables, [.table (.named "users"), .table (.named "orders"),
          .table (.named "logs")]⟩, ⟨.limit, [.value (.int 1), .value (.int (-2))]⟩] = .ok p ∧
      p.bound? = some (.last 3) ∧ (∀ l, p.limit = some l → l.Fits) ∧
      ((p.run []).run threeTables).1 = ((p.runWithin none []).run threeTables).1 ∧
      Store.UpToBounds ((p.runWithin none []).run threeTables).2 ((p.run []).run threeTables).2 := by
  have hf : ∀ l, some (⟨1, some (-2)⟩ : Limit) = some l → l.Fits := by
    rintro l ⟨⟩
    exact ⟨by decide, fun n hn => by cases hn; decide, by decide⟩
  exact ⟨_, rfl, rfl, hf, run_whole hf [] threeTables⟩

end Plan

end DocQuery
