import DocQuery.Plan.Builder
import DocQuery.Proofs.Run.Matching
import DocQuery.Proofs.Run.Writing
import DocQuery.Run

namespace DocQuery

lemma Row.find?_changes {rows : List Row} (h : (rows.map Row.key).Nodup) (left : Row → Value) {r : Row}
    (hr : r ∈ rows) :
    Dict.find? r.key (Dict.ofList (Dict.ofList (rows.map fun r => (r.key, left r)))) = some (left r) := by
  have hk : (Dict.keys (rows.map fun r => (r.key, left r))).Nodup := by
    rw [Dict.keys, List.map_map]
    exact h
  rw [Dict.find?_ofList_of_nodup (Dict.sorted_ofList _).nodup, Dict.find?_ofList_of_nodup hk]
  exact Dict.find?_of_mem hk (List.mem_map.mpr ⟨r, hr, rfl⟩)

lemma Row.find?_changes_of_ne {rows : List Row} (left : Row → Value) {key : String}
    (h : ∀ r ∈ rows, r.key ≠ key) :
    Dict.find? key (Dict.ofList (Dict.ofList (rows.map fun r => (r.key, left r)))) = none := by
  rw [Dict.find?_ofList_of_nodup (Dict.sorted_ofList _).nodup, Dict.find?_ofList, Dict.find?_eq_none_iff]
  intro hk
  obtain ⟨e, he, rfl⟩ := List.mem_map.mp hk
  obtain ⟨r, hr, rfl⟩ := List.mem_map.mp (List.mem_reverse.mp he)
  exact h r hr rfl

lemma Update.find?_assign (content : Dict Value) (e : String × Value) (field : String) :
    Dict.find? field (assign content e) = if field = e.1 then e.2.present? else Dict.find? field content :=
  Tables.find?_change content e field

lemma Update.find?_foldl_assign (assignments content : Dict Value) (field : String) :
    Dict.find? field (assignments.foldl assign content) =
      (Dict.find? field (Dict.ofList assignments)).elim (Dict.find? field content) Value.present? := by
  rw [Dict.find?_foldl Value.present? find?_assign, Dict.find?_ofList]

lemma Delete.mem_columnsOf {p : Plan} {c : Column} {name : String} :
    c ∈ columnsOf p name ↔ c ∈ p.columns ∧ ∀ t, c.tableName? = some t → t = name := by
  rw [columnsOf, List.mem_filter]
  cases c.tableName? <;> simp

namespace Plan

variable {rs : Results} {p : Plan}

def Matches (rs : Results) (p : Plan) (ts : Tables) (name key : String) : Prop :=
  ∃ r ∈ p.matched rs ts name, r.key = key

/-- What becomes of a row that a change is for. An update sets the fields it assigns and takes those
away that it assigns null; a deletion takes the row away, or the columns it lists. A column of no table
is one of every table. -/
inductive Outcome (p : Plan) (name : String) (old : Dict Value) : Option Value → Prop
  | updated {assignments new : Dict Value} :
    p.command = some .update → p.assignments = some assignments →
    (∀ field, Dict.find? field new =
      (Dict.find? field (Dict.ofList assignments)).elim (Dict.find? field old) Value.present?) →
    Outcome p name old (some (.object new))
  | deleted :
    p.command = some .delete → (p.columns = [] ∨ ∃ c ∈ p.columns, c.isAll = true) →
    Outcome p name old none
  | reduced {new : Dict Value} :
    p.command = some .delete → p.columns ≠ [] → (∀ c ∈ p.columns, c.isAll = false) →
    (∀ field, (∃ c ∈ p.columns, c.name = field ∧ ∀ t, c.tableName? = some t → t = name) →
      Dict.find? field new = none) →
    (∀ field, (¬ ∃ c ∈ p.columns, c.name = field ∧ ∀ t, c.tableName? = some t → t = name) →
      Dict.find? field new = Dict.find? field old) →
    Outcome p name old (some (.object new))

/-- What a change does to the tables: the rows it is for were there and change, and no other row does. -/
structure Changes (rs : Results) (p : Plan) (ts ts' : Tables) : Prop where
  found {name key} : p.Matches rs ts name key → ∃ old, ts.get? name key = some (.object old)
  changed {name key old} : p.Matches rs ts name key → ts.get? name key = some (.object old) →
    p.Outcome name old (ts'.get? name key)
  unchanged {name key} : ¬ p.Matches rs ts name key → ts'.get? name key = ts.get? name key
  absent {name key} : ts.get? name key = none → ts'.get? name key = none

def RowWise (changes : String → List Row → Dict Value) (left : String → Row → Value) : Prop :=
  ∀ name rows, changes name rows = Dict.ofList (rows.map fun r => (r.key, left name r)) ∨
    changes name rows = [] ∧ ∀ r ∈ rows, left name r = .object r.content

section Change

variable {changes : String → List Row → Dict Value} {left : String → Row → Value}
  {s t s' : Store} {sets : RowSets} (hc : RowWise changes left)
  (hs : (Query.matchedRows rs p).run s = (.ok sets, t))
  (hw : (Query.writeAll (sets.map fun e => (e.1, changes e.1 e.2))).run t = (.ok ⟨⟩, s'))

include hc hs hw

lemma get?_of_change (name key : String) :
    s'.tables.get? name key =
      (Dict.find? key (Dict.ofList (changes name (p.matched rs s.tables name)))).elim
        (s.tables.get? name key) Value.present? := by
  obtain ⟨ht, hsorted, hfind⟩ := Query.matchedRows_run hs
  have hd : (Dict.keys (sets.map fun e => (e.1, changes e.1 e.2))).Nodup := by
    rw [Dict.keys_map fun e => changes e.1 e.2]
    exact hsorted.nodup
  have hn : changes name [] = [] := by
    rcases hc name [] with h | h
    · exact h
    · exact h.1
  rw [Query.writeAll_run hw, Tables.get?_writeAll_nonempty _ hd, Tables.get?_writeAll _ hd,
    Dict.find?_map, ht, ← hfind name]
  cases Dict.find? name sets with
  | none =>
    rw [Option.getD_none, hn]
    rfl
  | some rows => rfl

lemma get?_of_not_matches {name key : String} (hm : ¬ p.Matches rs s.tables name key) :
    s'.tables.get? name key = s.tables.get? name key := by
  have hne : ∀ r ∈ p.matched rs s.tables name, r.key ≠ key := fun r hr hk => hm ⟨r, hr, hk⟩
  rw [get?_of_change hc hs hw]
  rcases hc name (p.matched rs s.tables name) with h | ⟨h, -⟩
  · rw [h, Row.find?_changes_of_ne _ hne]
    rfl
  · rw [h]
    rfl

lemma get?_of_matched (hwf : s.tables.WellFormed) {name : String} {r : Row}
    (hr : r ∈ p.matched rs s.tables name) :
    s'.tables.get? name r.key = (left name r).present? := by
  rw [get?_of_change hc hs hw]
  rcases hc name (p.matched rs s.tables name) with h | ⟨h, hl⟩
  · rw [h, Row.find?_changes (matched_keys hwf name) _ hr]
    rfl
  · rw [h, hl r hr]
    exact get?_matched hwf hr

lemma changes_of_outcome (hwf : s.tables.WellFormed)
    (ho : ∀ name r, p.Outcome name r.content (left name r).present?) :
    p.Changes rs s.tables s'.tables where
  found := fun ⟨r, hr, hk⟩ => ⟨r.content, hk ▸ get?_matched hwf hr⟩
  changed := by
    rintro name key old ⟨r, hr, rfl⟩ hold
    rw [get?_matched hwf hr] at hold
    cases hold
    rw [get?_of_matched hc hs hw hwf hr]
    exact ho name r
  unchanged := get?_of_not_matches hc hs hw
  absent := by
    intro name key hnone
    have hm : ¬ p.Matches rs s.tables name key := by
      rintro ⟨r, hr, rfl⟩
      rw [get?_matched hwf hr] at hnone
      cases hnone
    rw [get?_of_not_matches hc hs hw hm, hnone]

end Change

lemma rowWise_update (assignments : Dict Value) :
    RowWise (fun _ => Update.changes assignments)
      fun _ r => .object (assignments.foldl Update.assign r.content) :=
  fun _ _ => .inl rfl

lemma rowWise_delete (p : Plan) :
    RowWise (Delete.changes p) fun name r =>
      if Delete.wholeRows p then .null
      else .object
        ((Delete.columnsOf p name).foldl (fun content c => Dict.erase c.name content) r.content) := by
  intro name rows
  unfold Delete.changes
  by_cases hw : Delete.wholeRows p = true
  · simp only [if_pos hw]
    exact .inl trivial
  · simp only [if_neg hw]
    cases hcs : Delete.columnsOf p name with
    | nil => exact .inr ⟨rfl, fun _ _ => rfl⟩
    | cons c cs => exact .inl rfl

lemma outcome_update {assignments : Dict Value} (hc : p.command = some .update)
    (ha : p.assignments = some assignments) (name : String) (old : Dict Value) :
    p.Outcome name old (some (.object (assignments.foldl Update.assign old))) :=
  .updated hc ha fun field => Update.find?_foldl_assign assignments old field

lemma outcome_delete (hc : p.command = some .delete) (name : String) (old : Dict Value) :
    p.Outcome name old (if Delete.wholeRows p then Value.null else .object ((Delete.columnsOf p name).foldl
      (fun content c => Dict.erase c.name content) old)).present? := by
  by_cases hw : Delete.wholeRows p = true
  · rw [if_pos hw]
    refine .deleted hc ?_
    simpa [Delete.wholeRows] using hw
  · rw [if_neg hw]
    have hcols : p.columns ≠ [] ∧ ∀ c ∈ p.columns, c.isAll = false := by
      simpa [Delete.wholeRows] using hw
    refine .reduced hc hcols.1 hcols.2 ?_ ?_
    · rintro field ⟨c, hm, hn, ht⟩
      rw [Dict.find?_foldl_erase Column.name, if_pos ⟨c, Delete.mem_columnsOf.mpr ⟨hm, ht⟩, hn⟩]
    · intro field hnone
      rw [Dict.find?_foldl_erase Column.name, if_neg]
      rintro ⟨c, hm, hn⟩
      obtain ⟨hm, ht⟩ := Delete.mem_columnsOf.mp hm
      exact hnone ⟨c, hm, hn, ht⟩

lemma run_primary {α : Type} {command : Command} {f : Table → Query α} {a : α} {s s' : Store}
    (h : (Query.primary p command >>= f).run s = (.ok a, s')) : ∃ t, (f t).run s = (.ok a, s') := by
  obtain ⟨t, u, hp, h⟩ := run_bind_eq_ok h
  unfold Query.primary at hp
  split at hp
  · cases hp
    exact ⟨t, h⟩
  · cases hp

lemma run_update {v : Value} {s s' : Store} (h : (Update.run rs p).run s = (.ok v, s')) :
    ∃ assignments sets t, p.assignments = some assignments ∧ (Query.matchedRows rs p).run s = (.ok sets, t) ∧
      (Query.writeAll (sets.map fun e => (e.1, Update.changes assignments e.2))).run t = (.ok ⟨⟩, s') := by
  obtain ⟨_, h⟩ := run_primary h
  split at h
  · cases h
  · next assignments ha =>
    obtain ⟨sets, t, hs, h⟩ := run_bind_eq_ok h
    obtain ⟨_, u, hw, h⟩ := run_bind_eq_ok h
    cases h
    exact ⟨assignments, sets, t, ha, hs, hw⟩

lemma run_delete {v : Value} {s s' : Store} (h : (Delete.run rs p).run s = (.ok v, s')) :
    ∃ sets t, (Query.matchedRows rs p).run s = (.ok sets, t) ∧
      (Query.writeAll (sets.map fun e => (e.1, Delete.changes p e.1 e.2))).run t = (.ok ⟨⟩, s') := by
  obtain ⟨_, h⟩ := run_primary h
  obtain ⟨sets, t, hs, h⟩ := run_bind_eq_ok h
  obtain ⟨_, u, hw, h⟩ := run_bind_eq_ok h
  cases h
  exact ⟨sets, t, hs, hw⟩

lemma run_rowWise [Source] {v : Value} {s s' : Store} (hc : p.command = some .update ∨ p.command = some .delete)
    (h : (p.run rs).run s = (.ok v, s')) :
    ∃ changes left sets t, RowWise changes left ∧
      (∀ name r, p.Outcome name r.content (left name r).present?) ∧
      (Query.matchedRows rs p).run s = (.ok sets, t) ∧
      (Query.writeAll (sets.map fun e => (e.1, changes e.1 e.2))).run t = (.ok ⟨⟩, s') := by
  unfold run at h
  rcases hc with hc | hc
  · rw [hc] at h
    obtain ⟨assignments, sets, t, ha, hs, hw⟩ := run_update h
    exact ⟨_, _, sets, t, rowWise_update assignments,
      fun name r => outcome_update hc ha name r.content, hs, hw⟩
  · rw [hc] at h
    obtain ⟨sets, t, hs, hw⟩ := run_delete h
    exact ⟨_, _, sets, t, rowWise_delete p, fun name r => outcome_delete hc name r.content, hs, hw⟩

theorem run_changes [Source] {v : Value} {s s' : Store} (hwf : s.tables.WellFormed)
    (hc : p.command = some .update ∨ p.command = some .delete) (h : (p.run rs).run s = (.ok v, s')) :
    (∃ sets t, (Query.matchedRows rs p).run s = (.ok sets, t) ∧
      ∀ name, (Dict.find? name sets).getD [] = p.matched rs s.tables name) ∧
    p.Changes rs s.tables s'.tables := by
  obtain ⟨changes, left, sets, t, hr, ho, hs, hw⟩ := run_rowWise hc h
  exact ⟨⟨sets, t, hs, (Query.matchedRows_run hs).2.2⟩, changes_of_outcome hr hs hw hwf ho⟩

def markedUsers : Tables :=
  .ofObjects [("orders", [("u1", [("mark", .string "x")])]),
    ("users", [("u1", [("mark", .string "x")]), ("u2", []),
      ("u3", [("mark", .string "x"), ("name", .string "Ann")]), ("u4", [("mark", .string "x")])])]

theorem run_changes_markedUsers :
    ∃ p s, ofScheme [] [⟨.update, [.table (.named "users")]⟩,
        ⟨.setFields, [.value (.object [("adult", .bool true), ("mark", .null)])]⟩,
        ⟨.whereKeys, [.value (.string "mark")]⟩, ⟨.eq, [.value (.string "x")]⟩,
        ⟨.limit, [.value (.int 2)]⟩] = .ok p ∧
      (p.run []).run (.ofTables markedUsers) = (.ok (.bool true), s) ∧
      (p.matched [] markedUsers "users").map Row.key = ["u1", "u3"] ∧
      p.Changes [] (Store.ofTables markedUsers).tables s.tables := by
  refine ⟨_, _, rfl, rfl, rfl, ?_⟩
  exact (run_changes (Tables.wellFormed_ofObjects (by decide)) (.inl rfl) rfl).2

theorem wellFormed_run [Source] {v : Value} {s s' : Store} (hwf : s.tables.WellFormed)
    (hc : p.command = some .update ∨ p.command = some .delete) (h : (p.run rs).run s = (.ok v, s')) :
    s'.tables.WellFormed := by
  obtain ⟨changes, left, sets, t, hr, ho, hs, hw⟩ := run_rowWise hc h
  have hl (name : String) (r : Row) : left name r = .null ∨ ∃ fields, left name r = .object fields := by
    have hor := ho name r
    generalize left name r = w at hor
    cases w with
    | null => exact .inl rfl
    | object fields => exact .inr ⟨fields, rfl⟩
    | _ => cases hor
  rw [Query.writeAll_run hw]
  refine ((Query.matchedRows_run hs).1 ▸ hwf : t.tables.WellFormed).writeAll ?_
  intro e he c hm
  obtain ⟨⟨name, rows⟩, -, rfl⟩ := List.mem_map.mp (List.mem_filter.mp he).1
  rcases hr name rows with hn | ⟨hn, -⟩
  · rw [hn] at hm
    obtain ⟨r, -, rfl⟩ := List.mem_map.mp (Dict.mem_ofList hm)
    exact hl name r
  · rw [hn] at hm
    cases hm

end Plan

end DocQuery
