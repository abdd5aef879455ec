import DocQuery.Proofs.Run.Bounding
import DocQuery.Proofs.Run.Changing

/-! The rows that a change writes beside those that a selection with its clauses shows. A change takes no
account of joins and of the order, so that the two are not the same whenever these matter. -/

namespace DocQuery

def Request.keysOf (table : String) : Request → List String
  | .write name changes => if name = table then Dict.keys changes else []
  | _ => []

lemma Request.keysOf_write (table : String) (changes : Dict Value) :
    (if changes.isEmpty then [] else [write table changes]).flatMap (keysOf table) = Dict.keys changes := by
  cases changes with
  | nil => rfl
  | cons c changes => simp [keysOf]

lemma Dict.mem_keys_ofList {α : Type} {es : List (String × α)} {k : String} :
    k ∈ keys (ofList es) ↔ k ∈ keys es := by
  have hr : k ∈ keys es.reverse ↔ k ∈ keys es := by
    rw [keys, List.map_reverse, List.mem_reverse]
    rfl
  rw [← hr, ← Decidable.not_iff_not, ← find?_eq_none_iff, ← find?_eq_none_iff, find?_ofList]

namespace Store

lemma keeps_change (tables : Tables) : Keeps journal (change tables) := by
  refine .bind (.update fun _ => rfl) fun _ => .bind .get fun s => ?_
  split
  · exact .throw _
  · exact .pure _

lemma journal_write (table : String) (changes : Dict Value) (s : Store) :
    ((write table changes).run s).2.journal = s.journal ++ [.write table changes] := by
  have hk : Keeps journal (do
      let s ← get
      if s.readOnly.contains table then throw .readOnly
      else change (s.tables.write table changes) : StoreAction Unit) := by
    refine .bind .get fun s => ?_
    split
    · exact .throw _
    · exact keeps_change _
  unfold write
  rw [run_bind_of_ok (m := log _) rfl, hk]

end Store

lemma Query.journal_writeAll (table : String) (changes : Dict Value) (s : Store) :
    ((writeAll [(table, changes)]).run s).2.journal = s.journal ++
      if changes.isEmpty then [] else [.write table changes] := by
  refine (Keeps.run_bind (g := Store.journal) (fun answers => ?_) _ s).trans ?_
  · dsimp only
    split
    · exact .pure _
    · exact .throw _
  cases changes with
  | nil => exact (List.append_nil _).symm
  | cons c changes => exact Store.journal_write table (c :: changes) s

namespace Plan

def written [Source] (rs : Results) (p : Plan) (s : Store) (table : String) : List String :=
  (((p.run rs).run s).2.journal.drop s.journal.length).flatMap (Request.keysOf table)

variable {rs : Results} {p q : Plan} {t : Table} {s s' : Store} {key : String}

section Change

variable (hc : p.isChange) (ht : p.tables = [t])

include ht

lemma run_matchedRows_offline (ho : t.name ∈ s.offline) :
    (Query.matchedRows rs p).run s = (.error (.store .offline), s.asked (.fetch t.name p.bound?)) := by
  rw [Query.matchedRows, ht, run_bind_of_error (Query.run_fetchTables_offline ho _)]

lemma run_matchedRows_online (ho : t.name ∉ s.offline) :
    (Query.matchedRows rs p).run s =
      (.ok [(t.name, p.chosen rs (s.tables.rowsOf p.bound? t))], s.asked (.fetch t.name p.bound?)) := by
  rw [Query.matchedRows, ht, run_bind_of_ok (Query.run_fetchTables_online ho _)]
  simp only [Conditions.filter_unless_isEmpty]
  rfl

include hc

lemma run_of_isChange [Source] (rs : Results) :
    ∃ left : Row → Value, p.run rs = do
      let sets ← Query.matchedRows rs p
      Query.writeAll (sets.map fun e => (e.1, Dict.ofList (e.2.map fun r => (r.key, left r))))
      return .bool true := by
  rcases hc with ⟨hc, hcols⟩ | ⟨hc, fields, ha⟩
  · have hw : Delete.wholeRows p = true := by
      rw [Delete.wholeRows, hcols]
      rfl
    refine ⟨fun _ => .null, ?_⟩
    simp only [run, hc, Delete.run, Query.primary_of_tables ht, pure_bind, Delete.changes, hw, if_true]
  · refine ⟨fun r => .object (fields.foldl Update.assign r.content), ?_⟩
    simp only [run, hc, Update.run, Query.primary_of_tables ht, pure_bind, ha]
    rfl

lemma written_offline [Source] (ho : t.name ∈ s.offline) : p.written rs s t.name = [] := by
  obtain ⟨left, hr⟩ := run_of_isChange hc ht rs
  rw [written, hr, run_bind_of_error (run_matchedRows_offline ht ho)]
  simp [Store.asked, Request.keysOf]

lemma mem_written [Source] (ho : t.name ∉ s.offline) :
    key ∈ p.written rs s t.name ↔ ∃ r ∈ p.chosen rs (s.tables.rowsOf p.bound? t), r.key = key := by
  obtain ⟨left, hr⟩ := run_of_isChange hc ht rs
  have hk : p.written rs s t.name =
      Dict.keys (Dict.ofList ((p.chosen rs (s.tables.rowsOf p.bound? t)).map fun r => (r.key, left r))) := by
    rw [written, hr, run_bind_of_ok (run_matchedRows_online ht ho),
      Keeps.run_bind (g := Store.journal) fun _ => .pure _, List.map_singleton, Query.journal_writeAll,
      Store.asked, List.append_assoc, List.drop_left, List.flatMap_append, Request.keysOf_write]
    rfl
  rw [hk, Dict.mem_keys_ofList, Dict.keys, List.map_map]
  exact List.mem_map

theorem mem_written_iff_matches [Source] {v : Value} (h : (p.run rs).run s = (.ok v, s')) :
    key ∈ p.written rs s t.name ↔ p.Matches rs s.tables t.name key := by
  have ho : t.name ∉ s.offline := by
    intro ho
    obtain ⟨left, hr⟩ := run_of_isChange hc ht rs
    rw [hr, run_bind_of_error (run_matchedRows_offline ht ho)] at h
    cases h
  have hf : p.tables.find? (·.name == t.name) = some t := by
    rw [ht, List.find?_cons, beq_self_eq_true]
  rw [mem_written hc ht ho, Matches, (matched_of_find? hf).1]

end Change

lemma chosen_whole (hf : ∀ l, p.limit = some l → l.Fits) (rs : Results) (ts : Tables) (t : Table) :
    p.chosen rs (ts.rowsOf p.bound? t) = p.chosen rs (ts.rowsOf none t) := by
  rcases bound?_eq_none_or p with hb | ⟨l, hl, hr, hb⟩
  · rw [hb]
  · have hq := quiet_of_reshapes hr
    have hrows : ts.rowsOf (some l.bound) t = l.bound.apply (ts.rowsOf none t) := (Bound.apply_map ..).symm
    rw [hb, hq.chosen hl, hq.chosen hl, hrows]
    exact Limit.apply_bound (hf l hl) _

namespace Selects

variable (h : q.Selects p)

include h

lemma chosen (rows : List Row) : q.chosen rs rows = p.chosen rs rows := by
  rw [Plan.chosen, Plan.chosen, h.conditions, h.limit]

lemma bound? (hp : p.Plain) : q.bound? = p.bound? := by
  simp only [Plan.bound?, reshapes, h.conditions, h.joins, h.orderBy, h.limit, h.plain.having, h.plain.unions,
    h.plain.calls, h.plain.groupBy, h.plain.distinct, hp.having, hp.unions, hp.calls, hp.groupBy, hp.distinct]

end Selects

def unjoined (q : Plan) : Plan := { q with joins := [], orderBy := [] }

section Change

variable (hc : p.isChange) (ht : p.tables = [t])

include hc ht

lemma mem_written_iff [Source] (hq : q.Plain) (hqt : q.tables = [t]) (hj : q.joins = [])
    (hk : ∀ rows, key ∈ (Select.displayed rs q rows).map Row.key ↔ key ∈ (q.chosen rs rows).map Row.key)
    (hch : q.chosen rs (s.tables.rowsOf q.bound? t) = p.chosen rs (s.tables.rowsOf p.bound? t)) :
    key ∈ p.written rs s t.name ↔ key ∈ q.shown rs s t.name := by
  by_cases ho : t.name ∈ s.offline
  · rw [written_offline hc ht ho, shown_offline hqt ho]
  · rw [mem_written hc ht ho, shown_of_single hqt ho hj hq, hk, hch]
    exact List.mem_map.symm

variable (hq : q.Selects p)

include hq

lemma mem_written_unjoined [Source] (hf : ∀ l, q.limit = some l → l.Fits) :
    key ∈ p.written rs s t.name ↔ key ∈ q.unjoined.shown rs s t.name := by
  have hu : q.unjoined.Plain := { hq.plain with }
  apply mem_written_iff hc ht hu (hq.tables.trans ht) rfl
  · intro rows
    rw [Select.keys_displayed_of_unordered hu rfl]
  · have hpf : ∀ l, p.limit = some l → l.Fits := fun l hl => hf l (hq.limit.trans hl)
    have huf : ∀ l, q.unjoined.limit = some l → l.Fits := hf
    rw [chosen_whole huf, chosen_whole hpf]
    exact hq.chosen _

variable (hp : p.Plain)

include hp

lemma mem_written_single [Source] (hj : q.joins = []) (ho : q.orderBy = [] ∨ q.limit = none) :
    key ∈ p.written rs s t.name ↔ key ∈ q.shown rs s t.name := by
  apply mem_written_iff hc ht hq.plain (hq.tables.trans ht) hj
  · intro rows
    rcases ho with ho | hl
    · rw [Select.keys_displayed_of_unordered hq.plain ho]
    · exact Select.mem_keys_displayed_of_unlimited hq.plain hl rows
  · rw [hq.bound? hp, hq.chosen]

lemma mem_written_left [Source] (hj : ∀ j ∈ q.joins, j.kind = .left) (he : q.conditions.isEmpty = true)
    (hl : q.limit = none) {v : Value} (h : (q.run rs).run s = (.ok v, s')) :
    key ∈ p.written rs s t.name ↔ key ∈ q.shown rs s t.name := by
  have hqt : q.tables = [t] := hq.tables.trans ht
  obtain ⟨ho, sets, u, hr⟩ := joins_of_run hqt hq.command h
  obtain ⟨joined, rfl, hkeys⟩ := Query.applyJoins_left hj hr
  have hall (rows : List Row) : q.chosen rs rows = rows := by
    rw [chosen, hl]
    exact List.filter_eq_self.mpr fun r _ => Conditions.test_of_isEmpty he rs r
  rw [mem_written hc ht ho, shown_of_joins hqt ho hr hq.plain,
    Select.mem_keys_displayed_of_unlimited hq.plain hl, hall, hkeys, ← hq.chosen, hall, hq.bound? hp]
  exact List.mem_map.symm

end Change

theorem written_iff_shown [Source] {made : Results} {change selection : Scheme} (hc : Counterpart change selection)
    (hp : ofScheme made change = .ok p) (ht : p.tables = [t]) :
    ∃ q, ofScheme made selection = .ok q ∧ ∀ rs s key,
      ((∀ l, q.limit = some l → l.Fits) →
        (key ∈ p.written rs s t.name ↔ key ∈ q.unjoined.shown rs s t.name)) ∧
      (q.joins = [] → q.orderBy = [] ∨ q.limit = none →
        (key ∈ p.written rs s t.name ↔ key ∈ q.shown rs s t.name)) ∧
      ((∀ j ∈ q.joins, j.kind = .left) → q.conditions.isEmpty = true → q.limit = none →
        (∃ v s', (q.run rs).run s = (.ok v, s')) →
        (key ∈ p.written rs s t.name ↔ key ∈ q.shown rs s t.name)) := by
  obtain ⟨q, hs, hq, hpl, hch⟩ := exists_selection hc hp
  refine ⟨q, hs, fun rs s key => ⟨fun hf => ?_, fun hj ho => ?_, fun hj he hl ⟨v, s', h⟩ => ?_⟩⟩
  · exact mem_written_unjoined hch ht hq hf
  · exact mem_written_single hch ht hq hpl hj ho
  · exact mem_written_left hch ht hq hpl hj he hl h

def buyers : Tables :=
  .ofObjects [("orders", [("o1", [("buyer", .string "ann"), ("mark", .string "x")]),
      ("o2", [("buyer", .string "ann")])]),
    ("users", [("u1", [("name", .string "ann")]), ("u2", [("name", .string "ada")])])]

def ofUsers (clauses : Scheme) : Scheme := ⟨.fromTables, [.table (.named "users")]⟩ :: clauses

def userName : Column := .ofTable (.named "users") "name"

def orderBuyer : Column := .ofTable (.named "orders") "buyer"

def orderMark : Column := .ofTable (.named "orders") "mark"

def withOrders (kind : Keyword) (column : Column) (clauses : Scheme) : Scheme :=
  ofUsers (⟨kind, [.column column]⟩ :: ⟨.onColumn, [.column userName]⟩ :: clauses)

def allUsers : Plan :=
  { empty with command := some .select, columns := [.ofTable (.named "users") "*"], tables := [.named "users"] }

def allOrders : Plan :=
  { allUsers with joins := [⟨.left, userName, orderBuyer⟩] }

def usersGone : Plan := { allOrders with command := some .delete, columns := [] }

theorem written_iff_shown_orders :
    ofScheme [] (⟨.delete, []⟩ :: withOrders .leftJoin orderBuyer []) = .ok usersGone ∧
      ofScheme [] (⟨.select, [.value (.string "*")]⟩ :: withOrders .leftJoin orderBuyer []) = .ok allOrders ∧
      usersGone.tables = [.named "users"] ∧
      ∀ key, (key ∈ usersGone.written [] (.ofTables buyers) "users" ↔
          key ∈ allOrders.unjoined.shown [] (.ofTables buyers) "users") ∧
        (key ∈ usersGone.written [] (.ofTables buyers) "users" ↔
          key ∈ allOrders.shown [] (.ofTables buyers) "users") := by
  have hr : ∀ o ∈ withOrders .leftJoin orderBuyer [], o.keyword.isRefining = true := by decide
  have hp : ofScheme [] (⟨.delete, []⟩ :: withOrders .leftJoin orderBuyer []) = .ok usersGone := rfl
  have hs : ofScheme [] (⟨.select, [.value (.string "*")]⟩ :: withOrders .leftJoin orderBuyer []) =
    .ok allOrders := rfl
  refine ⟨hp, hs, rfl, fun key => ?_⟩
  obtain ⟨q, hq, h⟩ := written_iff_shown (.deletion hr) hp rfl
  obtain rfl : allOrders = q := Except.ok.inj (hs.symm.trans hq)
  obtain ⟨hu, -, hl⟩ := h [] (.ofTables buyers) key
  have hj : ∀ j ∈ allOrders.joins, j.kind = .left := by decide
  exact ⟨hu (fun l h => nomatch h), hl hj rfl rfl ⟨_, _, rfl⟩⟩

def writtenBy (s : Store) (clauses : Scheme) : Option (List String) :=
  (ofScheme [] (⟨.delete, []⟩ :: clauses)).toOption.map (·.written [] s "users")

def shownBy (s : Store) (clauses : Scheme) : Option (List String) :=
  (ofScheme [] (⟨.select, [.value (.string "*")]⟩ :: clauses)).toOption.map (·.shown [] s "users")

lemma shownBy_of_ofScheme {clauses : Scheme}
    (h : ofScheme [] (⟨.select, [.value (.string "*")]⟩ :: clauses) = .ok q) :
    shownBy s clauses = some (q.shown [] s "users") := by
  rw [shownBy, h]
  rfl

def firstByName : Plan :=
  { allUsers with orderBy := [⟨userName, .ascending⟩], limit := some ⟨1, none⟩ }

def user (key name : String) : Row := .ofValue (.named "users") key (.object [("name", .string name)])

def firstTwoOrders : Plan := { allOrders with limit := some ⟨2, none⟩ }

lemma shown_firstByName : firstByName.shown [] (.ofTables buyers) "users" = ["u2"] := by
  have hq : firstByName.Plain := ⟨rfl, rfl, rfl, rfl, rfl⟩
  have ho : "users" ∉ (Store.ofTables buyers).offline := List.not_mem_nil
  have ha : Select.arrange [] firstByName [user "u1" "ann", user "u2" "ada"] = [user "u2" "ada"] := by
    have hlt : (Rows.compare firstByName.orderBy (user "u1" "ann") (user "u2" "ada")).isLE = false := by
      decide +kernel
    rw [Select.arrange_plain hq, Rows.order_pair, hlt]
    rfl
  refine (shown_of_single (t := .named "users") rfl ho rfl hq).trans ?_
  change (Select.arrange [] firstByName [user "u1" "ann", user "u2" "ada"]).map Row.key = ["u2"]
  rw [ha]
  rfl

lemma shown_firstTwoOrders : firstTwoOrders.shown [] (.ofTables buyers) "users" = ["u1", "u1"] := by
  have hq : firstTwoOrders.Plain := ⟨rfl, rfl, rfl, rfl, rfl⟩
  have ho : "users" ∉ (Store.ofTables buyers).offline := List.not_mem_nil
  refine (shown_of_joins (t := .named "users") rfl ho rfl hq).trans ?_
  rw [Select.keys_displayed_of_unordered hq rfl]
  decide +kernel

/-- Where an order and a limit, an inner join, a condition on a joined column, a join with a limit or a joined
table that cannot be read make a difference. -/
theorem written_not_shown :
    (writtenBy (.ofTables buyers) (ofUsers [⟨.orderBy, [.column userName]⟩, ⟨.limit, [.value (.int 1)]⟩]) =
        some ["u1"] ∧
      shownBy (.ofTables buyers) (ofUsers [⟨.orderBy, [.column userName]⟩, ⟨.limit, [.value (.int 1)]⟩]) =
        some ["u2"]) ∧
    (writtenBy (.ofTables buyers) (withOrders .join orderMark []) = some ["u1", "u2"] ∧
      shownBy (.ofTables buyers) (withOrders .join orderMark []) = some []) ∧
    (writtenBy (.ofTables buyers) (withOrders .leftJoin orderBuyer
        [⟨.whereKeys, [.column orderMark]⟩, ⟨.eq, [.value (.string "x")]⟩]) = some ["u1", "u2"] ∧
      shownBy (.ofTables buyers) (withOrders .leftJoin orderBuyer
        [⟨.whereKeys, [.column orderMark]⟩, ⟨.eq, [.value (.string "x")]⟩]) = some ["u1"]) ∧
    (writtenBy (.ofTables buyers) (withOrders .leftJoin orderBuyer [⟨.limit, [.value (.int 2)]⟩]) =
        some ["u1", "u2"] ∧
      shownBy (.ofTables buyers) (withOrders .leftJoin orderBuyer [⟨.limit, [.value (.int 2)]⟩]) =
        some ["u1", "u1"]) ∧
    (writtenBy { Store.ofTables buyers with offline := ["orders"] } (withOrders .leftJoin orderBuyer []) =
        some ["u1", "u2"] ∧
      shownBy { Store.ofTables buyers with offline := ["orders"] } (withOrders .leftJoin orderBuyer []) =
        some []) := by
  refine ⟨⟨by decide +kernel, ?_⟩, ⟨by decide +kernel, by decide +kernel⟩,
    ⟨by decide +kernel, by decide +kernel⟩, ⟨by decide +kernel, ?_⟩, ⟨by decide +kernel, by decide +kernel⟩⟩
  · exact (shownBy_of_ofScheme rfl).trans (congrArg some shown_firstByName)
  · exact (shownBy_of_ofScheme rfl).trans (congrArg some shown_firstTwoOrders)

end Plan

end DocQuery
