import DocQuery.Proofs.Naming
import DocQuery.Proofs.Plan.Building

/-! Tables, joins, limit, order and groups as they are spelled in a scheme. Whatever order the clauses come in, as long
as the joins keep theirs, the plan has what they were written for. -/

namespace DocQuery

def JoinKind.keyword : JoinKind → Keyword
  | inner => .join
  | left => .leftJoin
  | right => .rightJoin
  | full => .fullJoin

structure JoinClause where
  kind : JoinKind
  own : QualifiedColumn
  other : QualifiedColumn

def JoinClause.join (j : JoinClause) : Join := ⟨j.kind, j.own.column, j.other.column⟩

/-- What a plan reads, and how it is arranged. The numbers of a limit are words of 64 bits, and no table is joined to
itself. -/
structure Layout where
  tables : List NamedTable
  joins : List JoinClause
  limit : Option Limit
  orderBy : List DirectedColumn
  groupBy : List DirectedColumn
  words : ∀ l ∈ limit, isInt64 l.start = true ∧ ∀ n ∈ l.count, isInt64 n = true
  apart : ∀ t ∈ tables.head?, ∀ j ∈ joins, t.name.text ≠ j.other.table.text

inductive Block where
  | join (j : JoinClause)
  | limit (l : Limit)
  | orderBy (keys : List DirectedColumn)
  | groupBy (keys : List DirectedColumn)

def Layout.blocks (l : Layout) : List Block :=
  l.joins.map .join ++ l.limit.toList.map .limit ++ [.orderBy l.orderBy, .groupBy l.groupBy]

def Arg.text (s : String) : Arg := .value (.string s)

def Arg.number (n : Int) : Arg := .value (.int n)

def Scheme.listed {α : Type} (keyword : Keyword) (written : α → String) : List α → Scheme
  | [] => []
  | as => [⟨keyword, as.map fun a => .text (written a)⟩]

namespace Block

def operations : Block → Scheme
  | join j => [⟨j.kind.keyword, [.text j.other.written]⟩, ⟨.onColumn, [.text j.own.written]⟩]
  | limit l => [⟨.limit, .number l.start :: l.count.toList.map .number⟩]
  | orderBy keys => .listed .orderBy DirectedColumn.written keys
  | groupBy keys => .listed .groupBy DirectedColumn.written keys

def join? : Block → Option JoinClause
  | join j => some j
  | _ => none

def limit? : Block → Option (Option Limit)
  | limit l => some (some l)
  | _ => none

def sortKeys? : List DirectedColumn → Option (List SortKey)
  | [] => none
  | keys => some (keys.map DirectedColumn.sortKey)

def orderBy? : Block → Option (List SortKey)
  | orderBy keys => sortKeys? keys
  | _ => none

def groupBy? : Block → Option (List SortKey)
  | groupBy keys => sortKeys? keys
  | _ => none

def add (p : Plan) : Block → Plan
  | join j => { p with joins := p.joins ++ [j.join] }
  | limit l => { p with limit := some l }
  | orderBy keys => { p with orderBy := (sortKeys? keys).getD p.orderBy }
  | groupBy keys => { p with groupBy := (sortKeys? keys).getD p.groupBy }

lemma tables_foldl (blocks : List Block) (p : Plan) : (blocks.foldl add p).tables = p.tables := by
  induction blocks generalizing p with
  | nil => rfl
  | cons x blocks ih =>
    rw [List.foldl_cons, ih]
    cases x <;> rfl

lemma joins_foldl (blocks : List Block) (p : Plan) :
    (blocks.foldl add p).joins = p.joins ++ (blocks.filterMap join?).map JoinClause.join := by
  induction blocks generalizing p with
  | nil => exact (List.append_nil _).symm
  | cons x blocks ih =>
    rw [List.foldl_cons, ih]
    cases x with
    | join j => exact List.append_assoc _ _ _
    | _ => rfl

lemma setting_foldl {α : Type} {f : Plan → α} {get? : Block → Option α}
    (h : ∀ p x, f (add p x) = (get? x).getD (f p)) (blocks : List Block) (p : Plan) :
    f (blocks.foldl add p) = (blocks.filterMap get?).getLast?.getD (f p) := by
  induction blocks generalizing p with
  | nil => rfl
  | cons x blocks ih =>
    rw [List.foldl_cons, ih, h]
    cases hx : get? x with
    | none => rw [List.filterMap_cons_none hx, Option.getD_none]
    | some a => rw [List.filterMap_cons_some hx, List.getLast?_cons, Option.getD_some, Option.getD_some]

lemma setting_of_perm {α : Type} {f : Plan → α} {get? : Block → Option α}
    (h : ∀ p x, f (add p x) = (get? x).getD (f p)) {blocks blocks' : List Block} (hb : blocks.Perm blocks')
    {a : Option α} (ha : blocks'.filterMap get? = a.toList) (p : Plan) : f (blocks.foldl add p) = a.getD (f p) := by
  have hp := hb.filterMap get?
  rw [ha] at hp
  rw [setting_foldl h]
  cases a with
  | none => rw [List.perm_nil.mp hp]; rfl
  | some a => rw [List.perm_singleton.mp hp]; rfl

lemma limit_add (p : Plan) (x : Block) : (add p x).limit = x.limit?.getD p.limit := by cases x <;> rfl

lemma orderBy_add (p : Plan) (x : Block) : (add p x).orderBy = x.orderBy?.getD p.orderBy := by cases x <;> rfl

lemma groupBy_add (p : Plan) (x : Block) : (add p x).groupBy = x.groupBy?.getD p.groupBy := by cases x <;> rfl

lemma getD_sortKeys? (keys : List DirectedColumn) : (sortKeys? keys).getD [] = keys.map DirectedColumn.sortKey := by
  cases keys <;> rfl

end Block

namespace Builder

variable {rs : Results} {b : Builder}

lemma columnOf_written (keyword : Keyword) (c : QualifiedColumn) :
    columnOf keyword (.text c.written) = pure c.column := by
  rw [columnOf, Arg.text, Arg.column?, c.read_written]
  rfl

lemma tableOf_written (keyword : Keyword) (t : NamedTable) : tableOf keyword (.text t.written) = pure t.table := by
  rw [Arg.text, tableOf, t.read_written]

lemma sortKeyOf_written (table : Option Table) (k : DirectedColumn) :
    sortKeyOf table (.text k.written) = pure k.sortKey := by
  rw [Arg.text, sortKeyOf, k.words_written]
  dsimp only
  rw [String.ofList_toList, String.ofList_toList, k.column.read_written, k.direction.read_written]
  rfl

lemma joinTarget_written (c : QualifiedColumn) :
    joinTarget (.text c.written) = pure (.named c.table.text, some c.column) := by
  have ho : Text.occursIn " AS ".toList c.written.toList = false := Text.occursIn_solid c.solid_written (by decide) _
  rw [Arg.text, joinTarget, c.read_written, ho]
  rfl

lemma setTables_written (keyword : Keyword) (ts : List NamedTable) :
    setTables keyword (ts.map fun t => .text t.written) =
      modifyPlan fun p => { p with tables := ts.map NamedTable.table } := by
  have h : tableOf keyword ∘ (fun t => Arg.text t.written) = fun t => pure (NamedTable.table t) :=
    funext (tableOf_written keyword)
  rw [setTables, List.mapM_map, h, List.mapM_pure, pure_bind]

lemma run_sortKeys_written (keys : List DirectedColumn) (b : Builder) :
    (sortKeys (keys.map fun k => .text k.written)).run b = (.ok (keys.map DirectedColumn.sortKey), b) := by
  have h : sortKeyOf b.plan.primary? ∘ (fun k => Arg.text k.written) = fun k => pure (DirectedColumn.sortKey k) :=
    funext (sortKeyOf_written b.plan.primary?)
  rw [sortKeys, run_bind_of_ok (m := primary) rfl, List.mapM_map, h, List.mapM_pure]
  rfl

lemma limitNumber?_number {n : Int} (h : isInt64 n = true) : Plan.limitNumber? (.number n) = some n :=
  congrArg some (if_pos h)

lemma checkLimit_written {l : Limit} (hs : isInt64 l.start = true) (hn : ∀ n ∈ l.count, isInt64 n = true) :
    Plan.check .limit (.number l.start :: l.count.toList.map .number) = .ok () := by
  obtain ⟨start, _ | n⟩ := l
  · simp [Plan.check, Plan.checkLimit, limitNumber?_number hs]
  · simp [Plan.check, Plan.checkLimit, limitNumber?_number hs, limitNumber?_number (hn n rfl)]

lemma setLimit_written {l : Limit} (hs : isInt64 l.start = true) (hn : ∀ n ∈ l.count, isInt64 n = true) :
    setLimit (.number l.start :: l.count.toList.map .number) = modifyPlan fun p => { p with limit := some l } := by
  obtain ⟨start, _ | n⟩ := l
  · simp [setLimit, limitNumber?_number hs]
  · simp [setLimit, limitNumber?_number hs, limitNumber?_number (hn n rfl)]

lemma run_limit_written {l : Limit} (hs : isInt64 l.start = true) (hn : ∀ n ∈ l.count, isInt64 n = true) :
    (apply rs ⟨.limit, .number l.start :: l.count.toList.map .number⟩).run b = (.ok (), { b with
      plan := { b.plan with limit := some l }, history := .limit :: b.history }) := by
  have hp : (perform rs .limit (.number l.start :: l.count.toList.map .number)).run b =
      (.ok (), { b with plan := { b.plan with limit := some l } }) := by
    rw [perform, setLimit_written hs hn]
    rfl
  exact run_apply (checkLimit_written hs hn) hp rfl

lemma openJoin_written (hb : b.pending = none) (kind : JoinKind) {c : QualifiedColumn}
    (hc : ∀ t ∈ b.plan.primary?, t.name ≠ c.table.text) :
    (openJoin kind.keyword [.text c.written]).run b =
      (.ok (), { b with pending := some ⟨kind, .named c.table.text, some c.column⟩ }) := by
  have hkind : kind.keyword.joinKind? = some kind := by cases kind <;> rfl
  have hp : ¬ b.plan.primary?.any (·.name == (Table.named c.table.text).name) = true := by
    cases ht : b.plan.primary? with
    | none => simp
    | some t => simpa [Table.named] using hc t ht
  rw [openJoin, hkind]
  dsimp only
  rw [run_bind_of_ok (m := get) rfl, hb]
  dsimp only [List.getLast?_singleton, Option.getD_some]
  rw [joinTarget_written, pure_bind]
  dsimp only
  rw [run_bind_of_ok (m := primary) rfl, if_neg hp]
  rfl

lemma run_openJoin_written (hb : b.pending = none) (kind : JoinKind) {c : QualifiedColumn}
    (hc : ∀ t ∈ b.plan.primary?, t.name ≠ c.table.text) :
    (apply rs ⟨kind.keyword, [.text c.written]⟩).run b = (.ok (), { b with
      pending := some ⟨kind, .named c.table.text, some c.column⟩, history := kind.keyword :: b.history }) := by
  have hp : perform rs kind.keyword [.text c.written] = openJoin kind.keyword [.text c.written] := by
    cases kind <;> rfl
  have hcheck : Plan.check kind.keyword [.text c.written] = .ok () := by cases kind <;> rfl
  have hn : kind.keyword.isCommand = false := by cases kind <;> rfl
  exact run_apply hcheck (hp ▸ openJoin_written hb kind hc) hn

lemma closeJoin_written {kind : JoinKind} {own other : QualifiedColumn}
    (hb : b.pending = some ⟨kind, .named other.table.text, some other.column⟩) :
    (perform rs .onColumn [.text own.written]).run b = (.ok (), { b with
      plan := { b.plan with joins := b.plan.joins ++ [⟨kind, own.column, other.column⟩] }, pending := none }) := by
  rw [perform, closeJoin, run_bind_of_ok (m := get) rfl, hb]
  dsimp only
  rw [run_bind_of_ok (m := modify _) rfl]
  dsimp only [List.getLast?_singleton]
  rw [columnOf_written, pure_bind]
  rfl

lemma run_closeJoin_written {kind : JoinKind} {own other : QualifiedColumn}
    (hb : b.pending = some ⟨kind, .named other.table.text, some other.column⟩) :
    (apply rs ⟨.onColumn, [.text own.written]⟩).run b = (.ok (), { b with
      plan := { b.plan with joins := b.plan.joins ++ [⟨kind, own.column, other.column⟩] }
      history := .onColumn :: b.history, pending := none }) :=
  run_apply rfl (closeJoin_written hb) rfl

lemma run_block (rs : Results) {x : Block} (hb : b.pending = none) (hl : ∀ l, x = .limit l → isInt64 l.start = true ∧
    ∀ n ∈ l.count, isInt64 n = true) (hj : ∀ j, x = .join j → ∀ t ∈ b.plan.primary?, t.name ≠ j.other.table.text) :
    ∃ b', (x.operations.forM (apply rs)).run b = (.ok (), b') ∧ b'.pending = none ∧ b'.plan = x.add b.plan := by
  cases x with
  | join j =>
    exact ⟨_, (run_forM_cons (run_openJoin_written hb j.kind (hj j rfl)) _).trans
      (run_forM_cons (run_closeJoin_written rfl) []), rfl, rfl⟩
  | limit l =>
    obtain ⟨hs, hn⟩ := hl l rfl
    exact ⟨_, run_forM_cons (run_limit_written hs hn) [], hb, rfl⟩
  | orderBy keys =>
    cases keys with
    | nil => exact ⟨b, rfl, hb, rfl⟩
    | cons k keys =>
      have hp : (perform rs .orderBy ((k :: keys).map fun k => .text k.written)).run b = (.ok (), _) :=
        run_bind_of_ok (run_sortKeys_written (k :: keys) b) _
      exact ⟨_, run_forM_cons (run_apply rfl hp rfl) [], hb, rfl⟩
  | groupBy keys =>
    cases keys with
    | nil => exact ⟨b, rfl, hb, rfl⟩
    | cons k keys =>
      have hp : (perform rs .groupBy ((k :: keys).map fun k => .text k.written)).run b = (.ok (), _) :=
        run_bind_of_ok (run_sortKeys_written (k :: keys) b) _
      exact ⟨_, run_forM_cons (run_apply rfl hp rfl) [], hb, rfl⟩

lemma run_blocks (rs : Results) {blocks : List Block} (hb : b.pending = none)
    (hl : ∀ l, Block.limit l ∈ blocks → isInt64 l.start = true ∧ ∀ n ∈ l.count, isInt64 n = true)
    (hj : ∀ j, Block.join j ∈ blocks → ∀ t ∈ b.plan.primary?, t.name ≠ j.other.table.text) :
    ∃ b', ((blocks.flatMap Block.operations).forM (apply rs)).run b = (.ok (), b') ∧ b'.pending = none ∧
      b'.plan = blocks.foldl Block.add b.plan := by
  induction blocks generalizing b with
  | nil => exact ⟨b, rfl, hb, rfl⟩
  | cons x blocks ih =>
    obtain ⟨b₁, hr₁, hb₁, hp₁⟩ := run_block rs hb (fun l (hx : x = _) => hl l (hx ▸ List.mem_cons_self))
      fun j hx => hj j (hx ▸ List.mem_cons_self)
    have ht : b₁.plan.primary? = b.plan.primary? := by
      rw [hp₁]
      exact congrArg List.head? (Block.tables_foldl [x] b.plan)
    obtain ⟨b₂, hr₂, hb₂, hp₂⟩ := ih hb₁ (fun l hm => hl l (List.mem_cons_of_mem _ hm)) fun j hm => by
      rw [ht]
      exact hj j (List.mem_cons_of_mem _ hm)
    refine ⟨b₂, (run_forM_append hr₁ _).trans hr₂, hb₂, ?_⟩
    rw [hp₂, hp₁, List.foldl_cons]

lemma run_from (rs : Results) (ht : b.plan.tables = []) (ts : List NamedTable) :
    ∃ b', ((Scheme.listed .fromTables NamedTable.written ts).forM (apply rs)).run b = (.ok (), b') ∧
      b'.pending = b.pending ∧ b'.plan = { b.plan with tables := ts.map NamedTable.table } := by
  cases ts with
  | nil => exact ⟨b, rfl, rfl, by rw [List.map_nil, ← ht]⟩
  | cons t ts =>
    have hp : (perform rs .fromTables ((t :: ts).map fun t => .text t.written)).run b =
        (.ok (), { b with plan := { b.plan with tables := (t :: ts).map NamedTable.table } }) := by
      rw [perform, setTables_written]
      rfl
    exact ⟨_, run_forM_cons (run_apply rfl hp rfl) [], rfl, rfl⟩

def arrangement (b : Builder) : List Table × List Join × Option Limit × List SortKey × List SortKey :=
  (b.plan.tables, b.plan.joins, b.plan.limit, b.plan.orderBy, b.plan.groupBy)

lemma keeps_select (rs : Results) (args : List Arg) : Keeps arrangement (apply rs ⟨.select, args⟩) :=
  .bind (.lift _) fun _ => .bind (keeps_selectColumns (fun _ _ _ => rfl) [] [] args) fun _ =>
    .bind (keeps_modifyPlan fun _ => rfl) fun _ => .update fun _ => rfl

lemma run_select {args : List Arg} {q : Plan} (hs : Plan.ofScheme rs [⟨.select, args⟩] = .ok q) :
    ∃ b, (apply rs ⟨.select, args⟩).run empty = (.ok (), b) ∧ b.pending = none ∧ b.plan.tables = [] ∧
      b.plan.joins = [] ∧ b.plan.limit = none ∧ b.plan.orderBy = [] ∧ b.plan.groupBy = [] := by
  obtain ⟨b, hr, hp, _⟩ := Plan.ofScheme_eq_ok hs
  obtain ⟨_, b', hr', hb⟩ := run_bind_eq_ok hr
  obtain rfl : b' = b := congrArg Prod.snd hb
  have hk := keeps_select rs args empty
  rw [hr'] at hk
  simp only [arrangement, Prod.mk.injEq] at hk
  exact ⟨b', hr', hp, hk⟩

end Builder

namespace Layout

variable {l : Layout} {blocks : List Block}

lemma join_mem_blocks {j : JoinClause} : .join j ∈ l.blocks ↔ j ∈ l.joins := by simp [Layout.blocks]

lemma limit_mem_blocks {n : Limit} : .limit n ∈ l.blocks ↔ n ∈ l.limit := by simp [Layout.blocks]

lemma filterMap_blocks {α : Type} {get? : Block → Option α} (hj : ∀ j, get? (.join j) = none) :
    l.blocks.filterMap get? = (l.limit.bind (get? ∘ .limit)).toList ++
      ((get? (.orderBy l.orderBy)).toList ++ (get? (.groupBy l.groupBy)).toList) := by
  have hjoins : l.joins.filterMap (get? ∘ .join) = [] := List.filterMap_eq_nil_iff.mpr fun j _ => hj j
  rw [blocks, List.filterMap_append, List.filterMap_append, List.filterMap_map, List.filterMap_map, hjoins]
  congr 1
  · cases l.limit with
    | none => rfl
    | some n => cases h : get? (.limit n) <;> simp [h]
  · cases h : get? (.orderBy l.orderBy) <;> cases h' : get? (.groupBy l.groupBy) <;> simp [h, h']

lemma filterMap_limit : l.blocks.filterMap Block.limit? = (l.limit.map some).toList := by
  rw [filterMap_blocks fun _ => rfl]
  cases l.limit <;> rfl

lemma filterMap_orderBy : l.blocks.filterMap Block.orderBy? = (Block.sortKeys? l.orderBy).toList := by
  rw [filterMap_blocks fun _ => rfl]
  cases l.limit <;> exact List.append_nil _

lemma filterMap_groupBy : l.blocks.filterMap Block.groupBy? = (Block.sortKeys? l.groupBy).toList := by
  rw [filterMap_blocks fun _ => rfl]
  cases l.limit <;> rfl

lemma foldl_blocks {p : Plan} (hb : blocks.Perm l.blocks) (hj : blocks.filterMap Block.join? = l.joins)
    (hp : p.joins = [] ∧ p.limit = none ∧ p.orderBy = [] ∧ p.groupBy = []) :
    (blocks.foldl Block.add p).joins = l.joins.map JoinClause.join ∧
      (blocks.foldl Block.add p).limit = l.limit ∧
      (blocks.foldl Block.add p).orderBy = l.orderBy.map DirectedColumn.sortKey ∧
      (blocks.foldl Block.add p).groupBy = l.groupBy.map DirectedColumn.sortKey := by
  obtain ⟨hjoins, hlimit, horder, hgroup⟩ := hp
  refine ⟨?_, ?_, ?_, ?_⟩
  · rw [Block.joins_foldl, hj, hjoins, List.nil_append]
  · rw [Block.setting_of_perm Block.limit_add hb filterMap_limit, hlimit]
    cases l.limit <;> rfl
  · rw [Block.setting_of_perm Block.orderBy_add hb filterMap_orderBy, horder, Block.getD_sortKeys?]
  · rw [Block.setting_of_perm Block.groupBy_add hb filterMap_groupBy, hgroup, Block.getD_sortKeys?]

end Layout

namespace Plan

theorem ofScheme_layout (rs : Results) (l : Layout) {args : List Arg} {q : Plan}
    (hs : ofScheme rs [⟨.select, args⟩] = .ok q) {blocks : List Block} (hb : blocks.Perm l.blocks)
    (hj : blocks.filterMap Block.join? = l.joins) :
    ∃ p, ofScheme rs (⟨.select, args⟩ :: (Scheme.listed .fromTables NamedTable.written l.tables ++
        blocks.flatMap Block.operations)) = .ok p ∧
      p.tables = l.tables.map NamedTable.table ∧ p.joins = l.joins.map JoinClause.join ∧ p.limit = l.limit ∧
      p.orderBy = l.orderBy.map DirectedColumn.sortKey ∧ p.groupBy = l.groupBy.map DirectedColumn.sortKey := by
  obtain ⟨b₁, hr₁, hp₁, ht, hb₁⟩ := Builder.run_select hs
  obtain ⟨b₂, hr₂, hp₂, hplan₂⟩ := Builder.run_from rs ht l.tables
  have hprimary : b₂.plan.primary? = l.tables.head?.map NamedTable.table := by
    rw [primary?, hplan₂, List.head?_map]
  obtain ⟨b₃, hr₃, hp₃, hplan₃⟩ := Builder.run_blocks rs (hp₂.trans hp₁)
    (fun n (hm : _ ∈ blocks) => l.words n (Layout.limit_mem_blocks.mp (hb.mem_iff.mp hm))) fun j hm t ht => by
      rw [hprimary] at ht
      obtain ⟨t, hh, rfl⟩ := Option.map_eq_some_iff.mp ht
      exact l.apart t hh j (Layout.join_mem_blocks.mp (hb.mem_iff.mp hm))
  have hrun := (run_forM_cons hr₁ _).trans ((run_forM_append hr₂ _).trans hr₃)
  have htables : b₃.plan.tables = l.tables.map NamedTable.table := by rw [hplan₃, Block.tables_foldl, hplan₂]
  have harranged := Layout.foldl_blocks (p := b₂.plan) hb hj (hplan₂ ▸ hb₁)
  rw [← hplan₃] at harranged
  exact ⟨_, ofScheme_of_run hrun hp₃, htables, harranged⟩

def pageOfUsers : Layout :=
  let users : PlainName := ⟨"users", by decide, by decide, by decide⟩
  let orders : PlainName := ⟨"orders", by decide, by decide, by decide⟩
  let shops : PlainName := ⟨"shops", by decide, by decide, by decide⟩
  let key : PlainName := ⟨"id", by decide, by decide, by decide⟩
  let user : PlainName := ⟨"user", by decide, by decide, by decide⟩
  { tables := [⟨users, some ⟨"u", by decide, by decide, by decide⟩⟩]
    joins := [⟨.left, ⟨users, key⟩, ⟨orders, user⟩⟩, ⟨.inner, ⟨orders, key⟩, ⟨shops, key⟩⟩]
    limit := some ⟨-9223372036854775808, some 12⟩
    orderBy := [⟨⟨orders, user⟩, .descending⟩, ⟨⟨users, key⟩, .ascending⟩]
    groupBy := []
    words := by decide
    apart := by decide }

theorem ofScheme_pageOfUsers : ∃ p, ofScheme [] [⟨.select, []⟩, ⟨.fromTables, [.text "users AS u"]⟩,
      ⟨.orderBy, [.text "orders.user DESC", .text "users.id ASC"]⟩,
      ⟨.leftJoin, [.text "orders.user"]⟩, ⟨.onColumn, [.text "users.id"]⟩,
      ⟨.limit, [.number (-9223372036854775808), .number 12]⟩,
      ⟨.join, [.text "shops.id"]⟩, ⟨.onColumn, [.text "orders.id"]⟩] = .ok p ∧
    p.tables = [⟨"users", some "u"⟩] ∧
    p.joins = [⟨.left, .ofTable (.named "users") "id", .ofTable (.named "orders") "user"⟩,
      ⟨.inner, .ofTable (.named "orders") "id", .ofTable (.named "shops") "id"⟩] ∧
    p.limit = some ⟨-9223372036854775808, some 12⟩ ∧
    p.orderBy = [⟨.ofTable (.named "orders") "user", .descending⟩, ⟨.ofTable (.named "users") "id", .ascending⟩] ∧
    p.groupBy = [] :=
  @ofScheme_layout [] pageOfUsers [] _ rfl
    [.orderBy pageOfUsers.orderBy, .join pageOfUsers.joins[0], .limit ⟨-9223372036854775808, some 12⟩,
      .join pageOfUsers.joins[1], .groupBy []]
    ((@List.perm_middle _ _ [_, _, _] [_]).symm.trans (.cons _ (.swap ..))) rfl

end Plan

end DocQuery
