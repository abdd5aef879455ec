import DocQuery.Proofs.Plan.Building
import DocQuery.Proofs.Plan.Keychains
import Mathlib.Tactic.Tauto

/-! Where the columns of conditions, of the order and of groups come from, and which table they are of. Each is named
by an operation of the scheme, and is of the first table set before that operation unless it names one itself. -/

namespace DocQuery

namespace Keyword

def setsTables : Keyword → Bool
  | update | fromTables | toTables => true
  | _ => false

def sorts : Keyword → Bool
  | orderBy | groupBy => true
  | _ => false

end Keyword

namespace Operation

def primary? (o : Operation) : Option Table := if o.keyword.setsTables then o.args.head?.bind Arg.table? else none

def namedColumns (o : Operation) : List Column :=
  match o.keyword with
  | .whereKeys | .havingKeys => Arg.keyColumnsOfAll o.args
  | .orderBy | .groupBy => o.args.filterMap Arg.sortColumn?
  | _ => []

end Operation

def Plan.usedColumns (p : Plan) : List Column :=
  p.conditions.columns ++ p.having.columns ++ p.orderBy.map SortKey.column ++ p.groupBy.map SortKey.column

namespace Builder

variable {rs : Results} {b b' : Builder} {keyword : Keyword} {args : List Arg}

def usedColumns (b : Builder) : List Column := Key.columnsOfAll b.keychain ++ b.plan.usedColumns

lemma usedColumns_setTarget (b : Builder) (ts : List Token) :
    (b.setTarget (b.target.append ts)).usedColumns ⊆ b.usedColumns ++ ts.filterMap Token.column? := by
  rw [setTarget, target]
  cases b.clause with
  | whereKeys =>
    intro c
    simp only [usedColumns, Plan.usedColumns, Conditions.columns_append, List.mem_append]
    tauto
  | havingKeys =>
    intro c
    simp only [usedColumns, Plan.usedColumns, Conditions.columns_append, List.mem_append]
    tauto

lemma usedColumns_pushToken {t : Token} (ht : t.column? = none) (h : (pushToken t).run b = (.ok (), b')) :
    b'.usedColumns ⊆ b.usedColumns := by
  cases h
  have hs := b.usedColumns_setTarget [t]
  rwa [List.filterMap_cons_none ht, List.filterMap_nil, List.append_nil] at hs

lemma usedColumns_pushExpression {e : Option Expression} (h : (pushExpression rs e).run b = (.ok (), b')) :
    b'.usedColumns ⊆ b.usedColumns ++ Expression.columnsOfAll e.toList := by
  obtain ⟨ts, hts, rfl⟩ := pushExpression_eq_ok h
  have hs := b.usedColumns_setTarget ts
  cases e with
  | none =>
    cases hts
    exact hs
  | some e => rwa [Expression.column?_tokens hts, ← List.append_nil e.columns] at hs

lemma usedColumns_pushLeaves {leaf : Nat → Column → Except Error Expression} (hl : Keychain.Faithful leaf)
    {keys : List Key} (h : (pushLeaves rs keys leaf).run b = (.ok (), b')) :
    b'.usedColumns ⊆ b.usedColumns ++ Key.columnsOfAll keys := by
  obtain ⟨e, hx, hp⟩ := run_pushLeaves_eq_ok h
  exact List.Subset.trans (usedColumns_pushExpression hp) (List.append_subset.mpr ⟨List.subset_append_left _ _,
    List.subset_append_of_subset_right _ (Keychain.columns_expression? hl hx)⟩)

lemma usedColumns_keychain {leaf : Nat → Column → Except Error Expression} (hl : Keychain.Faithful leaf)
    (h : (pushLeaves rs b.keychain leaf).run b = (.ok (), b')) : b'.usedColumns ⊆ b.usedColumns :=
  List.Subset.trans (usedColumns_pushLeaves hl h)
    (List.append_subset.mpr ⟨List.Subset.refl _, List.subset_append_left _ _⟩)

lemma usedColumns_comparison {next : List Key → List Operand → Building Unit}
    (hn : ∀ operands, (next b.keychain operands).run b = (.ok (), b') → b'.usedColumns ⊆ b.usedColumns)
    (h : (requireKeys keyword >>= fun keys => operandsOf args >>= next keys).run b = (.ok (), b')) :
    b'.usedColumns ⊆ b.usedColumns := by
  obtain ⟨operands, -, hp⟩ := run_comparison_eq_ok h
  exact hn operands hp

lemma usedColumns_openKeys {clause : Clause} (h : (openKeys clause args).run b = (.ok (), b')) :
    b'.usedColumns ⊆ b.usedColumns ++ (Arg.keyColumnsOfAll args).map (·.inTable b.plan.primary?) := by
  obtain ⟨keys, keychain, hkeys, hkeychain, rfl⟩ := run_openKeys_eq_ok_iff.mp h
  rw [← Key.columns_ofArgs hkeys]
  intro c
  split at hkeychain
  · simp only [usedColumns, columnsOfAll_extendLast hkeychain, List.mem_append]
    tauto
  · cases hkeychain
    simp only [usedColumns, List.mem_append]
    tauto

lemma usedColumns_connect {connective : Connective} (h : (connect connective).run b = (.ok (), b')) :
    b'.usedColumns ⊆ b.usedColumns := by
  rw [connect_eq] at h
  split at h
  · cases h
    have hk : Key.columnsOfAll (b.keychain ++ [Key.scope connective []]) = Key.columnsOfAll b.keychain := by
      rw [Key.columnsOfAll_append]
      exact List.append_nil _
    rw [usedColumns, hk]
    exact List.Subset.refl _
  · exact usedColumns_pushToken (Token.column?_ofConnective connective) h

lemma column_sortKeyOf {table : Option Table} {a : Arg} {k : SortKey} (h : sortKeyOf table a = .ok k) :
    a.sortColumn?.map (·.inTable table) = some k.column := by
  cases a with
  | value v =>
    cases v with
    | string s =>
      rw [sortKeyOf] at h
      split at h
      · next hw =>
        cases h
        simp [Arg.sortColumn?, Value.string?, hw]
      · next hw =>
        cases h
        simp [Arg.sortColumn?, Value.string?, hw]
      · cases h
    | _ => cases h
  | column c =>
    cases h
    rfl
  | _ => cases h

lemma columns_mapM_sortKeyOf {table : Option Table} {keys : List SortKey}
    (h : args.mapM (m := Except Error) (sortKeyOf table) = .ok keys) :
    keys.map SortKey.column = (args.filterMap Arg.sortColumn?).map (·.inTable table) := by
  induction args generalizing keys with
  | nil =>
    cases h
    rfl
  | cons a args ih =>
    rw [List.mapM_cons] at h
    obtain ⟨k, hk, h⟩ := Except.bind_eq_ok h
    obtain ⟨ks, hks, h⟩ := Except.bind_eq_ok h
    cases h
    obtain ⟨c, hc, hkc⟩ := Option.map_eq_some_iff.mp (column_sortKeyOf hk)
    rw [List.map_cons, ih hks, List.filterMap_cons_some hc, List.map_cons, hkc]

lemma sortKeys_eq_ok {keys : List SortKey} (h : (sortKeys args).run b = (.ok keys, b')) :
    keys.map SortKey.column = (args.filterMap Arg.sortColumn?).map (·.inTable b.plan.primary?) ∧ b = b' := by
  obtain ⟨hk, hb⟩ := run_lift_eq_ok (x := args.mapM (m := Except Error) (sortKeyOf b.plan.primary?)) h
  exact ⟨columns_mapM_sortKeyOf hk, hb⟩

lemma usedColumns_sorting {f : List SortKey → Plan → Plan}
    (hf : ∀ keys p, (f keys p).usedColumns ⊆ p.usedColumns ++ keys.map SortKey.column)
    (h : (sortKeys args >>= fun keys => modifyPlan (f keys)).run b = (.ok (), b')) :
    b'.usedColumns ⊆ b.usedColumns ++ (args.filterMap Arg.sortColumn?).map (·.inTable b.plan.primary?) := by
  obtain ⟨keys, u, hk, h⟩ := run_bind_eq_ok h
  obtain ⟨hkeys, rfl⟩ := sortKeys_eq_ok hk
  cases h
  rw [← hkeys, usedColumns, usedColumns, List.append_assoc]
  exact List.append_subset.mpr ⟨List.subset_append_left _ _,
    List.subset_append_of_subset_right _ (hf keys b.plan)⟩

def reading (b : Builder) : List Table × List Column := (b.plan.tables, b.usedColumns)

lemma withoutDetails_reading : WithoutDetails reading :=
  ⟨fun _ _ => rfl, fun _ _ => rfl, fun _ _ => rfl, fun _ _ => rfl, fun _ _ => rfl, fun _ _ => rfl, fun _ _ => rfl⟩

lemma keeps_reading (rs : Results) (hc : keyword.isCondition = false) (hs : keyword.sorts = false)
    (ht : keyword.setsTables = false) (args : List Arg) : Keeps reading (perform rs keyword args) := by
  cases keyword with
  | select => exact keeps_selectColumns (fun _ _ _ => rfl) [] [] args
  | delete => exact .bind (.mapM (keeps_columnOf .delete) args) fun _ => keeps_modifyPlan fun _ => rfl
  | update | fromTables | toTables => cases ht
  | orderBy | groupBy => cases hs
  | insert | setFields | distinct | join | leftJoin | rightJoin | fullJoin | onColumn | usingColumn | limit | union
  | unionAll => exact withoutDetails_reading.keeps rs rfl args
  | _ => cases hc

lemma keeps_tables (rs : Results) (ht : keyword.setsTables = false) (args : List Arg) :
    Keeps (fun b => b.plan.tables) (perform rs keyword args) := by
  cases hc : keyword.isCondition with
  | true =>
    refine keeps_comparison (fun b c => ?_) (fun _ _ _ => rfl) rs hc args
    rw [setTarget]
    split <;> rfl
  | false =>
    cases hs : keyword.sorts with
    | true =>
      cases keyword with
      | orderBy => exact .bind (keeps_sortKeys args) fun _ => keeps_modifyPlan fun _ => rfl
      | groupBy => exact .bind (keeps_sortKeys args) fun _ => keeps_modifyPlan fun _ => rfl
      | _ => cases hs
    | false => exact (keeps_reading rs hc hs ht args).map Prod.fst

lemma usedColumns_comparing (hc : keyword.isCondition = true) (hk : keyword.isClause = false)
    (h : (perform rs keyword args).run b = (.ok (), b')) : b'.usedColumns ⊆ b.usedColumns := by
  have hkeys {keyword : Keyword} (h : (compareKeys rs keyword args).run b = (.ok (), b')) :
      b'.usedColumns ⊆ b.usedColumns := by
    refine usedColumns_comparison (fun operands => usedColumns_keychain fun {i c e} he => ?_) h
    split at he
    · exact Keychain.faithful_comparison keyword (fun _ => []) (i := i) he
    · exact Keychain.faithful_anyOf keyword operands (i := i) he
  cases keyword with
  | whereKeys | havingKeys => cases hk
  | and => exact usedColumns_connect h
  | or => exact usedColumns_connect h
  | not => exact usedColumns_pushToken rfl h
  | openGroup => exact usedColumns_pushToken rfl h
  | closeGroup => exact usedColumns_pushToken rfl h
  | eq => exact hkeys h
  | gt => exact hkeys h
  | lt => exact hkeys h
  | like => exact hkeys h
  | isNull => exact hkeys h
  | isIn =>
    exact usedColumns_comparison (fun _ => usedColumns_keychain (Keychain.faithful_comparison .isIn _)) h
  | between =>
    refine usedColumns_comparison (fun operands hb => ?_) h
    dsimp only at hb
    split at hb
    · exact usedColumns_keychain (Keychain.faithful_comparison .between _) hb
    · cases hb
  | existsRows =>
    obtain ⟨operands, u, ho, he⟩ := run_bind_eq_ok h
    obtain ⟨-, rfl⟩ := run_lift_eq_ok ho
    exact List.Subset.trans (usedColumns_pushExpression he)
      (List.append_subset.mpr ⟨List.Subset.refl _, List.nil_subset _⟩)
  | _ => cases hc

lemma usedColumns_perform {o : Operation} (h : (perform rs o.keyword o.args).run b = (.ok (), b')) :
    b'.usedColumns ⊆ b.usedColumns ++ o.namedColumns.map (·.inTable b.plan.primary?) := by
  obtain ⟨keyword, args⟩ := o
  have hkept (hk : Keeps usedColumns (perform rs keyword args)) : b'.usedColumns ⊆ b.usedColumns := by
    have hb := hk b
    rw [h] at hb
    exact hb ▸ List.Subset.refl _
  have hadd {ds : List Column} (hs : b'.usedColumns ⊆ b.usedColumns) : b'.usedColumns ⊆ b.usedColumns ++ ds :=
    List.Subset.trans hs (List.subset_append_left _ _)
  cases keyword with
  | whereKeys => exact usedColumns_openKeys h
  | havingKeys => exact usedColumns_openKeys h
  | orderBy =>
    refine usedColumns_sorting (fun keys p c => ?_) h
    simp only [Plan.usedColumns, List.mem_append]
    tauto
  | groupBy =>
    refine usedColumns_sorting (fun keys p c => ?_) h
    simp only [Plan.usedColumns, List.mem_append]
    tauto
  | update => exact hadd (hkept (keeps_setTables (fun _ _ => rfl) _ args))
  | fromTables => exact hadd (hkept (keeps_setTables (fun _ _ => rfl) _ args))
  | toTables => exact hadd (hkept (keeps_setTables (fun _ _ => rfl) _ args))
  | and | or | not | openGroup | closeGroup | eq | gt | lt | between | like | isIn | isNull | existsRows =>
    exact hadd (usedColumns_comparing rfl rfl h)
  | _ => exact hadd (hkept ((keeps_reading rs rfl rfl rfl args).map Prod.snd))

lemma tableOf_eq_ok {a : Arg} {t : Table} (h : (tableOf keyword a).run b = (.ok t, b')) :
    a.table? = some t ∧ b = b' := by
  cases a with
  | table u =>
    cases h
    exact ⟨rfl, rfl⟩
  | value v =>
    cases v with
    | string s =>
      cases h
      exact ⟨rfl, rfl⟩
    | _ => cases h
  | _ => cases h

lemma primary?_setTables (ha : args ≠ []) (h : (setTables keyword args).run b = (.ok (), b')) :
    ∃ t, args.head?.bind Arg.table? = some t ∧ b'.plan.primary? = some t := by
  obtain ⟨ts, u, hts, h⟩ := run_bind_eq_ok h
  cases h
  cases args with
  | nil => exact (ha rfl).elim
  | cons a args =>
    rw [List.mapM_cons] at hts
    obtain ⟨t, v, ht, hts⟩ := run_bind_eq_ok hts
    obtain ⟨us, w, -, hts⟩ := run_bind_eq_ok hts
    cases hts
    exact ⟨t, (tableOf_eq_ok ht).1, rfl⟩

lemma perform_of_setsTables (h : keyword.setsTables = true) : perform rs keyword args = setTables keyword args := by
  cases keyword <;> first | rfl | cases h

lemma check_of_setsTables (h : keyword.setsTables = true) :
    Plan.check keyword args = Plan.checkSome keyword args := by
  cases keyword <;> first | rfl | cases h

lemma primary?_apply {o : Operation} (h : (apply rs o).run b = (.ok (), b')) :
    b'.plan.primary? = o.primary?.or b.plan.primary? ∧ (o.keyword.setsTables = true → o.primary?.isSome = true) := by
  obtain ⟨hcheck, h⟩ := run_apply_eq_ok h
  obtain ⟨_, u, hp, ha⟩ := run_bind_eq_ok h
  have hu : b'.plan.primary? = u.plan.primary? := by
    cases ha
    rfl
  rw [hu, Operation.primary?]
  cases hs : o.keyword.setsTables with
  | true =>
    rw [perform_of_setsTables hs] at hp
    rw [check_of_setsTables hs] at hcheck
    have hargs : o.args ≠ [] := by
      intro he
      rw [he] at hcheck
      cases hcheck
    obtain ⟨t, ht, htu⟩ := primary?_setTables hargs hp
    rw [if_pos rfl, ht, htu]
    exact ⟨rfl, fun _ => rfl⟩
  | false =>
    have hk : u.plan.tables = b.plan.tables := by simpa only [hp] using keeps_tables rs hs o.args b
    rw [if_neg Bool.false_ne_true, Option.none_or, Plan.primary?, Plan.primary?, hk]
    exact ⟨rfl, fun h => by cases h⟩

lemma usedColumns_apply {o : Operation} (h : (apply rs o).run b = (.ok (), b')) :
    b'.usedColumns ⊆ b.usedColumns ++ o.namedColumns.map (·.inTable b.plan.primary?) := by
  obtain ⟨_, u, hp, ha⟩ := run_bind_eq_ok (run_apply_eq_ok h).2
  have hu : b'.usedColumns = u.usedColumns := by
    cases ha
    rfl
  rw [hu]
  exact usedColumns_perform hp

end Builder

namespace Scheme

def primary? (s : Scheme) : Option Table := s.reverse.findSome? Operation.primary?

lemma primary?_cons (o : Operation) (s : Scheme) : primary? (o :: s) = (primary? s).or o.primary? := by
  rw [primary?, List.reverse_cons, List.findSome?_append, List.findSome?_singleton]
  rfl

lemma primary?_append_of_forall {s after : Scheme} (h : ∀ o ∈ after, o.keyword.setsTables = false) :
    primary? (s ++ after) = primary? s := by
  have hn : after.reverse.findSome? Operation.primary? = none := by
    refine List.findSome?_eq_none_iff.mpr fun o ho => ?_
    rw [Operation.primary?, h o (List.mem_reverse.mp ho)]
    rfl
  rw [primary?, List.reverse_append, List.findSome?_append, hn]
  rfl

end Scheme

namespace Builder

variable {made : Results} {s : Scheme} {b b' : Builder}

lemma primary?_run (h : (s.forM (apply made)).run b = (.ok (), b')) :
    b'.plan.primary? = (Scheme.primary? s).or b.plan.primary? ∧
      ∀ o ∈ s, o.keyword.setsTables = true → o.primary?.isSome = true := by
  induction s generalizing b with
  | nil =>
    cases h
    exact ⟨rfl, by simp⟩
  | cons o s ih =>
    obtain ⟨_, u, ho, hs⟩ := run_bind_eq_ok h
    obtain ⟨hu, hsome⟩ := primary?_apply ho
    obtain ⟨hb, hall⟩ := ih hs
    refine ⟨?_, List.forall_mem_cons.mpr ⟨hsome, hall⟩⟩
    rw [hb, hu, Scheme.primary?_cons, Option.or_assoc]

lemma usedColumns_run (h : (s.forM (apply made)).run b = (.ok (), b')) {c : Column} (hc : c ∈ b'.usedColumns) :
    c ∈ b.usedColumns ∨ ∃ before o after d, s = before ++ o :: after ∧ d ∈ o.namedColumns ∧
      c = d.inTable ((Scheme.primary? before).or b.plan.primary?) := by
  induction s generalizing b with
  | nil =>
    cases h
    exact .inl hc
  | cons o s ih =>
    obtain ⟨_, u, ho, hs⟩ := run_bind_eq_ok h
    rcases ih hs with hu | ⟨before, q, after, d, rfl, hd, rfl⟩
    · rcases List.mem_append.mp (usedColumns_apply ho hu) with hb | hn
      · exact .inl hb
      · obtain ⟨d, hd, rfl⟩ := List.mem_map.mp hn
        exact .inr ⟨[], o, s, d, rfl, hd, rfl⟩
    · refine .inr ⟨o :: before, q, after, d, rfl, hd, ?_⟩
      rw [(primary?_apply ho).1, Scheme.primary?_cons, Option.or_assoc]

end Builder

namespace Scheme

def Qualifies (s : Scheme) (t : Table) : Prop := ∃ d ∈ s.flatMap Operation.namedColumns, d.table = some t

def Sets (s : Scheme) (t : Table) : Prop := ∃ o ∈ s, o.primary? = some t

/-- It is said which tables are read, and it is said before any columns are named. -/
def TablesFirst (s : Scheme) : Prop :=
  (∃ o ∈ s, o.keyword.setsTables = true) ∧
    s.Pairwise fun o q => q.keyword.setsTables = true → o.namedColumns = []

lemma namedColumns_of_setsTables {o : Operation} (h : o.keyword.setsTables = true) : o.namedColumns = [] := by
  obtain ⟨keyword, args⟩ := o
  cases keyword <;> first | rfl | cases h

lemma TablesFirst.primary?_eq {before after : Scheme} {o : Operation} (h : TablesFirst (before ++ o :: after))
    (ho : o.namedColumns ≠ []) : primary? (before ++ o :: after) = primary? before := by
  have hafter := (List.pairwise_cons.mp (List.pairwise_append.mp h.2).2.1).1
  refine primary?_append_of_forall (List.forall_mem_cons.mpr ⟨?_, fun q hq => ?_⟩)
  · exact Bool.eq_false_iff.mpr fun hs => ho (namedColumns_of_setsTables hs)
  · exact Bool.eq_false_iff.mpr fun hs => ho (hafter q hq hs)

end Scheme

namespace Plan

def Fetches (p : Plan) (table : String) : Prop :=
  (∃ t ∈ p.tables, t.name = table) ∨ ∃ j ∈ p.joins, j.other.tableName? = some table

lemma usedColumns_of_ofScheme {made : Results} {s : Scheme} {p : Plan} (h : ofScheme made s = .ok p) :
    p.primary? = s.primary? ∧ (∀ o ∈ s, o.keyword.setsTables = true → o.primary?.isSome = true) ∧
      ∀ c ∈ p.usedColumns, ∃ before o after d, s = before ++ o :: after ∧ d ∈ o.namedColumns ∧
        c = d.inTable (Scheme.primary? before) := by
  obtain ⟨b, hr, -, rfl⟩ := ofScheme_eq_ok h
  obtain ⟨hp, hsome⟩ := Builder.primary?_run hr
  refine ⟨hp.trans Option.or_none, hsome, fun c hc => ?_⟩
  rcases Builder.usedColumns_run hr (List.mem_append_right _ hc) with hn | ⟨before, o, after, d, hs, hd, rfl⟩
  · cases hn
  · exact ⟨before, o, after, d, hs, hd, congrArg d.inTable Option.or_none⟩

variable {made : Results} {s : Scheme} {p : Plan}

lemma primary?_of_tablesFirst (h : ofScheme made s = .ok p) (hf : s.TablesFirst) : ∃ t, p.primary? = some t := by
  obtain ⟨hp, hsome, -⟩ := usedColumns_of_ofScheme h
  obtain ⟨o, ho, hs⟩ := hf.1
  rw [hp]
  exact Option.isSome_iff_exists.mp
    (List.findSome?_isSome_iff.mpr ⟨o, List.mem_reverse.mpr ho, hsome o ho hs⟩)

lemma table_of_mem_usedColumns (h : ofScheme made s = .ok p) {c : Column} (hc : c ∈ p.usedColumns) {u : Table}
    (hu : c.table = some u) : s.Qualifies u ∨ s.Sets u := by
  obtain ⟨before, o, after, d, rfl, hd, rfl⟩ := (usedColumns_of_ofScheme h).2.2 c hc
  rw [Column.inTable] at hu
  split at hu
  · exact .inl ⟨d, List.mem_flatMap.mpr ⟨o, by simp, hd⟩, hu⟩
  · obtain ⟨q, hq, hqu⟩ := List.exists_of_findSome?_eq_some (f := Operation.primary?) hu
    exact .inr ⟨q, List.mem_append_left _ (List.mem_reverse.mp hq), hqu⟩

lemma table_of_tablesFirst (h : ofScheme made s = .ok p) (hf : s.TablesFirst) {t : Table} (ht : p.primary? = some t)
    {c : Column} (hc : c ∈ p.usedColumns) : ∃ u, c.table = some u ∧ (u = t ∨ s.Qualifies u) := by
  obtain ⟨hp, -, hused⟩ := usedColumns_of_ofScheme h
  obtain ⟨before, o, after, d, rfl, hd, rfl⟩ := hused c hc
  have hb : Scheme.primary? before = some t :=
    (hf.primary?_eq (List.ne_nil_of_mem hd)).symm.trans (hp.symm.trans ht)
  cases hu : d.table with
  | none => exact ⟨t, by rw [Column.inTable, hu, hb], .inl rfl⟩
  | some u =>
    have hq : Scheme.Qualifies (before ++ o :: after) u := ⟨d, List.mem_flatMap.mpr ⟨o, by simp, hd⟩, hu⟩
    exact ⟨u, by rw [Column.inTable, hu, hu], .inr hq⟩

lemma mem_usedColumns {l : Leaf} {c : Column} (hl : Token.leaf l ∈ p.conditions.tokens ++ p.having.tokens)
    (hc : l.test.column? = some c) : c ∈ p.usedColumns := by
  refine List.mem_append_left _ (List.mem_append_left _ ?_)
  rcases List.mem_append.mp hl with hl | hl
  · exact List.mem_append_left _ (Conditions.mem_columns hl hc)
  · exact List.mem_append_right _ (Conditions.mem_columns hl hc)

theorem ofScheme_usedColumns (h : ofScheme made s = .ok p) :
    (∀ c ∈ p.usedColumns, ∃ before o after d, s = before ++ o :: after ∧ d ∈ o.namedColumns ∧
      (d.table ≠ none → c = d) ∧ ∀ t, Scheme.primary? before = some t → c = d.inTable (some t)) ∧
    (∀ l, Token.leaf l ∈ p.conditions.tokens ++ p.having.tokens → ∀ c, l.test.column? = some c →
      ∀ rs row, l.test.eval rs row = none →
        ∃ u, c.table = some u ∧ row.covers u.name = false ∧ (s.Qualifies u ∨ s.Sets u)) ∧
    (s.TablesFirst → ∃ t, p.primary? = some t ∧
      (∀ c ∈ p.usedColumns, ∃ u, c.table = some u ∧ (u = t ∨ s.Qualifies u)) ∧
      ((∀ u, s.Qualifies u → p.Fetches u.name) →
        ∀ c ∈ p.usedColumns, ∃ u, c.table = some u ∧ p.Fetches u.name) ∧
      ∀ l, Token.leaf l ∈ p.conditions.tokens ++ p.having.tokens → ∀ c, l.test.column? = some c →
        ∀ rs row, row.covers t.name = true → l.test.eval rs row = none →
          ∃ u, c.table = some u ∧ row.covers u.name = false ∧ s.Qualifies u) := by
  refine ⟨fun c hc => ?_, ?_, fun hf => ?_⟩
  · obtain ⟨before, o, after, d, hs, hd, rfl⟩ := (usedColumns_of_ofScheme h).2.2 c hc
    refine ⟨before, o, after, d, hs, hd, fun ht => ?_, fun t ht => by rw [ht]⟩
    obtain ⟨u, hu⟩ := Option.ne_none_iff_exists'.mp ht
    rw [Column.inTable, hu]
  · intro l hl c hc rs row hskip
    obtain ⟨u, hu, hcovers⟩ := Test.table_of_eval_eq_none hc hskip
    exact ⟨u, hu, hcovers, table_of_mem_usedColumns h (mem_usedColumns hl hc) hu⟩
  · obtain ⟨t, ht⟩ := primary?_of_tablesFirst h hf
    refine ⟨t, ht, fun c hc => table_of_tablesFirst h hf ht hc, fun hread c hc => ?_, ?_⟩
    · obtain ⟨u, hu, rfl | hq⟩ := table_of_tablesFirst h hf ht hc
      · exact ⟨u, hu, .inl ⟨u, List.mem_of_mem_head? ht, rfl⟩⟩
      · exact ⟨u, hu, hread u hq⟩
    · intro l hl c hc rs row hrow hskip
      obtain ⟨u, hu, hcovers⟩ := Test.table_of_eval_eq_none hc hskip
      obtain ⟨v, hv, hor⟩ := table_of_tablesFirst h hf ht (mem_usedColumns hl hc)
      obtain rfl : u = v := Option.some.inj (hu.symm.trans hv)
      rcases hor with rfl | hq
      · rw [hrow] at hcovers
        cases hcovers
      · exact ⟨u, hu, hcovers, hq⟩

def joinedOrders : Scheme :=
  [⟨.select, []⟩, ⟨.fromTables, [.table (.named "users")]⟩,
    ⟨.join, [.column (.ofTable (.named "orders") "user")]⟩, ⟨.onColumn, [.column (.named "id")]⟩,
    ⟨.whereKeys, [.column (.named "age"), .scope .or [.column (.ofTable (.named "orders") "total")]]⟩,
    ⟨.gt, [.value (.int 18)]⟩, ⟨.orderBy, [.column (.named "name")]⟩]

theorem ofScheme_joinedOrders :
    ∃ p, ofScheme [] joinedOrders = .ok p ∧
      p.usedColumns = [.ofTable (.named "users") "age", .ofTable (.named "orders") "total",
        .ofTable (.named "users") "name"] ∧
      ∀ c ∈ p.usedColumns, ∃ u, c.table = some u ∧ p.Fetches u.name := by
  have hfirst : joinedOrders.TablesFirst := ⟨by decide, by decide⟩
  have hnamed : ∀ d ∈ joinedOrders.flatMap Operation.namedColumns,
      d.table = none ∨ d.table = some (.named "orders") := by decide
  obtain ⟨p, hp, hused, horders⟩ : ∃ p, ofScheme [] joinedOrders = .ok p ∧
      p.usedColumns = [.ofTable (.named "users") "age", .ofTable (.named "orders") "total",
        .ofTable (.named "users") "name"] ∧ p.Fetches "orders" :=
    ⟨_, rfl, rfl, .inr ⟨_, List.mem_singleton.mpr rfl, rfl⟩⟩
  obtain ⟨t, ht, -, hread, -⟩ := (ofScheme_usedColumns hp).2.2 hfirst
  refine ⟨p, hp, hused, hread fun u ⟨d, hd, hu⟩ => ?_⟩
  rcases hnamed d hd with hn | hn
  · rw [hn] at hu
    cases hu
  · rw [hn] at hu
    cases hu
    exact horders

theorem ofScheme_unreadTable :
    ∃ p, ofScheme [] [⟨.delete, []⟩, ⟨.fromTables, [.value (.string "users")]⟩,
      ⟨.whereKeys, [.value (.string "ghost.age")]⟩, ⟨.gt, [.value (.int 18)]⟩] = .ok p ∧
    Column.ofTable (.named "ghost") "age" ∈ p.usedColumns ∧ ¬ p.Fetches "ghost" ∧
    ∀ key v, p.conditions.verdict [] (.ofValue (.named "users") key v) = none ∧
      p.conditions.test [] (.ofValue (.named "users") key v) = true := by
  refine ⟨_, rfl, ?_, ?_, fun key v => ⟨rfl, rfl⟩⟩
  · exact List.mem_singleton.mpr rfl
  · rintro (⟨t, ht, hn⟩ | ⟨j, hj, -⟩)
    · obtain rfl := List.mem_singleton.mp ht
      revert hn
      decide
    · cases hj

end Plan

end DocQuery
