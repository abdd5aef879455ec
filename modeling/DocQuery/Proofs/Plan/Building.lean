import DocQuery.Plan.Builder
import DocQuery.Proofs.Condition.Tokens

namespace DocQuery

def Keyword.isCondition : Keyword → Bool
  | whereKeys | havingKeys | and | or | not | openGroup | closeGroup | eq | gt | lt | between | like
  | isIn | isNull | existsRows => true
  | _ => false

def Connective.keyword : Connective → Keyword
  | .and => .and
  | .or => .or

def Keyword.isDetail : Keyword → Bool
  | insert | setFields | distinct | join | leftJoin | rightJoin | fullJoin | onColumn | usingColumn | limit | union
  | unionAll => true
  | _ => false

namespace Builder

structure Aim where
  conditions : Conditions
  having : Conditions
  keychain : List Key
  clause : Clause
  history : List Keyword

def aim (b : Builder) : Aim :=
  ⟨b.plan.conditions, b.plan.having, b.keychain, b.clause, b.history.filter Keyword.isClause⟩

def core (b : Builder) : Aim × List Column × List Call :=
  (⟨b.plan.conditions, b.plan.having, b.keychain, b.clause, b.history⟩, b.plan.columns, b.plan.calls)

lemma openKeys_eq (clause : Clause) (args : List Arg) (b : Builder) :
    (openKeys clause args).run b =
      match Key.ofArgs b.plan.primary? 0 args with
      | .error e => (.error e, b)
      | .ok keys =>
        match if continues clause b.history then extendLast keys b.keychain else some keys with
        | some keychain => (.ok (), { b with keychain := keychain, clause := clause })
        | none => (.error (.malformed .keyNotScope), b) := by
  rw [openKeys, run_bind_of_ok (m := primary) rfl]
  cases hkeys : Key.ofArgs b.plan.primary? 0 args with
  | error e => rfl
  | ok keys =>
    rw [run_bind_of_ok (m := liftM (Except.ok keys)) rfl, run_bind_of_ok (m := get) rfl]
    dsimp only
    split
    · cases extendLast keys b.keychain <;> rfl
    · rfl

lemma connect_eq (connective : Connective) (b : Builder) :
    (connect connective).run b =
      (.ok (), if b.history.head?.any Keyword.isClause then
        { b with keychain := b.keychain ++ [.scope connective []] }
      else b.setTarget (b.target.pushToken (.ofConnective connective))) := by
  rw [connect, run_bind_of_ok (m := get) rfl]
  split <;> rfl

section Reading

variable {τ : Type} {g : Builder → τ}

lemma keeps_modifyPlan {f : Plan → Plan} (h : ∀ b : Builder, g { b with plan := f b.plan } = g b) :
    Keeps g (modifyPlan f) :=
  Keeps.update h

lemma keeps_columnOf (keyword : Keyword) (a : Arg) : Keeps g (columnOf keyword a) := .lift _

lemma keeps_tableOf (keyword : Keyword) (a : Arg) : Keeps g (tableOf keyword a) := by
  unfold tableOf
  split
  · exact .pure _
  · exact .pure _
  · exact .throw _

lemma keeps_primary : Keeps g primary := .bind .get fun _ => .pure _

lemma keeps_sortKeys (args : List Arg) : Keeps g (sortKeys args) :=
  .bind keeps_primary fun _ => .lift _

lemma keeps_joinTarget (a : Arg) : Keeps g (joinTarget a) := by
  unfold joinTarget
  split
  · exact .pure _
  · dsimp only
    split
    · split <;> exact .pure _
    · exact .pure _
  · split
    · exact .pure _
    · exact .throw _
  · exact .throw _

lemma keeps_joinColumns (keyword : Keyword) (pending : PendingJoin) (c : Column) :
    Keeps g (joinColumns keyword pending c) := by
  unfold joinColumns
  split
  · exact .bind keeps_primary fun _ => .pure _
  · split
    · exact .bind keeps_primary fun _ => .pure _
    · exact .throw _

lemma keeps_selectColumns (h : ∀ b columns calls,
    g { b with plan := { b.plan with columns := columns, calls := calls } } = g b) (columns inputs : List Column)
    (args : List Arg) : Keeps g (selectColumns columns inputs args) := by
  induction args generalizing columns inputs with
  | nil => exact keeps_modifyPlan fun b => h b _ b.plan.calls
  | cons a args ih =>
    cases a with
    | function c => exact .bind (keeps_modifyPlan fun b => h b b.plan.columns _) fun _ => ih _ _
    | _ => exact .bind (keeps_columnOf _ _) fun _ => ih _ _

lemma keeps_insertData (h : ∀ b data, g { b with plan := { b.plan with data := data } } = g b) (args : List Arg) :
    Keeps g (insertData args) := by
  induction args with
  | nil => exact .pure _
  | cons a args ih =>
    cases a with
    | value v => exact .bind (keeps_modifyPlan fun b => h b _) fun _ => ih
    | _ => exact .throw _

lemma keeps_setFields (h : ∀ b fields, g { b with plan := { b.plan with assignments := fields } } = g b)
    (args : List Arg) : Keeps g (setFields args) := by
  unfold setFields
  split
  · exact keeps_modifyPlan fun b => h b _
  · exact .throw _
  · exact .throw _

lemma keeps_setTables (h : ∀ b tables, g { b with plan := { b.plan with tables := tables } } = g b)
    (keyword : Keyword) (args : List Arg) : Keeps g (setTables keyword args) :=
  .bind (.mapM (keeps_tableOf keyword) args) fun _ => keeps_modifyPlan fun b => h b _

lemma keeps_addUnions (h : ∀ b unions, g { b with plan := { b.plan with unions := unions } } = g b)
    (keyword : Keyword) (args : List Arg) : Keeps g (addUnions keyword args) := by
  induction args with
  | nil => exact .pure _
  | cons a args ih =>
    cases a with
    | output o => exact .bind (keeps_modifyPlan fun b => h b _) fun _ => ih
    | _ => exact .throw _

lemma keeps_setLimit (h : ∀ b limit, g { b with plan := { b.plan with limit := limit } } = g b) (args : List Arg) :
    Keeps g (setLimit args) := by
  unfold setLimit
  split
  · exact keeps_modifyPlan fun b => h b _
  · exact .pure _

lemma keeps_openJoin (h : ∀ b pending, g { b with pending := pending } = g b) (keyword : Keyword)
    (args : List Arg) : Keeps g (openJoin keyword args) := by
  unfold openJoin
  cases keyword.joinKind? with
  | none => exact .throw _
  | some kind =>
    refine .bind .get fun b => ?_
    split
    · exact .throw _
    · refine .bind (keeps_joinTarget _) fun target => .bind keeps_primary fun table => ?_
      split
      · exact .throw _
      · exact .update fun b => h b _

lemma keeps_closeJoin (h : ∀ b pending, g { b with pending := pending } = g b)
    (hj : ∀ b joins, g { b with plan := { b.plan with joins := joins } } = g b) (keyword : Keyword)
    (args : List Arg) : Keeps g (closeJoin keyword args) := by
  refine .bind .get fun b => ?_
  split
  · exact .throw _
  · refine .bind (.update fun b => h b _) fun _ => ?_
    split
    · exact .throw _
    · exact .bind (keeps_columnOf _ _) fun c => .bind (keeps_joinColumns _ _ c) fun _ =>
        keeps_modifyPlan fun b => hj b _

structure WithoutDetails (g : Builder → τ) : Prop where
  data (b x) : g { b with plan := { b.plan with data := x } } = g b
  assignments (b x) : g { b with plan := { b.plan with assignments := x } } = g b
  distinct (b x) : g { b with plan := { b.plan with distinct := x } } = g b
  joins (b x) : g { b with plan := { b.plan with joins := x } } = g b
  limit (b x) : g { b with plan := { b.plan with limit := x } } = g b
  unions (b x) : g { b with plan := { b.plan with unions := x } } = g b
  pending (b x) : g { b with pending := x } = g b

lemma WithoutDetails.keeps (h : WithoutDetails g) (rs : Results) {keyword : Keyword} (hk : keyword.isDetail = true)
    (args : List Arg) : Keeps g (perform rs keyword args) := by
  cases keyword with
  | insert => exact keeps_insertData h.data args
  | setFields => exact keeps_setFields h.assignments args
  | distinct => exact keeps_modifyPlan fun b => h.distinct b _
  | join | leftJoin | rightJoin | fullJoin => exact keeps_openJoin h.pending _ args
  | onColumn | usingColumn => exact keeps_closeJoin h.pending h.joins _ args
  | limit => exact keeps_setLimit h.limit args
  | union | unionAll => exact keeps_addUnions h.unions _ args
  | _ => cases hk

section Targets

variable (ht : ∀ (b : Builder) (c : Conditions), g (b.setTarget c) = g b)

include ht

lemma keeps_pushToken (t : Token) : Keeps g (pushToken t) := .update fun _ => ht _ _

lemma keeps_pushExpression (rs : Results) (e : Option Expression) : Keeps g (pushExpression rs e) := by
  cases e with
  | none => exact .pure _
  | some e =>
    refine .get_bind fun b => ?_
    cases b.target.push rs e with
    | error fault => rfl
    | ok c => exact ht b c

lemma keeps_pushLeaves (rs : Results) (keys : List Key) (leaf : Nat → Column → Except Error Expression) :
    Keeps g (pushLeaves rs keys leaf) :=
  .bind (.lift _) fun _ => keeps_pushExpression ht rs _

end Targets

lemma keeps_requireKeys (keyword : Keyword) : Keeps g (requireKeys keyword) := by
  refine .bind .get fun b => ?_
  dsimp only
  split
  · exact .throw _
  · exact .pure _

lemma keeps_operands (ht : ∀ b c, g (setTarget b c) = g b) (rs : Results) {keyword : Keyword}
    (h : keyword.isCondition = true) (hc : keyword.isClause = false) (hn : keyword.isConnective = false)
    (args : List Arg) : Keeps g (perform rs keyword args) := by
  have hkeys : ∀ keyword, Keeps g (compareKeys rs keyword args) := fun keyword =>
    .bind (keeps_requireKeys _) fun keys => .bind (.lift _) fun _ => keeps_pushLeaves ht rs keys _
  cases keyword with
  | whereKeys | havingKeys => cases hc
  | and | or => cases hn
  | not => exact keeps_pushToken ht _
  | openGroup => exact keeps_pushToken ht _
  | closeGroup => exact keeps_pushToken ht _
  | eq => exact hkeys _
  | gt => exact hkeys _
  | lt => exact hkeys _
  | like => exact hkeys _
  | isNull => exact hkeys _
  | isIn => exact .bind (keeps_requireKeys _) fun keys => .bind (.lift _) fun _ => keeps_pushLeaves ht rs keys _
  | between =>
    refine .bind (keeps_requireKeys _) fun keys => .bind (.lift _) fun operands => ?_
    dsimp only
    split
    · exact keeps_pushLeaves ht rs keys _
    · exact .throw _
  | existsRows => exact .bind (.lift _) fun _ => keeps_pushExpression ht rs _
  | _ => cases h

lemma keeps_comparison (ht : ∀ b c, g (setTarget b c) = g b)
    (hk : ∀ b keys clause, g { b with keychain := keys, clause := clause } = g b) (rs : Results) {keyword : Keyword}
    (h : keyword.isCondition = true) (args : List Arg) : Keeps g (perform rs keyword args) := by
  have hopen : ∀ clause, Keeps g (openKeys clause args) := fun clause b => by
    rw [openKeys_eq]
    split
    · rfl
    · split
      · exact hk b _ _
      · rfl
  have hconnect : ∀ connective, Keeps g (connect connective) := fun connective b => by
    rw [connect_eq]
    dsimp only
    split
    · exact hk b _ b.clause
    · exact ht b _
  cases keyword with
  | whereKeys => exact hopen _
  | havingKeys => exact hopen _
  | and => exact hconnect _
  | or => exact hconnect _
  | _ => exact keeps_operands ht rs h rfl rfl args

end Reading

def neutral (keyword : Keyword) : Prop :=
  keyword.isCondition = false ∧ keyword ≠ .select ∧ keyword ≠ .delete

lemma withoutDetails_core : WithoutDetails core :=
  ⟨fun _ _ => rfl, fun _ _ => rfl, fun _ _ => rfl, fun _ _ => rfl, fun _ _ => rfl, fun _ _ => rfl, fun _ _ => rfl⟩

lemma keeps_neutral (rs : Results) {keyword : Keyword} (h : neutral keyword) (args : List Arg) :
    Keeps core (perform rs keyword args) := by
  obtain ⟨hc, hs, hd⟩ := h
  cases keyword with
  | select => exact (hs rfl).elim
  | delete => exact (hd rfl).elim
  | update => exact keeps_setTables (fun _ _ => rfl) _ args
  | fromTables => exact keeps_setTables (fun _ _ => rfl) _ args
  | toTables => exact keeps_setTables (fun _ _ => rfl) _ args
  | orderBy => exact .bind (keeps_sortKeys args) fun _ => keeps_modifyPlan fun _ => rfl
  | groupBy => exact .bind (keeps_sortKeys args) fun _ => keeps_modifyPlan fun _ => rfl
  | insert | setFields | distinct | join | leftJoin | rightJoin | fullJoin | onColumn | usingColumn | limit | union
  | unionAll => exact withoutDetails_core.keeps rs rfl args
  | _ => cases hc

lemma keeps_core (rs : Results) {keyword : Keyword} (h : keyword.isCondition = false)
    (args : List Arg) : Keeps (fun b => b.core.1) (perform rs keyword args) := by
  by_cases hs : keyword = .select
  · subst hs
    exact keeps_selectColumns (fun _ _ _ => rfl) [] [] args
  · by_cases hd : keyword = .delete
    · subst hd
      exact .bind (.mapM (keeps_columnOf .delete) args) fun _ => keeps_modifyPlan fun _ => rfl
    · exact (keeps_neutral rs ⟨h, hs, hd⟩ args).map Prod.fst

lemma keeps_perform (rs : Results) {keyword : Keyword} (h : keyword.isCondition = false)
    (args : List Arg) : Keeps aim (perform rs keyword args) :=
  (keeps_core rs h args).map fun a => { a with history := a.history.filter Keyword.isClause }

lemma run_apply {rs : Results} {keyword : Keyword} {args : List Arg} {b b' : Builder}
    (hc : Plan.check keyword args = .ok ()) (hp : (perform rs keyword args).run b = (.ok (), b'))
    (hk : keyword.isCommand = false) :
    (apply rs ⟨keyword, args⟩).run b = (.ok (), { b' with history := keyword :: b'.history }) := by
  have hl : (liftM (Plan.check keyword args) : Building Unit).run b = (.ok (), b) := by rw [hc]; rfl
  have hn (c : Option Command) : (c <|> none) = c := by cases c <;> rfl
  rw [apply, run_bind_of_ok hl, run_bind_of_ok hp, accept, Keyword.command?_eq_none hk]
  simp only [hn]
  rfl

lemma apply_connective (made : Results) (connective : Connective) (args : List Arg) (b : Builder) :
    (apply made ⟨connective.keyword, args⟩).run b =
      (.ok (), if b.history.head?.any Keyword.isClause then
        { b with keychain := b.keychain ++ [.scope connective []], history := connective.keyword :: b.history }
      else
        let b := b.setTarget (b.target.pushToken (.ofConnective connective))
        { b with history := connective.keyword :: b.history }) := by
  have hperform : perform made connective.keyword args = connect connective := by cases connective <;> rfl
  have hcheck : Plan.check connective.keyword args = .ok () := by cases connective <;> rfl
  have hcommand : connective.keyword.isCommand = false := by cases connective <;> rfl
  have hconnect := connect_eq connective b
  rw [← hperform] at hconnect
  rw [run_apply hcheck hconnect hcommand]
  split <;> rfl

lemma run_apply_eq_ok {made : Results} {o : Operation} {b b' : Builder}
    (h : (apply made o).run b = (.ok (), b')) :
    Plan.check o.keyword o.args = .ok () ∧
      (perform made o.keyword o.args >>= fun _ => accept o.keyword).run b = (.ok (), b') := by
  obtain ⟨_, u, hl, hp⟩ := run_bind_eq_ok h
  obtain ⟨hc, rfl⟩ := run_lift_eq_ok hl
  exact ⟨hc, hp⟩

lemma run_apply_eq_ok_of_command {made : Results} {keyword : Keyword} {args : List Arg} {b b' : Builder}
    (hk : keyword.isCommand = false) (h : (apply made ⟨keyword, args⟩).run b = (.ok (), b')) :
    Plan.check keyword args = .ok () ∧
      ∃ u, (perform made keyword args).run b = (.ok (), u) ∧ b' = { u with history := keyword :: u.history } := by
  obtain ⟨hc, hrun⟩ := run_apply_eq_ok h
  obtain ⟨_, u, hp, _⟩ := run_bind_eq_ok hrun
  exact ⟨hc, u, hp, congrArg Prod.snd (h.symm.trans (run_apply hc hp hk))⟩

lemma run_apply_of_check {made : Results} {o : Operation} {b : Builder}
    (hc : Plan.check o.keyword o.args = .ok ()) :
    (apply made o).run b = (perform made o.keyword o.args >>= fun _ => accept o.keyword).run b := by
  rw [apply, hc]
  rfl

lemma run_apply_of_unchecked {made : Results} {o : Operation} {b : Builder} {e : Error}
    (hc : Plan.check o.keyword o.args = .error e) : (apply made o).run b = (.error e, b) := by
  rw [apply, hc]
  rfl

lemma run_apply_of_error {made : Results} {o : Operation} {b b' : Builder} {e : Error}
    (hc : Plan.check o.keyword o.args = .ok ()) (hp : (perform made o.keyword o.args).run b = (.error e, b')) :
    (apply made o).run b = (.error e, b') := by
  rw [run_apply_of_check hc, run_bind_of_error hp]

lemma requireKeys_eq_ok {keyword : Keyword} {keys : List Key} {b b' : Builder}
    (h : (requireKeys keyword).run b = (.ok keys, b')) : keys = b.keychain ∧ b = b' := by
  obtain ⟨c, u, hc, h⟩ := run_bind_eq_ok h
  cases hc
  dsimp only at h
  split at h
  · cases h
  · cases h
    exact ⟨rfl, rfl⟩

section

variable {made : Results} {keyword : Keyword} {args : List Arg} {next : List Key → List Operand → Building Unit}
  {b b' : Builder}

lemma run_requireKeys (keyword : Keyword) (hk : b.keychain ≠ []) :
    (requireKeys keyword).run b = (.ok b.keychain, b) := by
  rw [requireKeys, run_bind_of_ok (m := get) rfl, if_neg (by simpa using hk)]
  rfl

lemma run_comparison {operands : List Operand} (hk : b.keychain ≠ []) (ho : Operand.ofArgs 0 args = .ok operands) :
    (requireKeys keyword >>= fun keys => operandsOf args >>= next keys).run b = (next b.keychain operands).run b := by
  have ha : (operandsOf args).run b = (.ok operands, b) := by
    rw [operandsOf, ho]
    rfl
  rw [run_bind_of_ok (run_requireKeys keyword hk), run_bind_of_ok ha]

lemma run_comparison_eq_ok
    (h : (requireKeys keyword >>= fun keys => operandsOf args >>= next keys).run b = (.ok (), b')) :
    ∃ operands, Operand.ofArgs 0 args = .ok operands ∧ (next b.keychain operands).run b = (.ok (), b') := by
  obtain ⟨keys, u, hk, h⟩ := run_bind_eq_ok h
  obtain ⟨rfl, rfl⟩ := requireKeys_eq_ok hk
  obtain ⟨operands, u, ho, h⟩ := run_bind_eq_ok h
  obtain ⟨hoperands, rfl⟩ := run_lift_eq_ok ho
  exact ⟨operands, hoperands, h⟩

lemma run_pushLeaves_eq_ok {keys : List Key} {leaf : Nat → Column → Except Error Expression}
    (h : (pushLeaves made keys leaf).run b = (.ok (), b')) :
    ∃ e, Keychain.expression? leaf keys = .ok e ∧ (pushExpression made e).run b = (.ok (), b') := by
  obtain ⟨e, u, he, h⟩ := run_bind_eq_ok h
  obtain ⟨hexpression, rfl⟩ := run_lift_eq_ok he
  exact ⟨e, hexpression, h⟩

lemma run_openKeys_eq_ok_iff {clause : Clause} : (openKeys clause args).run b = (.ok (), b') ↔
    ∃ keys keychain, Key.ofArgs b.plan.primary? 0 args = .ok keys ∧
      (if continues clause b.history then extendLast keys b.keychain else some keys) = some keychain ∧
      b' = { b with keychain := keychain, clause := clause } := by
  rw [openKeys_eq]
  constructor
  · intro h
    split at h
    · cases h
    · next keys hkeys =>
      split at h
      · next keychain hkeychain =>
        cases h
        exact ⟨keys, keychain, hkeys, hkeychain, rfl⟩
      · cases h
  · rintro ⟨keys, keychain, hkeys, hkeychain, rfl⟩
    simp only [hkeys, hkeychain]

end

lemma setTarget_target (b : Builder) : b.setTarget b.target = b := by
  obtain ⟨plan, history, keychain, clause, pending⟩ := b
  cases clause <;> rfl

lemma pushExpression_eq_ok {made : Results} {e : Option Expression} {b b' : Builder}
    (h : (pushExpression made e).run b = (.ok (), b')) :
    ∃ ts, e.elim (.ok []) (·.tokens made 0) = .ok ts ∧ b' = b.setTarget (b.target.append ts) := by
  cases e with
  | none =>
    cases h
    exact ⟨[], rfl, by rw [Conditions.append_nil, setTarget_target]⟩
  | some e =>
    change ((liftM (b.target.push made e) : Building Conditions) >>= fun c => set (b.setTarget c)).run b = _ at h
    obtain ⟨c, u, hc, h⟩ := run_bind_eq_ok h
    obtain ⟨hpush, rfl⟩ := run_lift_eq_ok hc
    obtain ⟨ts, hts, rfl⟩ := Conditions.push_eq_ok hpush
    cases h
    exact ⟨ts, hts, rfl⟩

lemma keeps_apply (rs : Results) {o : Operation} (h : o.keyword.isCondition = false) :
    Keeps aim (apply rs o) := by
  have hc : o.keyword.isClause = false := by
    cases hk : o.keyword with
    | whereKeys | havingKeys => rw [hk] at h; cases h
    | _ => rfl
  refine .bind (.lift _) fun _ => .bind (keeps_perform rs h o.args) fun _ => .bind
    (keeps_modifyPlan fun _ => rfl) fun _ => .update fun b => ?_
  simp only [aim, List.filter_cons, hc, Bool.false_eq_true, if_false]

lemma aim_of_run {made : Results} {head : Scheme} {b : Builder}
    (hh : ∀ o ∈ head, o.keyword.isCondition = false)
    (hr : (head.forM (apply made)).run empty = (.ok (), b)) : b.aim = empty.aim := by
  have hk := Keeps.forM (fun o ho => keeps_apply made (hh o ho)) empty
  rwa [hr] at hk

lemma continues_of_unopened {history : List Keyword} (h : history.filter Keyword.isClause = []) (clause : Clause) :
    continues clause history = false := by
  obtain _ | ⟨last, _ | ⟨previous, history⟩⟩ := history
  · rfl
  · rfl
  · have hp : previous.isClause = false := by
      simpa using List.filter_eq_nil_iff.mp h previous (by simp)
    have hne : previous ≠ clause.keyword := by
      rintro rfl
      cases clause <;> cases hp
    rw [continues, beq_eq_false_iff_ne.mpr hne, Bool.and_false]

end Builder

namespace Plan

lemma ofScheme_eq_ok {made : Results} {s : Scheme} {p : Plan} (h : ofScheme made s = .ok p) :
    ∃ b, (s.forM (Builder.apply made)).run .empty = (.ok (), b) ∧ b.pending = none ∧ p = b.plan.resolve := by
  rw [ofScheme] at h
  split at h
  · rename_i b hr
    rw [Builder.finish] at h
    split at h
    · cases h
    · rename_i hp
      exact ⟨b, hr, hp, (Except.ok.inj h).symm⟩
  · cases h

lemma ofScheme_of_run {made : Results} {s : Scheme} {b : Builder}
    (hr : (s.forM (Builder.apply made)).run .empty = (.ok (), b)) (hp : b.pending = none) :
    ofScheme made s = .ok b.plan.resolve := by
  rw [ofScheme, hr]
  simp only [Builder.finish, hp]

theorem table_of_mem_columns {made : Results} {s : Scheme} {p : Plan} {t : Table}
    (h : ofScheme made s = .ok p) (ht : p.primary? = some t) {c : Column} (hc : c ∈ p.columns) :
    ∃ u, c.table = some u := by
  obtain ⟨b, _, _, rfl⟩ := ofScheme_eq_ok h
  obtain ⟨d, _, rfl⟩ := List.mem_map.mp hc
  have hb : b.plan.primary? = some t := ht
  cases hd : d.table with
  | none => exact ⟨t, by rw [Column.inTable, hd, hb]⟩
  | some u => exact ⟨u, by rw [Column.inTable, hd, hd]⟩

end Plan

end DocQuery
