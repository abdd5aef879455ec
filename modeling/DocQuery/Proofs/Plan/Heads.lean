import DocQuery.Proofs.Plan.Abreast
import DocQuery.Proofs.Plan.Building

/-! Clauses mean the same under every command: tables, joins, conditions, order and limit come out of a
scheme as they do without the words at its head that name the command. -/

namespace DocQuery

def Keyword.isRefining : Keyword → Bool
  | fromTables | whereKeys | and | or | not | openGroup | closeGroup | eq | gt | lt | between | like | isIn
  | isNull | existsRows | join | leftJoin | onColumn | usingColumn | limit | orderBy => true
  | _ => false

/-- What the first words of a scheme say: the command, with the columns or the assignments that it has.
The words are no clause and no connective, so that the clauses after them do not see them. -/
structure Head where
  command : Command
  columns : List Column
  assignments : Option (Dict Value)
  words : List Keyword
  mute : ∀ w ∈ words, w.isClause = false ∧ w.isConnective = false

namespace Head

def deletion : Head := ⟨.delete, [], none, [.delete], by decide⟩

def update (fields : Dict Value) : Head := ⟨.update, [], some fields, [.setFields, .update], by decide⟩

def selection : Head := ⟨.select, [.named Column.allName], none, [.select], by decide⟩

def selectionFrom : Head := { selection with words := [.fromTables, .select], mute := by decide }

end Head

structure Plan.Plain (p : Plan) : Prop where
  distinct : p.distinct = false
  groupBy : p.groupBy = []
  calls : p.calls = []
  unions : p.unions = []
  having : p.having.isEmpty = true

namespace Plan

variable (h : Head) (p : Plan)

def under : Plan := { p with command := some h.command, columns := h.columns, assignments := h.assignments }

lemma Plain.under {p : Plan} (hp : p.Plain) : (p.under h).Plain := { hp with }

lemma Plain.resolve {p : Plan} (hp : p.Plain) : p.resolve.Plain where
  distinct := hp.distinct
  groupBy := hp.groupBy
  calls := by rw [Plan.resolve, hp.calls, List.map_nil]
  unions := hp.unions
  having := hp.having

end Plan

namespace Builder

def under (h : Head) (b : Builder) : Builder :=
  { b with plan := b.plan.under h, history := b.history ++ h.words }

def withTables (b : Builder) (tables : List Table) : Builder := { b with plan := { b.plan with tables := tables } }

variable {h : Head}

lemma continues_append (clause : Clause) (history : List Keyword) :
    continues clause (history ++ h.words) = continues clause history := by
  have hm := h.mute
  -- a clause goes on after two words, so that those of the head count after none or one
  rcases history with _ | ⟨last, _ | ⟨previous, history⟩⟩
  · generalize h.words = words at hm
    rcases words with _ | ⟨w, _ | ⟨v, words⟩⟩
    · rfl
    · rfl
    · rw [List.nil_append, continues, (hm w List.mem_cons_self).2]
      rfl
  · generalize h.words = words at hm
    rcases words with _ | ⟨w, words⟩
    · rfl
    · have hw : w ≠ clause.keyword := by
        rintro rfl
        have := (hm _ List.mem_cons_self).1
        cases clause <;> cases this
      rw [List.singleton_append, continues, beq_eq_false_iff_ne.mpr hw, Bool.and_false]
      rfl
  · rfl

lemma any_head?_append (history : List Keyword) :
    (history ++ h.words).head?.any Keyword.isClause = history.head?.any Keyword.isClause := by
  cases history with
  | nil =>
    have hm := h.mute
    generalize h.words = words at hm
    cases words with
    | nil => rfl
    | cons w words => exact (hm w List.mem_cons_self).1
  | cons last history => rfl

lemma under_setTarget (b : Builder) (c : Conditions) : (b.setTarget c).under h = (b.under h).setTarget c := by
  obtain ⟨plan, history, keychain, clause, pending⟩ := b
  cases clause <;> rfl

structure Headed (h : Head) (c b : Builder) : Prop where
  eq : b = c.under h
  clause : c.clause = .whereKeys
  plain : c.plan.Plain

namespace Headed

variable {c b : Builder} (hb : Headed h c b)

include hb

lemma keychain : b.keychain = c.keychain := by rw [hb.eq]; rfl

lemma pending : b.pending = c.pending := by rw [hb.eq]; rfl

lemma primary? : b.plan.primary? = c.plan.primary? := by rw [hb.eq]; rfl

lemma target : b.target = c.target := by rw [hb.eq]; rfl

lemma continues (clause : Clause) : continues clause b.history = Builder.continues clause c.history := by
  rw [hb.eq]
  exact continues_append clause c.history

lemma any_head? : b.history.head?.any Keyword.isClause = c.history.head?.any Keyword.isClause := by
  rw [hb.eq]
  exact any_head?_append c.history

lemma setTarget (cs : Conditions) : Headed h (c.setTarget cs) (b.setTarget cs) := by
  have hc : c.setTarget cs = { c with plan := { c.plan with conditions := cs } } := by
    rw [Builder.setTarget, hb.clause]
  refine ⟨by rw [hb.eq, under_setTarget], ?_, ?_⟩
  · rw [hc]
    exact hb.clause
  · rw [hc]
    exact { hb.plain with }

lemma setKeychain (keychain : List Key) :
    Headed h { c with keychain := keychain, clause := .whereKeys }
      { b with keychain := keychain, clause := .whereKeys } :=
  ⟨by rw [hb.eq]; rfl, rfl, hb.plain⟩

lemma setPending (pending : Option PendingJoin) :
    Headed h { c with pending := pending } { b with pending := pending } :=
  ⟨by rw [hb.eq]; rfl, hb.clause, hb.plain⟩

lemma note (keyword : Keyword) :
    Headed h { c with history := keyword :: c.history } { b with history := keyword :: b.history } :=
  ⟨by rw [hb.eq]; rfl, hb.clause, hb.plain⟩

end Headed

abbrev Ignores {α : Type} (h : Head) (m : Building α) : Prop := Alike (Headed h) Eq m m

lemma alters_headed {f : Plan → Plan} (hu : ∀ p, f (p.under h) = (f p).under h) (hp : ∀ p, p.Plain → (f p).Plain) :
    Alters (Headed h) f := by
  refine fun c b hb => ⟨?_, hb.clause, hp _ hb.plain⟩
  rw [hb.eq]
  exact congrArg (fun p => { c.under h with plan := p }) (hu c.plan)

lemma abreast_headed (h : Head) : Abreast (Headed h) where
  keychain hb := hb.keychain
  primary? hb := hb.primary?
  opened hb := hb.any_head?
  setKeychain := by
    rintro c b hb keys
    refine ⟨?_, hb.clause, hb.plain⟩
    rw [hb.eq]
    rfl
  append := by
    rintro c b hb ts
    rw [hb.target]
    exact hb.setTarget _

lemma level_headed (h : Head) : Level (Headed h) where
  toAbreast := abreast_headed h
  pending hb := hb.pending
  setPending hb := hb.setPending
  note hb := hb.note
  command _ := alters_headed (fun _ => rfl) fun _ hp => { hp with }

lemma ignores_perform (rs : Results) {keyword : Keyword} (hk : keyword.isRefining = true) (args : List Arg) :
    Ignores h (perform rs keyword args) := by
  by_cases hc : keyword.isComparing = true
  · exact (abreast_headed h).perform rs hc args
  · have hl := level_headed h
    have hj (join : Join) : Alters (Headed h) fun p => { p with joins := p.joins ++ [join] } :=
      alters_headed (fun _ => rfl) fun _ hp => { hp with }
    have ho (keys : List SortKey) : Alters (Headed h) fun p => { p with orderBy := keys } :=
      alters_headed (fun _ => rfl) fun _ hp => { hp with }
    cases keyword with
    | fromTables => exact alike_setTables (fun _ => alters_headed (fun _ => rfl) fun _ hp => { hp with }) _ args
    | whereKeys => exact hl.openKeys (fun hb => hb.continues _) (fun hb => hb.setKeychain) args
    | join | leftJoin => exact hl.openJoin _ args
    | onColumn => exact hl.closeJoin hj _ args
    | usingColumn => exact hl.closeJoin hj _ args
    | limit => exact alike_setLimit (fun _ => alters_headed (fun _ => rfl) fun _ hp => { hp with }) args
    | orderBy => exact .bind_eq (hl.sortKeys args) fun keys => (ho keys).modifyPlan
    | _ => first | exact absurd rfl hc | cases hk

lemma ignores_apply (rs : Results) {o : Operation} (hk : o.keyword.isRefining = true) :
    Ignores h (apply rs o) :=
  .bind_eq (.lift _) fun _ => .bind_eq (ignores_perform rs hk o.args) fun _ => (level_headed h).accept _

lemma ignores_forM (rs : Results) {clauses : Scheme} (hk : ∀ o ∈ clauses, o.keyword.isRefining = true) :
    Ignores h (clauses.forM (apply rs)) := by
  refine .forM (P := fun o o' => o = o' ∧ o.keyword.isRefining = true) ?_
    (List.forall₂_same.mpr fun o ho => ⟨rfl, hk o ho⟩)
  rintro o _ ⟨rfl, ho⟩
  exact ignores_apply rs ho

lemma run_clauses {made : Results} {clauses : Scheme} (hk : ∀ o ∈ clauses, o.keyword.isRefining = true)
    (h' : Head) {start b : Builder} (hw : start.clause = .whereKeys) (hp : start.plan.Plain)
    (hr : (clauses.forM (apply made)).run (start.under h) = (.ok (), b)) :
    ∃ c : Builder, b = c.under h ∧ c.plan.Plain ∧
      (clauses.forM (apply made)).run (start.under h') = (.ok (), c.under h') := by
  have run (h : Head) : _ ∧ _ := ignores_forM made hk start (start.under h) ⟨rfl, hw, hp⟩
  rcases hc : (clauses.forM (apply made)).run start with ⟨x, c⟩
  obtain ⟨ha, hb⟩ := run h
  obtain ⟨ha', hb'⟩ := run h'
  rw [hc] at ha hb ha' hb'
  rw [hr] at ha hb
  refine ⟨c, hb.eq, hb.plain, Prod.ext ?_ hb'.eq⟩
  rw [← ha'.eq, ha.eq]

end Builder

inductive Counterpart : Scheme → Scheme → Prop
  | deletion {clauses : Scheme} : (∀ o ∈ clauses, o.keyword.isRefining = true) →
    Counterpart (⟨.delete, []⟩ :: clauses) (⟨.select, [.value (.string "*")]⟩ :: clauses)
  | update {clauses : Scheme} (table : Arg) (fields : Dict Value) :
    (∀ o ∈ clauses, o.keyword.isRefining = true) →
    Counterpart (⟨.update, [table]⟩ :: ⟨.setFields, [.value (.object fields)]⟩ :: clauses)
      (⟨.select, [.value (.string "*")]⟩ :: ⟨.fromTables, [table]⟩ :: clauses)

namespace Plan

def isChange (p : Plan) : Prop :=
  (p.command = some .delete ∧ p.columns = []) ∨ (p.command = some .update ∧ ∃ fields, p.assignments = some fields)

structure Selects (q p : Plan) : Prop where
  command : q.command = some .select
  tables : q.tables = p.tables
  joins : q.joins = p.joins
  conditions : q.conditions = p.conditions
  limit : q.limit = p.limit
  orderBy : q.orderBy = p.orderBy
  plain : q.Plain

lemma selects_resolve {c : Plan} (hc : c.Plain) {h h' : Head} (hs : h'.command = .select) :
    (c.under h').resolve.Selects (c.under h).resolve where
  command := congrArg some hs
  tables := rfl
  joins := rfl
  conditions := rfl
  limit := rfl
  orderBy := rfl
  plain := (hc.under h').resolve

variable {made : Results} {p : Plan} {change selection : Scheme}

lemma ofScheme_heads {head head' clauses : Scheme} (hk : ∀ o ∈ clauses, o.keyword.isRefining = true)
    {h h' : Head} (hs : h'.command = .select) {start : Builder} (hw : start.clause = .whereKeys)
    (hpl : start.plan.Plain) (hh : (head.forM (Builder.apply made)).run .empty = (.ok (), start.under h))
    (hh' : (head'.forM (Builder.apply made)).run .empty = (.ok (), start.under h'))
    (hp : ofScheme made (head ++ clauses) = .ok p) :
    ∃ q c : Plan, ofScheme made (head' ++ clauses) = .ok q ∧ q.Selects p ∧ c.Plain ∧
      p = (c.under h).resolve := by
  obtain ⟨b, hb, hn, rfl⟩ := ofScheme_eq_ok hp
  rw [run_forM_append hh] at hb
  obtain ⟨c, rfl, hc, hr⟩ := Builder.run_clauses hk h' hw hpl hb
  exact ⟨_, c.plan, ofScheme_of_run ((run_forM_append hh' _).trans hr) hn, selects_resolve hc hs, hc, rfl⟩

lemma isChange_resolve {c : Plan} {h : Head} (hh : (h.command = .delete ∧ h.columns = []) ∨
    (h.command = .update ∧ ∃ fields, h.assignments = some fields)) : (c.under h).resolve.isChange := by
  rcases hh with ⟨hc, hcols⟩ | ⟨hc, ha⟩
  · refine .inl ⟨congrArg some hc, ?_⟩
    have hr : (c.under h).resolve.columns = h.columns.map (·.inTable c.primary?) := rfl
    rw [hr, hcols, List.map_nil]
  · exact .inr ⟨congrArg some hc, ha⟩

lemma exists_selection_of_deletion {clauses : Scheme} (hk : ∀ o ∈ clauses, o.keyword.isRefining = true)
    (hp : ofScheme made (⟨.delete, []⟩ :: clauses) = .ok p) :
    ∃ q, ofScheme made (⟨.select, [.value (.string "*")]⟩ :: clauses) = .ok q ∧ q.Selects p ∧ p.Plain ∧
      p.isChange := by
  have hh : ([⟨.delete, []⟩].forM (Builder.apply made)).run .empty = (.ok (), Builder.empty.under .deletion) :=
    rfl
  have hh' : ([⟨.select, [.value (.string "*")]⟩].forM (Builder.apply made)).run .empty =
    (.ok (), Builder.empty.under .selection) := rfl
  obtain ⟨q, c, hq, hs, hc, rfl⟩ := ofScheme_heads hk rfl rfl ⟨rfl, rfl, rfl, rfl, rfl⟩ hh hh' hp
  exact ⟨q, hq, hs, (hc.under _).resolve, isChange_resolve (.inl ⟨rfl, rfl⟩)⟩

lemma exists_table {table : Arg} {s : Scheme} (hp : ofScheme made (⟨.update, [table]⟩ :: s) = .ok p) :
    ∃ t, ∀ keyword, Builder.tableOf keyword table = pure t := by
  obtain ⟨b, hb, -, -⟩ := ofScheme_eq_ok hp
  obtain ⟨_, _, hu, -⟩ := run_bind_eq_ok hb
  cases table with
  | table t => exact ⟨t, fun _ => rfl⟩
  | value v =>
    cases v with
    | string s => exact ⟨Table.read s, fun _ => rfl⟩
    | _ => cases hu
  | _ => cases hu

lemma run_apply_tables {table : Arg} {t : Table} {keyword : Keyword} {b : Builder}
    (ht : Builder.tableOf keyword table = pure t) (hk : Builder.perform made keyword = Builder.setTables keyword)
    (hc : check keyword = checkSome keyword) :
    (Builder.apply made ⟨keyword, [table]⟩).run b =
      (.ok (), { b with
        plan := { b.plan with tables := [t], command := b.plan.command <|> keyword.command? }
        history := keyword :: b.history }) := by
  have hs : Builder.setTables keyword [table] = Builder.modifyPlan fun p => { p with tables := [t] } := by
    rw [Builder.setTables, List.mapM_cons, ht]
    rfl
  rw [Builder.apply, hk, hs, hc]
  rfl

lemma exists_selection_of_update {table : Arg} {fields : Dict Value} {clauses : Scheme}
    (hk : ∀ o ∈ clauses, o.keyword.isRefining = true)
    (hp : ofScheme made (⟨.update, [table]⟩ :: ⟨.setFields, [.value (.object fields)]⟩ :: clauses) = .ok p) :
    ∃ q, ofScheme made (⟨.select, [.value (.string "*")]⟩ :: ⟨.fromTables, [table]⟩ :: clauses) = .ok q ∧
      q.Selects p ∧ p.Plain ∧ p.isChange := by
  obtain ⟨t, ht⟩ := exists_table hp
  have hh : ([⟨.update, [table]⟩, ⟨.setFields, [.value (.object fields)]⟩].forM (Builder.apply made)).run .empty =
      (.ok (), (Builder.empty.withTables [t]).under (.update fields)) := by
    rw [run_forM_cons (run_apply_tables (ht _) rfl rfl)]
    rfl
  have hs : (Builder.apply made ⟨.select, [.value (.string "*")]⟩).run .empty =
    (.ok ⟨⟩, Builder.empty.under .selection) := rfl
  have hh' : ([⟨.select, [.value (.string "*")]⟩, ⟨.fromTables, [table]⟩].forM (Builder.apply made)).run .empty =
      (.ok (), (Builder.empty.withTables [t]).under .selectionFrom) := by
    rw [run_forM_cons hs, run_forM_cons (run_apply_tables (ht _) rfl rfl)]
    rfl
  obtain ⟨q, c, hq, hs, hc, rfl⟩ := ofScheme_heads hk rfl rfl ⟨rfl, rfl, rfl, rfl, rfl⟩ hh hh' hp
  exact ⟨q, hq, hs, (hc.under _).resolve, isChange_resolve (.inr ⟨rfl, fields, rfl⟩)⟩

theorem exists_selection (hc : Counterpart change selection) (hp : ofScheme made change = .ok p) :
    ∃ q, ofScheme made selection = .ok q ∧ q.Selects p ∧ p.Plain ∧ p.isChange := by
  cases hc with
  | deletion hk => exact exists_selection_of_deletion hk hp
  | update table fields hk => exact exists_selection_of_update hk hp

end Plan

end DocQuery
