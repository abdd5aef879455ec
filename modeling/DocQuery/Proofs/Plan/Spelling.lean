import DocQuery.Proofs.Condition.Separation
import DocQuery.Proofs.Plan.Building
import DocQuery.Proofs.Plan.SentenceTokens

namespace DocQuery

namespace Conditions

variable {c : Conditions} {ts us : List Token}

lemma append_append (c : Conditions) (ts us : List Token) :
    (c.append ts).append us = c.append (append ⟨ts⟩ us).tokens := by
  by_cases hts : ts = []
  · subst hts
    simp [append]
  · simp [append, List.getLast?_eq_some_getLast hts, List.head?_eq_some_head hts]

lemma append_append_of_apart (h : ∀ t ∈ ts.getLast?, ∀ u ∈ us.head?, Token.Apart t u) :
    (c.append ts).append us = c.append (ts ++ us) := by
  have hj : (us.head?.any Token.startsOperand && ts.getLast?.any Token.endsOperand) = false := by
    rw [Bool.and_eq_false_iff]
    cases hu : us.head? with
    | none => exact Or.inl rfl
    | some u =>
      cases ht : ts.getLast? with
      | none => exact Or.inr rfl
      | some t =>
        have ha := h t ht u hu
        cases he : t.endsOperand with
        | false => exact Or.inr he
        | true => exact Or.inl (ha he)
  have happend : append ⟨ts⟩ us = ⟨ts ++ us⟩ := by simp [append, hj]
  rw [append_append, happend]

lemma append_append_of_touch (hts : Bounded ts) (hus : Bounded us) :
    (c.append ts).append us = c.append (ts ++ .and :: us) := by
  have hu := List.head?_eq_some_head hus.ne_nil
  have ht := List.getLast?_eq_some_getLast hts.ne_nil
  have hj : (us.head?.any Token.startsOperand && ts.getLast?.any Token.endsOperand) = true := by
    rw [hu, ht, Option.any_some, Option.any_some, hus.head _ hu, hts.last _ ht]
    rfl
  have happend : append ⟨ts⟩ us = ⟨ts ++ .and :: us⟩ := by simp [append, hj]
  rw [append_append, happend]

end Conditions

lemma Comparison.accepted (x : Comparison) :
    Plan.check x.keyword (x.operands.map Plain.arg) = .ok () ∧ x.keyword.isCommand = false ∧
      x.keyword.isClause = false ∧ x.keyword.isConnective = false := by
  obtain ⟨subject, keyword, operands, ht⟩ := x
  cases keyword with
  | eq | gt | lt | like | isIn =>
    refine ⟨?_, rfl, rfl, rfl⟩
    have hne : operands ≠ [] := List.length_pos_iff.mp ht
    cases operands with
    | nil => exact absurd rfl hne
    | cons => rfl
  | between =>
    refine ⟨?_, rfl, rfl, rfl⟩
    cases operands with
    | nil => cases ht
    | cons => rfl
  | isNull => exact ⟨rfl, rfl, rfl, rfl⟩
  | _ => exact ht.elim

namespace Builder

structure Ready (b : Builder) : Prop where
  clause : b.clause = .whereKeys
  last : b.history.head?.any Keyword.isClause = false
  closed : continues .whereKeys b.history = false

lemma ready_of_history {b : Builder} {keyword : Keyword} {history : List Keyword}
    (h : b.history = keyword :: history) (hc : b.clause = .whereKeys)
    (hk : keyword.isClause = false) (hn : keyword.isConnective = false) : Ready b := by
  refine ⟨hc, by simpa [h] using hk, ?_⟩
  rw [h]
  cases history with
  | nil => rfl
  | cons previous history => simp [continues, hn]

lemma setTarget_of_clause {b : Builder} (h : b.clause = .whereKeys) (c : Conditions) :
    b.setTarget c = { b with plan := { b.plan with conditions := c } } := by
  rw [setTarget, h]

lemma target_of_clause {b : Builder} (h : b.clause = .whereKeys) : b.target = b.plan.conditions := by
  rw [target, h]

lemma run_pushToken {b : Builder} (h : b.clause = .whereKeys) (t : Token) :
    (pushToken t).run b =
      (.ok (), { b with plan := { b.plan with conditions := b.plan.conditions.pushToken t } }) := by
  have hr : (pushToken t).run b = (.ok (), b.setTarget (b.target.pushToken t)) := rfl
  rw [hr, setTarget_of_clause h, target_of_clause h]

lemma run_pushExpression {made : Results} {b : Builder} (h : b.clause = .whereKeys) {e : Expression}
    {ts : List Token} (he : e.tokens made 0 = .ok ts) : (pushExpression made (some e)).run b =
      (.ok (), { b with plan := { b.plan with conditions := b.plan.conditions.append ts } }) := by
  have hg : (get : Building Builder).run b = (.ok b, b) := rfl
  have hp : (liftM (b.target.push made e) : Building Conditions).run b =
      (.ok (b.plan.conditions.append ts), b) := by
    rw [target_of_clause h, Conditions.push, he]
    rfl
  rw [pushExpression, run_bind_of_ok hg, run_bind_of_ok hp, setTarget_of_clause h]
  rfl

lemma expression?_column (leaf : Nat → Column → Except Error Expression) (c : Column) :
    Keychain.expression? leaf [.column c] = (leaf 0 c).map some := by
  rw [Keychain.expression?, Keychain.ofKeys, Keychain.ofKey]
  show Except.map Keychain.Chain.expression? (((leaf 0 c).map _).bind _) = _
  cases leaf 0 c <;> rfl

lemma run_pushLeaves {made : Results} {b : Builder} (h : b.clause = .whereKeys) {c : Column}
    {leaf : Nat → Column → Except Error Expression} {e : Expression} (hl : leaf 0 c = .ok e)
    {ts : List Token} (he : e.tokens made 0 = .ok ts) : (pushLeaves made [.column c] leaf).run b =
      (.ok (), { b with plan := { b.plan with conditions := b.plan.conditions.append ts } }) := by
  have hk : (liftM (Keychain.expression? leaf [.column c]) : Building (Option Expression)).run b =
      (.ok (some e), b) := by
    rw [expression?_column, hl]
    rfl
  rw [pushLeaves, run_bind_of_ok hk]
  exact run_pushExpression h he

lemma run_openKeys {b : Builder} (h : Ready b) (x : Comparison) :
    (openKeys .whereKeys [x.subject.arg]).run b =
      (.ok (), { b with keychain := [.column (x.column b.plan.primary?)], clause := .whereKeys }) := by
  have hk : Key.ofArgs b.plan.primary? 0 [x.subject.arg] = .ok [.column (x.column b.plan.primary?)] := by
    rw [Comparison.column]
    cases x.subject <;> rfl
  exact run_openKeys_eq_ok_iff.mpr ⟨_, _, hk, by rw [h.closed]; rfl, rfl⟩

lemma ofArgs_plain (os : List Plain) :
    Operand.ofArgs 0 (os.map Plain.arg) = .ok (os.map Plain.operand) := by
  induction os with
  | nil => rfl
  | cons o os ih =>
    rw [List.map_cons, Operand.ofArgs, ih]
    cases o <;> rfl

lemma comparisons_plain (keyword : Keyword) (c : Column) (os : List Plain) :
    Keychain.comparisons keyword c 0 (os.map Plain.operand) =
      .ok (os.map fun o => .comparison keyword c [o.operand]) := by
  induction os with
  | nil => rfl
  | cons o os ih =>
    rw [List.map_cons, Keychain.comparisons, ih]
    cases o <;> rfl

lemma anyOf_plain (keyword : Keyword) (c : Column) (os : List Plain) :
    Keychain.anyOf keyword (os.map Plain.operand) c =
      .ok ((Keychain.joined .or (os.map fun o => .comparison keyword c [o.operand])).getD
        (.comparison keyword c [])) := by
  rw [Keychain.anyOf, comparisons_plain]
  rfl

lemma run_perform_comparison {made : Results} {b : Builder} (h : b.clause = .whereKeys)
    (x : Comparison) (table : Option Table) (hk : b.keychain = [.column (x.column table)]) :
    (perform made x.keyword (x.operands.map Plain.arg)).run b = (.ok (), { b with
      plan := { b.plan with conditions := b.plan.conditions.append (x.tokens made table) } }) := by
  have hnext (keyword : Keyword) (next : List Key → List Operand → Building Unit) :
      (requireKeys keyword >>= fun keys => operandsOf (x.operands.map Plain.arg) >>= next keys).run b =
        (next [.column (x.column table)] (x.operands.map Plain.operand)).run b := by
    rw [← hk]
    exact run_comparison (by simp [hk]) (ofArgs_plain x.operands)
  have he := x.tokens_expression made table
  obtain ⟨subject, keyword, operands, ht⟩ := x
  cases keyword with
  | eq | gt | lt | like =>
    rw [perform, compareKeys, hnext]
    exact run_pushLeaves h (anyOf_plain _ _ _) he
  | isNull =>
    rw [perform, compareKeys, hnext]
    exact run_pushLeaves h rfl he
  | isIn =>
    rw [perform, compareMembers, hnext]
    exact run_pushLeaves h rfl he
  | between =>
    have hn : (operands.map Plain.operand).length = 2 := (List.length_map _).trans ht
    rw [perform, compareBounds, hnext]
    dsimp only
    rw [if_pos (Or.inl hn)]
    refine run_pushLeaves h ?_ he
    rw [Keychain.bounds, if_pos hn]
    rfl
  | _ => exact ht.elim

def Adds (made : Results) (table : Option Table) (ops : Scheme) (f : Conditions → Conditions) : Prop :=
  ∀ b, Ready b → b.plan.primary? = table → ∃ b', (ops.forM (apply made)).run b = (.ok (), b') ∧ Ready b' ∧
    b'.plan = { b.plan with conditions := f b.plan.conditions } ∧ b'.pending = b.pending

namespace Adds

variable {made : Results} {table : Option Table}

lemma append {ops ops' : Scheme} {f g : Conditions → Conditions} (h : Adds made table ops f)
    (h' : Adds made table ops' g) : Adds made table (ops ++ ops') fun c => g (f c) := by
  intro b hb ht
  obtain ⟨b₁, hr, hb₁, hp, hj⟩ := h b hb ht
  obtain ⟨b₂, hr', hb₂, hp', hj'⟩ := h' b₁ hb₁ (by rw [hp]; exact ht)
  refine ⟨b₂, ?_, hb₂, by rw [hp', hp], hj'.trans hj⟩
  rw [run_forM_append hr]
  exact hr'

lemma congr {ops : Scheme} {f g : Conditions → Conditions} (h : Adds made table ops f)
    (hfg : ∀ c, f c = g c) : Adds made table ops g :=
  (funext hfg : f = g) ▸ h

lemma single {o : Operation} {f : Conditions → Conditions}
    (h : ∀ b, Ready b → b.plan.primary? = table → ∃ b', (apply made o).run b = (.ok (), b') ∧ Ready b' ∧
      b'.plan = { b.plan with conditions := f b.plan.conditions } ∧ b'.pending = b.pending) :
    Adds made table [o] f := by
  intro b hb ht
  obtain ⟨b', hr, hb', hp, hj⟩ := h b hb ht
  refine ⟨b', ?_, hb', hp, hj⟩
  rw [run_forM_cons hr]
  rfl

lemma token {keyword : Keyword} {t : Token} (hc : Plan.check keyword [] = .ok ())
    (hp : perform made keyword [] = pushToken t) (hk : keyword.isCommand = false)
    (hcl : keyword.isClause = false) (hn : keyword.isConnective = false) :
    Adds made table [⟨keyword, []⟩] fun c => c.pushToken t := by
  refine single fun b hb _ => ?_
  have hr := run_pushToken hb.clause t
  rw [← hp] at hr
  exact ⟨_, run_apply hc hr hk, ready_of_history rfl hb.clause hcl hn, rfl, rfl⟩

lemma connective (k : Connective) :
    Adds made table [k.operation] fun c => c.pushToken (.ofConnective k) := by
  refine single fun b hb _ => ?_
  have hr : (connect k).run b = (.ok (), { b with
      plan := { b.plan with conditions := b.plan.conditions.pushToken (.ofConnective k) } }) := by
    rw [connect_eq, if_neg (by simp [hb.last])]
    exact run_pushToken hb.clause _
  have hc (keyword : Keyword) : continues .whereKeys (keyword :: b.history) = false := by
    have hl := hb.last
    cases hh : b.history with
    | nil => rfl
    | cons previous history =>
      rw [hh] at hl
      have hp : (previous == Clause.keyword .whereKeys) = false := by
        cases previous with
        | whereKeys => simp [Keyword.isClause] at hl
        | _ => rfl
      rw [continues, hp, Bool.and_false]
  cases k with
  | and => exact ⟨_, run_apply rfl hr rfl, ⟨hb.clause, rfl, hc .and⟩, rfl, rfl⟩
  | or => exact ⟨_, run_apply rfl hr rfl, ⟨hb.clause, rfl, hc .or⟩, rfl, rfl⟩

lemma comparison (x : Comparison) :
    Adds made table x.operations fun c => c.append (x.tokens made table) := by
  intro b hb ht
  have hcheck : Plan.check .whereKeys [x.subject.arg] = .ok () := by cases x.subject <;> rfl
  have hw := @run_apply made _ _ _ _ hcheck (run_openKeys hb x) rfl
  rw [ht] at hw
  have hp := @run_perform_comparison made { b with
    keychain := [.column (x.column table)], clause := .whereKeys, history := .whereKeys :: b.history }
    rfl x table rfl
  have hk := x.accepted
  refine ⟨{ b with
    plan := { b.plan with conditions := b.plan.conditions.append (x.tokens made table) }
    history := x.keyword :: .whereKeys :: b.history
    keychain := [.column (x.column table)]
    clause := .whereKeys }, ?_, ready_of_history rfl rfl hk.2.2.1 hk.2.2.2, rfl, rfl⟩
  rw [Comparison.operations, run_forM_cons hw, run_forM_cons (run_apply hk.1 hp hk.2.1)]
  rfl

end Adds

mutual

lemma adds_atom (made : Results) (table : Option Table) (a : Atom) :
    Adds made table a.operations fun c => c.append (a.tokens made table) := by
  cases a with
  | comparison x =>
    rw [Atom.operations, Atom.tokens]
    exact .comparison x
  | not a =>
    have hn : Adds made table [⟨.not, []⟩] fun c => c.pushToken .not := .token rfl rfl rfl rfl rfl
    have h := hn.append (adds_atom made table a)
    rw [Atom.operations, Atom.tokens]
    refine h.congr fun c => ?_
    exact Conditions.append_append_of_apart (Token.apart_after rfl _)
  | group s =>
    have ho : Adds made table [⟨.openGroup, []⟩] fun c => c.pushToken .openGroup :=
      .token rfl rfl rfl rfl rfl
    have hc : Adds made table [⟨.closeGroup, []⟩] fun c => c.pushToken .closeGroup :=
      .token rfl rfl rfl rfl rfl
    have h := (ho.append (adds_sentence made table s)).append hc
    rw [Atom.operations, Atom.tokens]
    refine h.congr fun c => ?_
    rw [Conditions.pushToken, Conditions.pushToken,
      Conditions.append_append_of_apart (Token.apart_before rfl _),
      Conditions.append_append_of_apart (Token.apart_after rfl _)]
    rfl

lemma adds_sentence (made : Results) (table : Option Table) (s : Sentence) :
    Adds made table s.operations fun c => c.append (s.tokens made table) := by
  cases s with
  | atom a =>
    rw [Sentence.operations, Sentence.tokens]
    exact adds_atom made table a
  | link a connective s =>
    have ha := adds_atom made table a
    have hs := adds_sentence made table s
    rw [Sentence.operations, Sentence.tokens]
    cases connective with
    | none =>
      have h := ha.append hs
      rw [Option.map_none, Option.toList_none, List.append_nil]
      refine h.congr fun c => ?_
      exact Conditions.append_append_of_touch (a.bounded made table) (s.bounded made table)
    | some k =>
      have h := (ha.append (.connective k)).append hs
      rw [Option.map_some, Option.toList_some]
      refine h.congr fun c => ?_
      rw [Conditions.pushToken, Conditions.append_append_of_apart (Token.apart_before (by simp) _),
        Conditions.append_append_of_apart ?_]
      · simp
      · rw [List.getLast?_append_of_ne_nil _ (List.cons_ne_nil _ _)]
        exact Token.apart_after (by simp) _

end

lemma ready_of_run {made : Results} {head : Scheme} {b : Builder}
    (hh : ∀ o ∈ head, o.keyword.isCondition = false)
    (hr : (head.forM (apply made)).run empty = (.ok (), b)) : Ready b ∧ b.plan.conditions = .empty := by
  have ha := aim_of_run hh hr
  have hu : b.history.filter Keyword.isClause = [] := congrArg Aim.history ha
  refine ⟨⟨congrArg Aim.clause ha, ?_, continues_of_unopened hu _⟩, congrArg Aim.conditions ha⟩
  cases hb : b.history with
  | nil => rfl
  | cons keyword history =>
    rw [hb] at hu
    simpa using List.filter_eq_nil_iff.mp hu keyword List.mem_cons_self

end Builder

namespace Plan

theorem ofScheme_sentence (made : Results) {head : Scheme} {p : Plan}
    (hh : ∀ o ∈ head, o.keyword.isCondition = false) (hp : ofScheme made head = .ok p) (s : Sentence) :
    ∃ p', ofScheme made (head ++ s.operations) = .ok p' ∧
      ∀ rs row, p'.conditions.test rs row = (s.verdict made rs row p.primary?).getD true := by
  obtain ⟨b, hr, hj, rfl⟩ := ofScheme_eq_ok hp
  obtain ⟨hb, hc⟩ := Builder.ready_of_run hh hr
  obtain ⟨b', hr', _, hp', hj'⟩ := Builder.adds_sentence made b.plan.primary? s b hb rfl
  refine ⟨b'.plan.resolve, ?_, fun rs row => ?_⟩
  · rw [ofScheme, run_forM_append hr, hr']
    dsimp only
    rw [Builder.finish, hj', hj]
  · have ht : b'.plan.resolve.conditions.formula? =
        Formula.ofTokens? (s.tokens made b.plan.primary?) := by
      show Formula.ofTokens? b'.plan.conditions.tokens = _
      rw [hp', hc]
      simp [Conditions.append, Conditions.empty]
    have hv := s.verdict?_tokens made b.plan.primary? rs row
    rw [← ht] at hv
    rw [Conditions.test]
    exact congrArg (Option.getD · true) hv

theorem ofScheme_sentence_mixed :
    ∃ p, ofScheme [] [⟨.select, []⟩, ⟨.fromTables, [.table (.named "users")]⟩,
        ⟨.not, []⟩, ⟨.whereKeys, [.value (.string "age")]⟩, ⟨.isNull, []⟩, ⟨.or, []⟩,
        ⟨.whereKeys, [.value (.string "age")]⟩, ⟨.isNull, []⟩,
        ⟨.whereKeys, [.value (.string "orders.total")]⟩, ⟨.isNull, []⟩, ⟨.and, []⟩,
        ⟨.openGroup, []⟩, ⟨.whereKeys, [.value (.string "tag")]⟩, ⟨.isNull, []⟩, ⟨.or, []⟩,
        ⟨.not, []⟩, ⟨.whereKeys, [.value (.string "name")]⟩,
        ⟨.eq, [.value (.string "Ann"), .value (.string "Bob")]⟩, ⟨.closeGroup, []⟩] = .ok p ∧
      p.conditions.test [] (.ofValue (.named "users") "u1"
        (.object [("age", .null), ("name", .string "Bob"), ("tag", .string "x")])) = false := by
  have hh : ∀ o ∈ [(⟨.select, []⟩ : Operation), ⟨.fromTables, [.table (.named "users")]⟩],
      o.keyword.isCondition = false := by simp [Keyword.isCondition]
  obtain ⟨p, hp, ht⟩ := ofScheme_sentence [] hh rfl
    (.link (.not (.comparison ⟨.text "age", .isNull, [], trivial⟩)) (some .or)
      (.link (.comparison ⟨.text "age", .isNull, [], trivial⟩) none
        (.link (.comparison ⟨.text "orders.total", .isNull, [], trivial⟩) (some .and)
          (.atom (.group (.link (.comparison ⟨.text "tag", .isNull, [], trivial⟩) (some .or)
            (.atom (.not (.comparison ⟨.text "name", .eq, [.value (.string "Ann"), .value (.string "Bob")],
              Nat.two_pos⟩)))))))))
  refine ⟨p, hp, ?_⟩
  rw [ht]
  rfl

end Plan

end DocQuery
