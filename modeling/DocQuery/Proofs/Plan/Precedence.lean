import DocQuery.Proofs.Plan.Keychains
import DocQuery.Proofs.Plan.Spelling

/-! What a keychain says of a row. Written from left to right, with a connective before each key, its keys are the
operands of a formula in which `and` binds tighter than `or`; a scope is a formula in brackets, and a scope of nothing
is not written. -/

namespace DocQuery

namespace Verdict

def runs (run : List Verdict) : List (Connective × Verdict) → List (List Verdict)
  | [] => [run]
  | (.and, v) :: rest => runs (run ++ [v]) rest
  | (.or, v) :: rest => run :: runs [v] rest

def written : List (Connective × Verdict) → Verdict
  | [] => none
  | (_, v) :: rest => any ((runs [v] rest).map all)

lemma any_append_none_cons (vs ws : List Verdict) : any (vs ++ none :: ws) = any (vs ++ ws) :=
  any_congr fun b => by simp

lemma any_runs_nil (vs : List (Connective × Verdict)) : any ((runs [] vs).map all) = written vs := by
  match vs with
  | [] => rfl
  | (.and, v) :: rest => rfl
  | (.or, v) :: rest => exact any_append_none_cons [] _

end Verdict

namespace Key

section

variable (holds : Column → Verdict)

def before (connective : Connective) : Key → Connective
  | column _ => connective
  | scope own _ => own

mutual

def verdict : Key → Verdict
  | column c => holds c
  | scope own items => Verdict.written (operands own items)

def operands (connective : Connective) : List Key → List (Connective × Verdict)
  | [] => []
  | k :: ks =>
    if k.columns.isEmpty then operands connective ks
    else (k.before connective, verdict k) :: operands connective ks

end

end

end Key

namespace Keychain

section

variable (made rs : Results) (row : Row)

lemma verdict_joined_or (es : List Expression) :
    (joined .or es).bind (Expression.verdict made rs row) = Verdict.any (es.map (Expression.verdict made rs row)) := by
  match es with
  | [] => rfl
  | [e] => exact (Verdict.any_singleton _).symm
  | e :: f :: es => exact congrArg Verdict.any (Expression.verdicts_eq_map made rs row _)

lemma map_joined_and {es : List Expression} (hne : es ≠ []) :
    (joined .and es).toList.map (Expression.verdict made rs row) =
      [Verdict.all (es.map (Expression.verdict made rs row))] := by
  match es with
  | [] => exact absurd rfl hne
  | [e] => exact congrArg ([·]) (Verdict.all_singleton _).symm
  | e :: f :: es => exact congrArg ([Verdict.all ·]) (Expression.verdicts_eq_map made rs row _)

namespace Chain

def verdict (c : Chain) (rest : List (Connective × Verdict)) : Verdict :=
  Verdict.any (c.terms.map (Expression.verdict made rs row) ++
    (Verdict.runs (c.factors.map (Expression.verdict made rs row)) rest).map Verdict.all)

lemma verdict_expression? (c : Chain) :
    c.expression?.bind (Expression.verdict made rs row) = c.verdict made rs row [] := by
  rw [expression?, verdict_joined_or, List.map_append, verdict, Verdict.runs, List.map_singleton]
  by_cases hne : c.factors = []
  · rw [hne]
    exact (Verdict.any_append_none_cons _ []).symm
  · rw [map_joined_and made rs row hne]

lemma verdict_start (index : Nat) (rest : List (Connective × Verdict)) :
    (start index).verdict made rs row rest = Verdict.written rest :=
  Verdict.any_runs_nil rest

lemma verdict_add (c : Chain) (connective : Connective) (e : Expression) (index : Nat)
    (rest : List (Connective × Verdict)) : (c.add connective (some e) index).verdict made rs row rest =
      c.verdict made rs row ((connective, e.verdict made rs row) :: rest) := by
  cases connective with
  | and =>
    rw [verdict, verdict, Verdict.runs]
    simp only [add, List.map_append, List.map_singleton]
  | or =>
    rw [verdict, verdict, Verdict.runs]
    cases hf : c.factors with
    | nil =>
      simp only [add, hf]
      exact (Verdict.any_append_none_cons _ _).symm
    | cons f fs =>
      simp only [add, hf, List.map_append, map_joined_and made rs row (List.cons_ne_nil f fs), List.append_assoc]
      rfl

end Chain

def Means (leaf : Nat → Column → Except Error Expression) (holds : Column → Verdict) : Prop :=
  ∀ i c e, leaf i c = .ok e → e.verdict made rs row = holds c

variable {made rs row} {leaf : Nat → Column → Except Error Expression} {holds : Column → Verdict}

mutual

lemma verdict_ofKey (hl : Means made rs row leaf holds) {connective before : Connective} {depth index after : Nat}
    {k : Key} {e : Expression} (h : ofKey leaf connective depth index k = .ok (before, some e, after)) :
    before = k.before connective ∧ e.verdict made rs row = k.verdict holds := by
  cases k with
  | column c =>
    obtain ⟨e, he, hx⟩ := ofKey_column h
    cases hx
    exact ⟨rfl, hl _ _ _ he⟩
  | scope own items =>
    obtain ⟨c, hc, hx⟩ := ofKey_scope h
    obtain ⟨rfl, he, -⟩ : before = own ∧ some e = c.expression? ∧ after = c.index := by simpa using hx
    have hv := c.verdict_expression? made rs row
    rw [← he, verdict_ofKeys hl hc, Chain.verdict_start, List.append_nil] at hv
    exact ⟨rfl, hv⟩

lemma verdict_ofKeys (hl : Means made rs row leaf holds) {connective : Connective} {depth : Nat}
    {chain chain' : Chain} {ks : List Key} {rest : List (Connective × Verdict)}
    (h : ofKeys leaf connective depth chain ks = .ok chain') :
    chain'.verdict made rs row rest = chain.verdict made rs row (Key.operands holds connective ks ++ rest) := by
  cases ks with
  | nil =>
    cases h
    rfl
  | cons k ks =>
    obtain ⟨before, e, index, hk, h⟩ := ofKeys_cons h
    rw [verdict_ofKeys hl h, Key.operands]
    cases e with
    | none =>
      rw [if_pos (List.isEmpty_iff.mpr ((ofKey_eq_none_iff hk).mp rfl))]
      rfl
    | some e =>
      have hne : k.columns ≠ [] := fun hn => nomatch (ofKey_eq_none_iff hk).mpr hn
      obtain ⟨rfl, he⟩ := verdict_ofKey hl hk
      rw [Chain.verdict_add, he, if_neg (by simpa using hne)]
      rfl

end

lemma verdict_expression? (hl : Means made rs row leaf holds) {keys : List Key} {e : Option Expression}
    (h : expression? leaf keys = .ok e) :
    e.bind (Expression.verdict made rs row) = Verdict.written (Key.operands holds .and keys) := by
  obtain ⟨c, hc, rfl⟩ := Except.map_eq_ok h
  rw [Chain.verdict_expression?, verdict_ofKeys hl hc, Chain.verdict_start, List.append_nil]

end

end Keychain

def Keyword.compares (keyword : Keyword) (v w : Value) : Bool :=
  match keyword with
  | eq => v.equals w
  | gt => v.partialCompare w == some .gt
  | lt => v.partialCompare w == some .lt
  | like =>
    match w.string? with
    | some s => !v.isNull && (Pattern.read? s).any (·.accepts v.text)
    | none => v.equals w
  | _ => false

def Keyword.verdict (keyword : Keyword) (values : List Value) (row : Row) (c : Column) : Verdict :=
  Test.onColumn row c fun v => if keyword = .isNull then v.isNull else values.any (keyword.compares v)

lemma Test.any_onColumn (row : Row) (c : Column) (p : Value → Value → Bool) {values : List Value} (hne : values ≠ []) :
    Verdict.any (values.map fun w => onColumn row c fun v => p v w) = onColumn row c fun v => values.any (p v) := by
  cases hc : row.coversColumn c with
  | false =>
    have hnone : values.map (fun w => onColumn row c fun v => p v w) = values.map fun _ => none :=
      List.map_congr_left fun w _ => by rw [onColumn, hc]; rfl
    rw [hnone, onColumn, hc]
    simp [Verdict.any]
  | true =>
    have hsome : values.map (fun w => onColumn row c fun v => p v w) = values.map fun w => some (p (row.read c) w) :=
      List.map_congr_left fun w _ => by rw [onColumn, hc]; rfl
    rw [hsome, onColumn, if_pos hc, Verdict.any]
    cases ha : values.any (p (row.read c)) with
    | true =>
      rw [if_pos]
      simpa using ha
    | false =>
      have hall : ∀ w ∈ values, p (row.read c) w = false := by simpa using ha
      obtain ⟨w, hw⟩ := List.exists_mem_of_ne_nil values hne
      rw [if_neg, if_pos (List.mem_map.mpr ⟨w, hw, by rw [hall w hw]⟩)]
      simpa using hall

def Keyword.isSingle : Keyword → Bool
  | eq | gt | lt | like | isNull => true
  | _ => false

namespace Keychain

lemma verdict_comparison (made rs : Results) (row : Row) {keyword : Keyword} (hk : keyword.isSingle = true)
    (hn : keyword ≠ .isNull) (c : Column) (w : Value) :
    (Expression.comparison keyword c [.value w]).verdict made rs row =
      Test.onColumn row c fun v => keyword.compares v w := by
  have hw : ∀ rs, Operand.valuesOfAll rs false [.value w] = [w] := fun rs => by
    simp [Operand.valuesOfAll, Operand.values]
  cases keyword with
  | eq => simp [Expression.verdict, Test.ofKeyword?, Test.eval, hw, Keyword.compares]
  | gt => simp [Expression.verdict, Test.ofKeyword?, Test.eval, hw, Keyword.compares]
  | lt => simp [Expression.verdict, Test.ofKeyword?, Test.eval, hw, Keyword.compares]
  | like =>
    -- a text is read as a pattern, where it can be; any other value is looked for as it is
    have hlike : Test.isLike ([w].filterMap fun v => v.string?.bind Pattern.read?)
        ([w].filter fun v => v.string?.isNone) = fun v => Keyword.like.compares v w := by
      funext v
      cases hs : w.string? with
      | none => simp [Test.isLike, Keyword.compares, hs]
      | some text => cases hp : Pattern.read? text <;> simp [Test.isLike, Keyword.compares, hs, hp]
    rw [Expression.verdict, Test.ofKeyword?, hw, Option.bind_some, Test.eval, hlike]
  | isNull => exact absurd rfl hn
  | _ => cases hk

lemma means_anyOf (made rs : Results) (row : Row) {keyword : Keyword} (hk : keyword.isSingle = true)
    {values : List Value} (hne : keyword ≠ .isNull → values ≠ []) :
    Means made rs row (fun _ c => if keyword = .isNull then .ok (.comparison keyword c []) else
      anyOf keyword (values.map .value) c) (keyword.verdict values row) := by
  intro _ c e he
  by_cases hn : keyword = .isNull
  · subst hn
    cases he
    simp [Expression.verdict, Test.ofKeyword?, Test.eval, Keyword.verdict]
  · have hplain : anyOf keyword (values.map .value) c = .ok ((joined .or (values.map fun w =>
        .comparison keyword c [.value w])).getD (.comparison keyword c [])) := by
      simpa [Function.comp_def, Plain.operand] using Builder.anyOf_plain keyword c (values.map .value)
    dsimp only at he
    rw [if_neg hn, hplain] at he
    have hj : joined .or (values.map fun w => .comparison keyword c [.value w]) = some e := by
      cases hj : joined .or (values.map fun w => .comparison keyword c [.value w]) with
      | none => exact absurd (List.map_eq_nil_iff.mp ((joined_eq_none_iff _ _).mp hj)) (hne hn)
      | some e' =>
        rw [hj] at he
        exact congrArg some (Except.ok.inj he)
    have hv := verdict_joined_or made rs row (values.map fun w => .comparison keyword c [.value w])
    rw [hj, Option.bind_some, List.map_map] at hv
    have hmap : values.map (Expression.verdict made rs row ∘ fun w => .comparison keyword c [.value w]) =
        values.map fun w => Test.onColumn row c fun v => keyword.compares v w :=
      List.map_congr_left fun w _ => verdict_comparison made rs row hk hn c w
    rw [hv, hmap, Test.any_onColumn row c keyword.compares (hne hn), Keyword.verdict]
    simp only [hn, if_false]

end Keychain

def Scheme.clauses (args : List Arg) (links : List (Connective × List Arg)) (last : Option Connective) : Scheme :=
  ⟨.whereKeys, args⟩ :: links.flatMap (fun l => [l.1.operation, ⟨.whereKeys, l.2⟩]) ++
    last.toList.map Connective.operation

def Key.ofLinks (table : Option Table) : List (Connective × List Arg) → Except Error (List Key)
  | [] => .ok []
  | l :: links => do
    let items ← Key.ofArgs table 0 l.2
    let scopes ← ofLinks table links
    .ok (.scope l.1 items :: scopes)

namespace Builder

variable {made : Results} {b b' : Builder}

lemma apply_where_eq_ok {args : List Arg} (h : (apply made ⟨.whereKeys, args⟩).run b = (.ok (), b')) :
    ∃ keys keychain, Key.ofArgs b.plan.primary? 0 args = .ok keys ∧
      (if continues .whereKeys b.history then extendLast keys b.keychain else some keys) = some keychain ∧
      b' = { b with keychain := keychain, clause := .whereKeys, history := .whereKeys :: b.history } := by
  obtain ⟨_, u, hopen, rfl⟩ := run_apply_eq_ok_of_command rfl h
  obtain ⟨keys, keychain, hkeys, hkeychain, rfl⟩ := run_openKeys_eq_ok_iff.mp hopen
  exact ⟨keys, keychain, hkeys, hkeychain, rfl⟩

lemma run_connective (connective : Connective) (h : b.history.head?.any Keyword.isClause = true) :
    (apply made connective.operation).run b = (.ok (), { b with
      keychain := b.keychain ++ [.scope connective []], history := connective.operation.keyword :: b.history }) := by
  have hrun := apply_connective made connective [] b
  rw [if_pos h] at hrun
  cases connective <;> exact hrun

lemma run_links {links : List (Connective × List Arg)} {last : Option Connective} {history : List Keyword}
    (hh : b.history = .whereKeys :: history) (hc : b.clause = .whereKeys)
    (h : ((links.flatMap (fun l => [l.1.operation, ⟨.whereKeys, l.2⟩]) ++
      last.toList.map Connective.operation).forM (apply made)).run b = (.ok (), b')) :
    ∃ scopes, Key.ofLinks b.plan.primary? links = .ok scopes ∧ b'.plan = b.plan ∧ b'.clause = .whereKeys ∧
      b'.keychain = b.keychain ++ scopes ++ last.toList.map fun connective => .scope connective [] := by
  induction links generalizing b history with
  | nil =>
    refine ⟨[], rfl, ?_⟩
    cases last with
    | none =>
      cases h
      exact ⟨rfl, hc, by simp⟩
    | some connective =>
      have ha := run_forM_cons (@run_connective made b connective (by rw [hh]; rfl)) []
      cases ha.symm.trans h
      exact ⟨rfl, hc, by simp⟩
  | cons l links ih =>
    obtain ⟨connective, args⟩ := l
    have hscope := @run_connective made b connective (by rw [hh]; rfl)
    have hwhere := (run_forM_cons hscope _).symm.trans h
    obtain ⟨_, u, ha, hrest⟩ := run_bind_eq_ok hwhere
    obtain ⟨keys, keychain, hkeys, hkeychain, rfl⟩ := apply_where_eq_ok ha
    have hcontinues : continues .whereKeys (connective.operation.keyword :: b.history) = true := by
      rw [hh]
      cases connective <;> rfl
    rw [if_pos hcontinues, extendLast_concat, List.nil_append] at hkeychain
    cases hkeychain
    obtain ⟨scopes, hscopes, hplan, hclause, hk⟩ := ih rfl rfl hrest
    refine ⟨.scope connective keys :: scopes, ?_, hplan, hclause, ?_⟩
    · rw [Key.ofLinks, hkeys, hscopes]
      rfl
    · rw [hk]
      simp

lemma perform_of_isSingle {keyword : Keyword} (hk : keyword.isSingle = true) (args : List Arg) :
    perform made keyword args = compareKeys made keyword args ∧ keyword.isCommand = false ∧
      (Plan.check keyword args = .ok () → keyword ≠ .isNull → args ≠ []) := by
  cases keyword with
  | eq | gt | lt | like =>
    refine ⟨rfl, rfl, fun hc _ => ?_⟩
    rintro rfl
    cases hc
  | isNull => exact ⟨rfl, rfl, fun _ hn => absurd rfl hn⟩
  | _ => cases hk

lemma apply_comparison_eq_ok {keyword : Keyword} (hk : keyword.isSingle = true) {values : List Value}
    (h : (apply made ⟨keyword, values.map .value⟩).run b = (.ok (), b')) :
    ∃ ts f, b'.plan = (b.setTarget (b.target.append ts)).plan ∧ Expression.Reads ts f ∧ ∀ rs row,
      Formula.verdict? rs row f = Verdict.written (Key.operands (keyword.verdict values row) .and b.keychain) := by
  obtain ⟨hperform, hcommand, hne⟩ := @perform_of_isSingle made keyword hk (values.map .value)
  obtain ⟨hcheck, u, hp, rfl⟩ := run_apply_eq_ok_of_command hcommand h
  rw [hperform] at hp
  obtain ⟨operands, hoperands, hp⟩ := run_comparison_eq_ok hp
  obtain rfl : operands = values.map .value := by
    have hplain := ofArgs_plain (values.map .value)
    simp only [List.map_map] at hplain
    exact Except.ok.inj (hoperands.symm.trans hplain)
  obtain ⟨e, hexpression, hp⟩ := run_pushLeaves_eq_ok hp
  obtain ⟨ts, hts, rfl⟩ := pushExpression_eq_ok hp
  have hv : ∀ rs row, e.bind (Expression.verdict made rs row) =
      Verdict.written (Key.operands (keyword.verdict values row) .and b.keychain) := fun rs row =>
    Keychain.verdict_expression? (Keychain.means_anyOf made rs row hk fun hn => by
      simpa using hne hcheck hn) hexpression
  refine ⟨ts, e.bind (Expression.formula? made), rfl, ?_, fun rs row => ?_⟩
  · cases e with
    | none =>
      cases hts
      rfl
    | some e => exact Expression.reads_tokens made hts
  · rw [← hv rs row]
    cases e with
    | none => rfl
    | some e => exact Expression.verdict?_formula? made rs row e

theorem conditions_of_clauses {args : List Arg} {links : List (Connective × List Arg)} {last : Option Connective}
    {b₁ : Builder} (hb : continues .whereKeys b.history = false)
    (hopen : ((Scheme.clauses args links last).forM (apply made)).run b = (.ok (), b₁)) :
    b₁.plan = b.plan ∧ b₁.clause = .whereKeys ∧
    (∃ keys scopes, Key.ofArgs b.plan.primary? 0 args = .ok keys ∧ Key.ofLinks b.plan.primary? links = .ok scopes ∧
      b₁.keychain = keys ++ scopes ++ last.toList.map fun connective => .scope connective []) ∧
    ∀ {keyword values c c'}, keyword.isSingle = true → c.keychain = b₁.keychain → c.clause = .whereKeys →
      (apply made ⟨keyword, List.map .value values⟩).run c = (.ok (), c') →
      ∃ ts f, c'.plan = { c.plan with conditions := c.plan.conditions.append ts } ∧ Expression.Reads ts f ∧
        (∀ rs row, Formula.verdict? rs row f =
          Verdict.written (Key.operands (keyword.verdict values row) .and b₁.keychain)) ∧
        (c.plan.conditions = .empty → ∀ rs row, c'.plan.conditions.verdict rs row =
          Verdict.written (Key.operands (keyword.verdict values row) .and b₁.keychain)) := by
  obtain ⟨_, u, hwhere, hrest⟩ := run_bind_eq_ok hopen
  obtain ⟨keys, keychain, hkeys, hkeychain, rfl⟩ := apply_where_eq_ok hwhere
  rw [hb] at hkeychain
  cases hkeychain
  obtain ⟨scopes, hscopes, hplan, hclause, hkeychain⟩ := run_links rfl rfl hrest
  refine ⟨hplan, hclause, ⟨keys, scopes, hkeys, hscopes, hkeychain⟩, ?_⟩
  intro keyword values c c' hk hopened hwhere hrun
  obtain ⟨ts, f, hadded, hreads, hverdict⟩ := apply_comparison_eq_ok hk hrun
  rw [setTarget_of_clause hwhere, target_of_clause hwhere] at hadded
  rw [hopened] at hverdict
  refine ⟨ts, f, hadded, hreads, hverdict, fun hempty rs row => ?_⟩
  have htokens : (Conditions.empty.append ts).tokens = ts := by simp [Conditions.append, Conditions.empty]
  rw [hadded, hempty, Conditions.verdict, Conditions.formula?, htokens, hreads.ofTokens?]
  exact hverdict rs row

def aOrBoth : Scheme :=
  .clauses [.column (.named "a")]
    [(.or, [.column (.named "b"), .scope .and [.scope .or [], .column (.named "c")]])] none

theorem conditions_of_clauses_aOrBoth :
    ∃ b₁ b₂, (aOrBoth.forM (apply [])).run empty = (.ok (), b₁) ∧
      (apply [] ⟨.eq, [.value (.int 1)]⟩).run b₁ = (.ok (), b₂) ∧
      b₂.plan.conditions.verdict [] (.ofValue (.named "t") "1"
        (.object [("a", .int 0), ("b", .int 1), ("c", .int 1)])) = some true := by
  have hopen : (aOrBoth.forM (apply [])).run empty = (.ok (), ((aOrBoth.forM (apply [])).run empty).2) := rfl
  have hcompare : (apply [] ⟨.eq, List.map .value [.int 1]⟩).run ((aOrBoth.forM (apply [])).run empty).2 =
    (.ok (), _) := rfl
  obtain ⟨-, hclause, -, hcomparison⟩ := conditions_of_clauses rfl hopen
  obtain ⟨_, _, _, _, _, hverdict⟩ := hcomparison rfl rfl hclause hcompare
  exact ⟨_, _, hopen, hcompare, (hverdict rfl _ _).trans rfl⟩

end Builder

end DocQuery
