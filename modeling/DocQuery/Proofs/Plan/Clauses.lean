import DocQuery.Proofs.Plan.Abreast
import DocQuery.Proofs.Plan.Spelling

/-! Conditions of `HAVING` against the same conditions of `WHERE`. They are accepted alike and have the same tokens,
but those before the first clause are conditions of `WHERE` in any case. -/

namespace DocQuery

namespace Conditions

lemma append_ne_nil (c : Conditions) {ts : List Token} (h : ts ≠ []) : (c.append ts).tokens ≠ [] := by
  simp [append, h]

lemma empty_append (ts : List Token) : empty.append ts = ⟨ts⟩ := by simp [append, empty]

end Conditions

namespace Keyword

def toHaving : Keyword → Keyword
  | whereKeys => havingKeys
  | keyword => keyword

def isSpelling (keyword : Keyword) : Bool := keyword == whereKeys || keyword.isComparing

lemma toHaving_of_isComparing {keyword : Keyword} (h : keyword.isComparing = true) : keyword.toHaving = keyword := by
  cases keyword <;> first | rfl | cases h

end Keyword

def Operation.toHaving (o : Operation) : Operation := { o with keyword := o.keyword.toHaving }

def Scheme.toHaving (s : Scheme) : Scheme := s.map Operation.toHaving

namespace Builder

inductive Aside (lead : Conditions) : Builder → Builder → Prop
  | intro (b : Builder) (having : Conditions) : b.clause = .whereKeys → (∀ k ∈ b.history, k ≠ .havingKeys) →
    b.plan.conditions = lead.append having.tokens →
    Aside lead b { b with
      plan := { b.plan with conditions := lead, having := having }
      history := b.history.map Keyword.toHaving
      clause := .havingKeys }

variable {lead : Conditions} {made : Results} {b b' c : Builder} {o : Operation}

lemma abreast_aside (lead : Conditions) : Abreast (Aside lead) where
  keychain := by
    rintro b _ ⟨having, hc, hh, ht⟩
    rfl
  primary? := by
    rintro b _ ⟨having, hc, hh, ht⟩
    rfl
  opened := by
    rintro b _ ⟨having, hc, hh, ht⟩
    cases b.history with
    | nil => rfl
    | cons keyword history => cases keyword <;> rfl
  setKeychain := by
    rintro b _ ⟨having, hc, hh, ht⟩ keys
    exact .intro { b with keychain := keys } having hc hh ht
  append := by
    rintro ⟨plan, history, keychain, clause, pending⟩ _ ⟨having, rfl, hh, ht⟩ ts
    refine .intro ⟨{ plan with conditions := plan.conditions.append ts }, history, keychain, .whereKeys, pending⟩
      (having.append ts) rfl hh ?_
    rw [ht]
    exact Conditions.append_append lead having.tokens ts

lemma continues_toHaving {history : List Keyword} (h : ∀ k ∈ history, k ≠ .havingKeys) :
    continues .havingKeys (history.map Keyword.toHaving) = continues .whereKeys history := by
  obtain _ | ⟨last, _ | ⟨previous, history⟩⟩ := history
  · rfl
  · rfl
  · have hp : previous ≠ .havingKeys := h previous (by simp)
    have hlast : last.toHaving.isConnective = last.isConnective := by cases last <;> rfl
    have hprevious : (previous.toHaving == Clause.keyword .havingKeys) = (previous == Clause.keyword .whereKeys) := by
      cases previous <;> first | rfl | exact absurd rfl hp
    rw [List.map_cons, List.map_cons, continues, continues, hlast, hprevious]

lemma aside_perform (rs : Results) {keyword : Keyword} (hk : keyword.isSpelling = true) (args : List Arg) :
    Alike (Aside lead) Eq (perform rs keyword args) (perform rs keyword.toHaving args) := by
  by_cases hw : keyword = .whereKeys
  · subst hw
    refine (abreast_aside lead).openKeys ?_ ?_ args
    · rintro b _ ⟨having, hc, hh, ht⟩
      exact continues_toHaving hh
    · rintro b _ ⟨having, hc, hh, ht⟩ keys
      exact .intro { b with keychain := keys, clause := .whereKeys } having rfl hh ht
  · have hc : keyword.isComparing = true := by simpa [Keyword.isSpelling, hw] using hk
    rw [Keyword.toHaving_of_isComparing hc]
    exact (abreast_aside lead).perform rs hc args

lemma isCommand_of_isSpelling {keyword : Keyword} (hk : keyword.isSpelling = true) :
    keyword.isCommand = false ∧ keyword.toHaving.isCommand = false ∧ keyword ≠ .havingKeys := by
  refine and_assoc.mp ⟨?_, ?_⟩
  · cases keyword <;> first | exact ⟨rfl, rfl⟩ | cases hk
  · rintro rfl
    cases hk

lemma aside_accept {keyword : Keyword} (hk : keyword.isSpelling = true) :
    Alike (Aside lead) Eq (accept keyword) (accept keyword.toHaving) := by
  obtain ⟨hc, hc', hne⟩ := isCommand_of_isSpelling hk
  unfold accept
  rw [Keyword.command?_eq_none hc, Keyword.command?_eq_none hc']
  refine .bind_eq (.update ?_) fun _ => .update ?_
  · rintro b _ ⟨having, hw, hh, ht⟩
    exact .intro { b with plan := { b.plan with command := b.plan.command <|> none } } having hw hh ht
  · rintro b _ ⟨having, hw, hh, ht⟩
    exact .intro { b with history := keyword :: b.history } having hw
      (List.forall_mem_cons.mpr ⟨hne, hh⟩) ht

lemma check_toHaving {keyword : Keyword} {args : List Arg} (h : Plan.check keyword args = .ok ()) :
    Plan.check keyword.toHaving args = .ok () := by
  cases keyword with
  | whereKeys =>
    match args, h with
    | a :: args, h => cases a <;> first | rfl | cases h
  | _ => exact h

lemma aside_apply (hk : o.keyword.isSpelling = true) (hb : Aside lead b c)
    (h : (apply made o).run b = (.ok (), b')) :
    ∃ c', (apply made o.toHaving).run c = (.ok (), c') ∧ Aside lead b' c' := by
  obtain ⟨hc, h⟩ := run_apply_eq_ok h
  have ha := Alike.bind_eq (aside_perform made hk o.args) (fun _ => aside_accept hk) b c hb
  rw [h] at ha
  refine ⟨_, ?_, ha.2⟩
  rw [run_apply_of_check (check_toHaving hc)]
  exact Prod.ext ha.1.eq.symm rfl

lemma aside_forM {ops : Scheme} (hk : ∀ o ∈ ops, o.keyword.isSpelling = true) (hb : Aside lead b c)
    (h : (ops.forM (apply made)).run b = (.ok (), b')) :
    ∃ c', ((Scheme.toHaving ops).forM (apply made)).run c = (.ok (), c') ∧ Aside lead b' c' := by
  induction ops generalizing b c with
  | nil =>
    cases h
    exact ⟨c, rfl, hb⟩
  | cons o ops ih =>
    obtain ⟨_, u, ho, h⟩ := run_bind_eq_ok h
    obtain ⟨c₁, ho', hb₁⟩ := aside_apply (hk o List.mem_cons_self) hb ho
    obtain ⟨c', h', hb'⟩ := ih (fun o hm => hk o (List.mem_cons_of_mem _ hm)) hb₁ h
    exact ⟨c', (run_forM_cons ho' _).trans h', hb'⟩

def Unopened (b : Builder) : Prop := b.aim = { empty.aim with conditions := b.plan.conditions }

lemma Unopened.keychain (hb : Unopened b) : b.keychain = [] := congrArg Aim.keychain hb

lemma Unopened.clause (hb : Unopened b) : b.clause = .whereKeys := congrArg Aim.clause hb

lemma Unopened.history (hb : Unopened b) : b.history.filter Keyword.isClause = [] := congrArg Aim.history hb

lemma Unopened.having (hb : Unopened b) : b.plan.having = .empty := congrArg Aim.having hb

lemma unopened_of_run {head : Scheme} (hh : ∀ o ∈ head, o.keyword.isCondition = false)
    (hr : (head.forM (apply made)).run empty = (.ok (), b)) : Unopened b := by
  have ha := aim_of_run hh hr
  have hc : b.plan.conditions = empty.plan.conditions := congrArg Aim.conditions ha
  rw [Unopened, ha, hc]
  rfl

lemma unopened_perform {keyword : Keyword} {args : List Arg} (hk : keyword.isComparing = true) (hb : Unopened b)
    (h : (perform made keyword args).run b = (.ok (), b')) :
    ∃ ts, ts ≠ [] ∧ b' = { b with plan := { b.plan with conditions := b.plan.conditions.append ts } } := by
  have htoken (t : Token) (h : (pushToken t).run b = (.ok (), b')) : b' =
      { b with plan := { b.plan with conditions := b.plan.conditions.append [t] } } :=
    (congrArg Prod.snd ((run_pushToken hb.clause t).symm.trans h)).symm
  have hconnect (connective : Connective) (h : (connect connective).run b = (.ok (), b')) : b' =
      { b with plan := { b.plan with conditions := b.plan.conditions.append [.ofConnective connective] } } := by
    rw [connect_eq, if_neg] at h
    · exact htoken _ h
    · cases hh : b.history with
      | nil => simp
      | cons last history => simpa using List.filter_eq_nil_iff.mp hb.history last (by simp [hh])
  -- a comparison needs a keychain, and none is open
  have hkeys {f : List Key → Building Unit} {keyword : Keyword}
      (h : (requireKeys keyword >>= f).run b = (.ok (), b')) : False := by
    have hr : (requireKeys keyword).run b = (.error (.malformed (.noKey keyword)), b) := by
      rw [requireKeys, run_bind_of_ok (m := get) rfl, hb.keychain]
      rfl
    rw [run_bind_of_error hr] at h
    cases h
  cases keyword with
  | and => exact ⟨_, List.cons_ne_nil _ _, hconnect .and h⟩
  | or => exact ⟨_, List.cons_ne_nil _ _, hconnect .or h⟩
  | not => exact ⟨_, List.cons_ne_nil _ _, htoken _ h⟩
  | openGroup => exact ⟨_, List.cons_ne_nil _ _, htoken _ h⟩
  | closeGroup => exact ⟨_, List.cons_ne_nil _ _, htoken _ h⟩
  | existsRows =>
    obtain ⟨operands, u, ho, hpush⟩ := run_bind_eq_ok h
    obtain rfl : u = b := by
      rw [operandsOf] at ho
      cases hos : Operand.ofArgs 0 args <;> rw [hos] at ho <;> cases ho
      rfl
    have ht : (Expression.comparison .existsRows .rowKey operands).tokens made 0 = .ok
        [.leaf ⟨Leaf.name .existsRows .rowKey, .nonempty (operands.filterMap Operand.output?)⟩] := rfl
    exact ⟨_, List.cons_ne_nil _ _, (congrArg Prod.snd ((run_pushExpression hb.clause ht).symm.trans hpush)).symm⟩
  | eq => exact (hkeys h).elim
  | gt => exact (hkeys h).elim
  | lt => exact (hkeys h).elim
  | like => exact (hkeys h).elim
  | isNull => exact (hkeys h).elim
  | isIn => exact (hkeys h).elim
  | between => exact (hkeys h).elim
  | _ => cases hk

lemma unopened_apply (hk : o.keyword.isComparing = true) (hb : Unopened b)
    (h : (apply made o).run b = (.ok (), b')) : Unopened b' ∧ b'.plan.conditions.tokens ≠ [] := by
  obtain ⟨_, h⟩ := run_apply_eq_ok h
  obtain ⟨_, u, hp, h⟩ := run_bind_eq_ok h
  obtain ⟨ts, hts, rfl⟩ := unopened_perform hk hb hp
  cases h
  refine ⟨?_, Conditions.append_ne_nil _ hts⟩
  have hnot : o.keyword.isClause = false := by
    cases hw : o.keyword <;> rw [hw] at hk <;> first | rfl | cases hk
  rw [Unopened, aim]
  simp only [List.filter_cons, hnot, Bool.false_eq_true, if_false, hb.history, hb.having, hb.keychain, hb.clause]
  rfl

lemma run_openKeys_iff_of_unopened (hb : Unopened b) (clause : Clause) {args : List Arg} :
    (openKeys clause args).run b = (.ok (), b') ↔ ∃ keys, Key.ofArgs b.plan.primary? 0 args = .ok keys ∧
      b' = { b with keychain := keys, clause := clause } := by
  simp [run_openKeys_eq_ok_iff, continues_of_unopened hb.history]

lemma aside_of_unopened {args : List Arg} (hb : Unopened b)
    (h : (apply made ⟨.whereKeys, args⟩).run b = (.ok (), b')) :
    ∃ c, (apply made ⟨.havingKeys, args⟩).run b = (.ok (), c) ∧ Aside b.plan.conditions b' c := by
  obtain ⟨hcheck, _, hopen, rfl⟩ := run_apply_eq_ok_of_command rfl h
  obtain ⟨keys, hk, rfl⟩ := (run_openKeys_iff_of_unopened hb _).mp hopen
  have hopen' := (run_openKeys_iff_of_unopened hb .havingKeys).mpr ⟨keys, hk, rfl⟩
  refine ⟨_, run_apply (check_toHaving hcheck) hopen' rfl, ?_⟩
  have hhistory : ∀ k ∈ b.history, k.isClause = false := by
    simpa using List.filter_eq_nil_iff.mp hb.history
  have hmap : b.history.map Keyword.toHaving = b.history := by
    refine (List.map_congr_left fun k hm => ?_).trans (List.map_id _)
    have hk := hhistory k hm
    cases k <;> first | rfl | cases hk
  have hplan : { b.plan with having := .empty } = b.plan := by rw [← hb.having]
  have ha : Aside b.plan.conditions _ _ := .intro
    { b with keychain := keys, history := .whereKeys :: b.history, clause := .whereKeys } .empty rfl
    (List.forall_mem_cons.mpr ⟨by decide, fun k hm hk => by cases hk ▸ hhistory k hm⟩)
    (b.plan.conditions.append_nil).symm
  rw [List.map_cons, hmap] at ha
  simp only [hplan] at ha
  exact ha

lemma run_toHaving {ops : Scheme} (hk : ∀ o ∈ ops, o.keyword.isSpelling = true) (hb : Unopened b)
    (h : (ops.forM (apply made)).run b = (.ok (), b')) :
    ∃ c, ((Scheme.toHaving ops).forM (apply made)).run b = (.ok (), c) ∧ c.pending = b'.pending ∧
      b'.plan.conditions = c.plan.conditions.append c.plan.having.tokens ∧
      ((∀ o ∈ ops.head?, o.keyword = .whereKeys) → c.plan.conditions = b.plan.conditions) ∧
      ((∃ o ∈ ops.head?, o.keyword ≠ .whereKeys) → c.plan.conditions.tokens ≠ []) := by
  induction ops generalizing b with
  | nil =>
    cases h
    refine ⟨_, rfl, rfl, ?_, fun _ => rfl, nofun⟩
    rw [hb.having]
    exact (Conditions.append_nil _).symm
  | cons o ops ih =>
    obtain ⟨_, u, ho, hrest⟩ := run_bind_eq_ok h
    have hops : ∀ o ∈ ops, o.keyword.isSpelling = true := fun o hm => hk o (List.mem_cons_of_mem _ hm)
    by_cases hw : o.keyword = .whereKeys
    · obtain ⟨keyword, args⟩ := o
      obtain rfl : keyword = .whereKeys := hw
      -- what has come so far stays with `WHERE`, and all that follows goes to `HAVING`
      obtain ⟨c₁, hc₁, ha⟩ := aside_of_unopened hb ho
      obtain ⟨c, hc, ha⟩ := aside_forM hops ha hrest
      obtain ⟨having, _, _, ht⟩ := ha
      exact ⟨_, (run_forM_cons hc₁ _).trans hc, rfl, ht, fun _ => rfl, by simp⟩
    · have hcomparing : o.keyword.isComparing = true := by
        simpa [Keyword.isSpelling, hw] using hk o List.mem_cons_self
      obtain ⟨hu, htokens⟩ := unopened_apply hcomparing hb ho
      obtain ⟨c, hc, hpending, ht, hkept, hadded⟩ := ih hops hu hrest
      have hsame : o.toHaving = o := by
        rw [Operation.toHaving, Keyword.toHaving_of_isComparing hcomparing]
      refine ⟨c, ?_, hpending, ht, by simp [hw], fun _ => ?_⟩
      · rw [Scheme.toHaving, List.map_cons, hsame]
        exact (run_forM_cons ho _).trans hc
      · by_cases hhead : ∀ o ∈ ops.head?, o.keyword = .whereKeys
        · rwa [hkept hhead]
        · exact hadded (by simpa using hhead)

end Builder

namespace Plan

variable {made : Results} {head ops : Scheme} {p : Plan}

theorem ofScheme_toHaving (hh : ∀ o ∈ head, o.keyword.isCondition = false)
    (hk : ∀ o ∈ ops, o.keyword.isSpelling = true) (hp : ofScheme made (head ++ ops) = .ok p) :
    ∃ q, ofScheme made (head ++ Scheme.toHaving ops) = .ok q ∧
      p.conditions = q.conditions.append q.having.tokens ∧
      ((q.having.tokens = p.conditions.tokens ∧ q.conditions.isEmpty = true) ↔
        ∀ o ∈ ops.head?, o.keyword = .whereKeys) := by
  obtain ⟨b, hr, hpending, rfl⟩ := ofScheme_eq_ok hp
  rw [List.forM_eq_forM, List.forM_append] at hr
  obtain ⟨_, b₀, hhead, hops⟩ := run_bind_eq_ok hr
  have hb₀ := Builder.unopened_of_run hh hhead
  obtain ⟨c, hc, hcp, ht, hkept, hadded⟩ := Builder.run_toHaving hk hb₀ hops
  refine ⟨c.plan.resolve, ofScheme_of_run ((run_forM_append hhead _).trans hc) (hcp.trans hpending), ht, ?_, ?_⟩
  · rintro ⟨-, hempty⟩
    by_contra hne
    exact hadded (by simpa using hne) (List.isEmpty_iff.mp hempty)
  · intro hfirst
    have hnone : c.plan.conditions = .empty :=
      (hkept hfirst).trans (congrArg Builder.Aim.conditions (Builder.aim_of_run hh hhead))
    have ht' : b.plan.conditions = ⟨c.plan.having.tokens⟩ := by rw [ht, hnone, Conditions.empty_append]
    refine ⟨(congrArg Conditions.tokens ht').symm, ?_⟩
    show c.plan.conditions.isEmpty = true
    rw [hnone]
    rfl

def groupedUsers : Scheme := [⟨.fromTables, [.table (.named "users")]⟩, ⟨.groupBy, [.value (.string "city")]⟩]

def fewOrMany : Scheme :=
  [⟨.whereKeys, [.value (.string "n")]⟩, ⟨.between, [.value (.int 1), .value (.int 2)]⟩, ⟨.or, []⟩, ⟨.not, []⟩,
    ⟨.openGroup, []⟩, ⟨.whereKeys, [.value (.string "n")]⟩, ⟨.lt, [.value (.int 9)]⟩, ⟨.closeGroup, []⟩]

theorem ofScheme_toHaving_fewOrMany :
    ∃ p q, ofScheme [] (groupedUsers ++ fewOrMany) = .ok p ∧
      ofScheme [] (groupedUsers ++ Scheme.toHaving fewOrMany) = .ok q ∧
      q.having.tokens.map Token.label = ["Between(users.n)", "||", "!", "(", "Lt(users.n)", ")"] ∧
      q.having.tokens = p.conditions.tokens ∧ q.conditions.isEmpty = true := by
  have hp : ofScheme [] (groupedUsers ++ fewOrMany) = .ok _ := rfl
  obtain ⟨q, hq, -, hiff⟩ := ofScheme_toHaving (by decide) (by decide) hp
  obtain ⟨htokens, hempty⟩ := hiff.mpr (by decide)
  refine ⟨_, q, hp, hq, ?_, htokens, hempty⟩
  rw [htokens]
  rfl

def notAnn : Scheme :=
  [⟨.not, []⟩, ⟨.whereKeys, [.value (.string "name")]⟩, ⟨.eq, [.value (.string "Ann")]⟩]

/-- A negation before the first clause is not in the conditions of `HAVING` that it comes before. -/
theorem not_stays_behind :
    ∃ p q, ofScheme [] (⟨.fromTables, [.table (.named "users")]⟩ :: notAnn) = .ok p ∧
      ofScheme [] (⟨.fromTables, [.table (.named "users")]⟩ :: Scheme.toHaving notAnn) = .ok q ∧
      p.conditions.tokens.map Token.label = ["!", "Eq(users.name)"] ∧
      q.having.tokens.map Token.label = ["Eq(users.name)"] ∧ q.conditions.tokens.map Token.label = ["!"] ∧
      q.having.tokens ≠ p.conditions.tokens ∧ q.conditions.isEmpty = false :=
  ⟨_, _, rfl, rfl, rfl, rfl, rfl, fun h => absurd (congrArg List.length h) (by decide), rfl⟩

end Plan

end DocQuery
