import DocQuery.Proofs.Condition.Evaluating
import DocQuery.Proofs.Plan.Building
import Mathlib.Algebra.GroupWithZero.Nat

namespace DocQuery

open Trace

def Keyword.token? : Keyword → Option Token
  | and => some .and
  | or => some .or
  | not => some .not
  | openGroup => some .openGroup
  | closeGroup => some .closeGroup
  | _ => none

namespace Builder

variable {rs : Results} {keyword : Keyword} {args : List Arg} {b b' : Builder}

def Grows (rs : Results) (keyword : Keyword) (c c' : Conditions) : Prop :=
  (∃ t ∈ keyword.token?, c' = c.pushToken t) ∨ ∃ e, c.push rs e = .ok c'

lemma run_pushExpression_eq_ok {e : Option Expression} (h : (pushExpression rs e).run b = (.ok (), b')) :
    b'.plan = b.plan ∨ ∃ c, Grows rs keyword b.target c ∧ b' = b.setTarget c := by
  obtain ⟨ts, hts, rfl⟩ := pushExpression_eq_ok h
  cases e with
  | none =>
    cases hts
    rw [Conditions.append_nil, setTarget_target]
    exact .inl rfl
  | some e => exact .inr ⟨_, .inr ⟨e, congrArg (Except.map b.target.append) hts⟩, rfl⟩

lemma run_condition_eq_ok (hc : keyword.isCondition = true) (h : (perform rs keyword args).run b = (.ok (), b')) :
    b'.plan = b.plan ∨ ∃ c, Grows rs keyword b.target c ∧ b' = b.setTarget c := by
  have htoken {t : Token} (ht : t ∈ keyword.token?) (h : (pushToken t).run b = (.ok (), b')) :
      b'.plan = b.plan ∨ ∃ c, Grows rs keyword b.target c ∧ b' = b.setTarget c := by
    cases h
    exact .inr ⟨_, .inl ⟨t, ht, rfl⟩, rfl⟩
  have hopen {clause : Clause} (h : (openKeys clause args).run b = (.ok (), b')) : b'.plan = b.plan := by
    obtain ⟨_, _, _, _, rfl⟩ := run_openKeys_eq_ok_iff.mp h
    rfl
  have hconnect {connective : Connective} (ht : .ofConnective connective ∈ keyword.token?)
      (h : (connect connective).run b = (.ok (), b')) :
      b'.plan = b.plan ∨ ∃ c, Grows rs keyword b.target c ∧ b' = b.setTarget c := by
    rw [connect_eq] at h
    split at h
    · cases h
      exact .inl rfl
    · exact htoken ht h
  have hkeys {word : Keyword} {leaf : List Key → List Operand → Nat → Column → Except Error Expression}
      (h : (requireKeys word >>= fun keys => operandsOf args >>= fun operands =>
        pushLeaves rs keys (leaf keys operands)).run b = (.ok (), b')) :
      b'.plan = b.plan ∨ ∃ c, Grows rs keyword b.target c ∧ b' = b.setTarget c := by
    obtain ⟨operands, -, h⟩ := run_comparison_eq_ok h
    obtain ⟨e, -, he⟩ := run_pushLeaves_eq_ok h
    exact run_pushExpression_eq_ok he
  cases keyword with
  | whereKeys | havingKeys => exact .inl (hopen h)
  | and | or => exact hconnect rfl h
  | not | openGroup | closeGroup => exact htoken rfl h
  | eq | gt | lt | like | isNull | isIn => exact hkeys h
  | between =>
    obtain ⟨operands, -, h⟩ := run_comparison_eq_ok h
    dsimp only at h
    split at h
    · obtain ⟨e, -, he⟩ := run_pushLeaves_eq_ok h
      exact run_pushExpression_eq_ok he
    · cases h
  | existsRows =>
    obtain ⟨operands, u, ho, he⟩ := run_bind_eq_ok h
    obtain ⟨-, rfl⟩ := run_lift_eq_ok ho
    exact run_pushExpression_eq_ok he
  | _ => cases hc

def Both (P : Conditions → Prop) (b : Builder) : Prop := P b.plan.conditions ∧ P b.plan.having

namespace Both

variable {P Q : Conditions → Prop}

lemma imp (h : b.Both P) (hpq : ∀ c, P c → Q c) : b.Both Q := ⟨hpq _ h.1, hpq _ h.2⟩

lemma target (h : b.Both P) : P b.target := by
  rw [Builder.target]
  split
  · exact h.1
  · exact h.2

lemma setTarget (h : b.Both P) {c : Conditions} (hc : P c) : (b.setTarget c).Both P := by
  rw [Builder.setTarget]
  split
  · exact ⟨hc, h.2⟩
  · exact ⟨h.1, hc⟩

lemma of_plan_eq (h : b.Both P) (hc : b'.plan.conditions = b.plan.conditions)
    (hh : b'.plan.having = b.plan.having) : b'.Both P := by
  rwa [Both, hc, hh]

lemma perform (h : b.Both P) (hpq : ∀ c, P c → Q c) (hg : ∀ c c', P c → Grows rs keyword c c' → Q c')
    (hp : (perform rs keyword args).run b = (.ok (), b')) : b'.Both Q := by
  have hq := h.imp hpq
  cases hc : keyword.isCondition with
  | true =>
    rcases run_condition_eq_ok hc hp with hplan | ⟨c, hgrows, rfl⟩
    · exact hq.of_plan_eq (congrArg Plan.conditions hplan) (congrArg Plan.having hplan)
    · exact hq.setTarget (hg _ _ h.target hgrows)
  | false =>
    have hk := keeps_perform rs hc args b
    rw [hp] at hk
    exact hq.of_plan_eq (congrArg Aim.conditions hk) (congrArg Aim.having hk)

lemma run {P : Nat → Conditions → Prop} {w : Keyword → Nat} (hmono : ∀ k l c, k ≤ l → P k c → P l c)
    (hg : ∀ k keyword c c', P k c → Grows rs keyword c c' → P (k + w keyword) c') {s : Scheme} {k : Nat}
    (h : b.Both (P k)) (hr : (s.forM (apply rs)).run b = (.ok (), b')) :
    b'.Both (P (k + (s.map fun o => w o.keyword).sum)) := by
  induction s generalizing b k with
  | nil =>
    cases hr
    exact h
  | cons o s ih =>
    obtain ⟨_, u, ho, hs⟩ := run_bind_eq_ok hr
    obtain ⟨_, v, hp, ha⟩ := run_bind_eq_ok (run_apply_eq_ok ho).2
    cases ha
    have hv : v.Both (P (k + w o.keyword)) :=
      h.perform (fun c => hmono k _ c (Nat.le_add_right k _)) (hg k o.keyword) hp
    rw [List.map_cons, List.sum_cons, ← Nat.add_assoc]
    refine ih ?_ hs
    exact hv.of_plan_eq rfl rfl

end Both

end Builder

namespace Plan

lemma built_of_ofScheme {made : Results} {s : Scheme} {p : Plan} (h : ofScheme made s = .ok p) :
    p.conditions.Built ∧ p.having.Built := by
  obtain ⟨b, hr, -, rfl⟩ := ofScheme_eq_ok h
  refine Builder.Both.run (P := fun _ => Conditions.Built) (w := fun _ => 0) (fun _ _ _ _ hc => hc) ?_
    (b := .empty) (k := 0) ⟨.empty, .empty⟩ hr
  rintro _ keyword c c' hc (⟨t, -, rfl⟩ | ⟨e, he⟩)
  · exact hc.token t
  · exact hc.expression he

theorem reading_trace {made : Results} {s : Scheme} {p : Plan} (h : ofScheme made s = .ok p)
    {c : Conditions} (hc : c = p.conditions ∨ c = p.having) (rs : Results) (row : Row) :
    reading (tidy (c.trace rs row)) = (scan former (c.trace rs row).toList).getD true ∧
      c.test rs row = (scan weaker (c.trace rs row).toList).getD true ∧
      (¬ HasGap (c.trace rs row).toList → reading (tidy (c.trace rs row)) = c.test rs row) ∧
      (Balanced (c.trace rs row).toList →
        tidy (c.trace rs row) = "" ∧ reading (tidy (c.trace rs row)) = true ∨
          Reads .disjunction (tidy (c.trace rs row)).toList (reading (tidy (c.trace rs row)))) := by
  obtain ⟨hconditions, hhaving⟩ := built_of_ofScheme h
  have hs : Separated c.tokens := by
    rcases hc with rfl | rfl
    · exact hconditions.separated
    · exact hhaving.separated
  exact ⟨Conditions.reading_tidy_trace hs, Conditions.test_eq_scan hs, Conditions.reading_eq_test hs,
    Conditions.reads_tidy_trace hs⟩

def annOrders (first second : Keyword) : Scheme :=
  [⟨.fromTables, [.value (.string "users")]⟩,
    ⟨.whereKeys, [.value (.string "name")]⟩, ⟨.eq, [.value (.string "Ann")]⟩, ⟨first, []⟩,
    ⟨.whereKeys, [.value (.string "orders.total")]⟩, ⟨.eq, [.value (.int 5)]⟩, ⟨second, []⟩,
    ⟨.whereKeys, [.value (.string "age")]⟩, ⟨.eq, [.value (.int 30)]⟩]

def ann : Row := .ofValue (.named "users") "u1" (.object [("name", .string "Ann"), ("age", .int 40)])

theorem reading_trace_orders :
    ∃ p, ofScheme [] (annOrders .or .and) = .ok p ∧ p.conditions.trace [] ann = "1||&&0" ∧
      reading (tidy (p.conditions.trace [] ann)) = p.conditions.test [] ann ∧ p.conditions.test [] ann = true ∧
      Reads .disjunction (tidy (p.conditions.trace [] ann)).toList true := by
  have htidy : tidy "1||&&0" = "1||0" := by
    rw [tidy, tidyChars, if_neg (by decide), tidyChars, if_pos (by decide)]
    decide
  obtain ⟨p, hp, htrace, htest⟩ : ∃ p, ofScheme [] (annOrders .or .and) = .ok p ∧
      p.conditions.trace [] ann = "1||&&0" ∧ p.conditions.test [] ann = true := ⟨_, rfl, by decide, rfl⟩
  obtain ⟨-, -, hagree, hreads⟩ := reading_trace hp (.inl rfl) [] ann
  have hgap : ¬ HasGap (p.conditions.trace [] ann).toList := by
    rw [htrace]
    exact fun h => absurd h.sublist (by decide)
  have hread := (hagree hgap).trans htest
  refine ⟨p, hp, htrace, hagree hgap, htest, ?_⟩
  rcases hreads (by rw [htrace]; rfl) with ⟨hempty, -⟩ | hr
  · rw [htrace, htidy] at hempty
    exact absurd hempty (by decide)
  · exact hread ▸ hr

/-- Where nothing is left between an `and` and an `or`, the tidied trace is another expression than the one that is
evaluated. -/
theorem reading_trace_gap :
    ∃ p, ofScheme [] (annOrders .and .or) = .ok p ∧ p.conditions.trace [] ann = "1&&||0" ∧
      tidy (p.conditions.trace [] ann) = "1&&0" ∧ Reads .disjunction "1&&0".toList false ∧
      p.conditions.test [] ann = true ∧ reading (tidy (p.conditions.trace [] ann)) ≠ p.conditions.test [] ann := by
  have hreads : Reads .disjunction "1&&0".toList false := (Reads.one.operand.and .zero).conjunction
  have htidy : tidy "1&&||0" = "1&&0" := by
    rw [tidy, tidyChars, if_neg (by decide), tidyChars, if_pos (by decide)]
    decide
  obtain ⟨p, hp, htrace, htest⟩ : ∃ p, ofScheme [] (annOrders .and .or) = .ok p ∧
      p.conditions.trace [] ann = "1&&||0" ∧ p.conditions.test [] ann = true := ⟨_, rfl, by decide, rfl⟩
  refine ⟨p, hp, htrace, by rw [htrace, htidy], hreads, htest, ?_⟩
  rw [htrace, htidy, reading_of_reads hreads, htest]
  exact Bool.false_ne_true

end Plan

end DocQuery
