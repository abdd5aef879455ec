import DocQuery.Proofs.Condition.Reading
import DocQuery.Proofs.Condition.Tokens

/-! The tokens of an expression are read back as the expression: a row passes if the three-valued
reading of the tree, scope by scope, does not say otherwise. -/

namespace DocQuery

open Formula

namespace Expression

mutual

def verdict (made rs : Results) (row : Row) : Expression → Verdict
  | comparison keyword column operands =>
    (Test.ofKeyword? made keyword column operands).bind fun test => test.eval rs row
  | scope .and items => Verdict.all (verdicts made rs row items)
  | scope .or items => Verdict.any (verdicts made rs row items)
  | negation item => (verdict made rs row item).map (!·)

def verdicts (made rs : Results) (row : Row) : List Expression → List Verdict
  | [] => []
  | e :: es => verdict made rs row e :: verdicts made rs row es

end

def wrap : Connective → List Formula → Formula
  | .and => .all
  | .or => .any

mutual

def formula? (made : Results) : Expression → Option Formula
  | comparison keyword column operands =>
    (Test.ofKeyword? made keyword column operands).map fun test => .leaf ⟨Leaf.name keyword column, test⟩
  | scope connective items => Formula.group (wrap connective) (formulas made items)
  | negation item => (formula? made item).map .not

def formulas (made : Results) : List Expression → List Formula
  | [] => []
  | e :: es => (formula? made e).toList ++ formulas made es

end

section

variable (made rs : Results) (row : Row)

mutual

lemma verdict?_formula? (e : Expression) : verdict? rs row (e.formula? made) = e.verdict made rs row := by
  cases e with
  | comparison keyword column operands =>
    rw [formula?, verdict]
    cases Test.ofKeyword? made keyword column operands <;> simp
  | scope connective items =>
    cases connective with
    | and =>
      rw [formula?, wrap, verdict?_group_all, verdict]
      exact Verdict.all_congr (mem_formulas items)
    | or =>
      rw [formula?, wrap, verdict?_group_any, verdict]
      exact Verdict.any_congr (mem_formulas items)
  | negation item =>
    rw [formula?, verdict, ← verdict?_formula? item]
    cases item.formula? made <;> simp

lemma mem_formulas (es : List Expression) (b : Bool) :
    some b ∈ (formulas made es).map (eval rs row) ↔ some b ∈ verdicts made rs row es := by
  cases es with
  | nil => rfl
  | cons e es =>
    have he := verdict?_formula? e
    have hr := mem_formulas es b
    rw [formulas, verdicts, List.map_append, List.mem_append, List.mem_cons, hr, ← he]
    cases e.formula? made <;> simp

end

end

def Reads (ts : List Token) : Option Formula → Prop
  | none => ts = []
  | some f => ts ≠ [] ∧ IsOperand ts f

lemma Reads.ofTokens? {ts : List Token} {f : Option Formula} (h : Reads ts f) : Formula.ofTokens? ts = f := by
  cases f with
  | none =>
    rw [show ts = [] from h]
    rfl
  | some f => exact ofTokens?_of_extends (h.2 .empty)

lemma Reads.not {ts : List Token} {f : Option Formula} (h : Reads ts f) :
    Reads (if ts.isEmpty then [] else .not :: ts) (f.map .not) := by
  cases f with
  | none => simp [Reads, show ts = [] from h]
  | some f =>
    obtain ⟨hne, hf⟩ := h
    rw [if_neg (by simpa using hne)]
    exact ⟨List.cons_ne_nil _ _, hf.not⟩

lemma reads_group (connective : Connective) {tss : List (List Token)} {fs : List Formula}
    (h : List.Forall₂ IsOperand (tss.filter (!·.isEmpty)) fs) :
    Reads (group connective tss) (Formula.group (wrap connective) fs) := by
  rw [group]
  cases fs with
  | nil =>
    rw [List.forall₂_nil_right_iff.mp h]
    rfl
  | cons f fs =>
    obtain ⟨ts, rest, hf, hr, he⟩ := List.forall₂_cons_right_iff.mp h
    rw [he] at h ⊢
    obtain ⟨g, hg⟩ : ∃ g, Formula.group (wrap connective) (f :: fs) = some g := by
      cases fs <;> exact ⟨_, rfl⟩
    rw [hg]
    refine ⟨by simp, ?_⟩
    cases connective with
    | and =>
      refine IsOperand.group (IsOperand.intercalate_and h (by simp) .empty rfl) ?_
      rw [← hg, Frame.formula?, Frame.closeTerm, Frame.empty, List.nil_append, List.nil_append]
      show Formula.group .any (Formula.group (wrap .and) (f :: fs)).toList = _
      rw [hg]
      rfl
    | or =>
      obtain ⟨init, last, hi⟩ : ∃ init last, f :: fs = init ++ [last] :=
        ⟨_, _, (List.dropLast_append_getLast (List.cons_ne_nil f fs)).symm⟩
      rw [hi] at h hg
      refine IsOperand.group (IsOperand.intercalate_or h []) ?_
      rw [← hg]
      rfl

mutual

lemma reads_tokens (made : Results) {e : Expression} {depth : Nat} {ts : List Token}
    (h : e.tokens made depth = .ok ts) : Reads ts (e.formula? made) := by
  cases e with
  | comparison keyword column operands =>
    obtain ⟨test, ht, rfl⟩ := tokens_comparison h
    rw [formula?, ht]
    exact ⟨by simp, IsOperand.leaf _⟩
  | scope connective items =>
    obtain ⟨tss, hi, rfl⟩ := tokens_scope h
    rw [formula?]
    exact reads_group connective (reads_tokensOfAll made hi)
  | negation item =>
    obtain ⟨us, hi, rfl⟩ := tokens_negation h
    rw [formula?]
    exact (reads_tokens made hi).not

lemma reads_tokensOfAll (made : Results) {es : List Expression} {depth : Nat} {tss : List (List Token)}
    (h : tokensOfAll made depth es = .ok tss) :
    List.Forall₂ IsOperand (tss.filter (!·.isEmpty)) (formulas made es) := by
  cases es with
  | nil =>
    cases h
    exact .nil
  | cons e es =>
    obtain ⟨ts, rest, hts, hr, rfl⟩ := tokensOfAll_cons h
    have he := reads_tokens made hts
    have hi := reads_tokensOfAll made hr
    rw [formulas]
    cases hf : e.formula? made with
    | none =>
      rw [hf] at he
      simpa [show ts = [] from he] using hi
    | some f =>
      rw [hf] at he
      simpa [he.1] using And.intro he.2 hi

end

end Expression

namespace Conditions

lemma formula?_push {made : Results} {e : Expression} {c : Conditions}
    (h : empty.push made e = .ok c) : c.formula? = e.formula? made := by
  obtain ⟨ts, hts, rfl⟩ := push_eq_ok h
  have ht : (empty.append ts).tokens = ts := by simp [append, empty]
  rw [formula?, ht]
  exact (Expression.reads_tokens made hts).ofTokens?

theorem test_push_empty {made : Results} {e : Expression} {c : Conditions}
    (h : empty.push made e = .ok c) (rs : Results) (row : Row) :
    c.test rs row = (e.verdict made rs row).getD true := by
  have hv : c.verdict rs row = e.verdict made rs row := by
    rw [verdict, formula?_push h]
    exact Expression.verdict?_formula? made rs row e
  rw [test, hv]

theorem test_push_empty_nested :
    ∃ c, empty.push [] (.scope .or [.scope .and [], .negation (.comparison .isNull (.named "age") []),
        .scope .and [.comparison .isNull (.ofTable (.named "orders") "total") [],
          .negation (.comparison .eq (.named "name") [.value (.string "Ann")])]]) = .ok c ∧
      c.test [] (.ofValue (.named "users") "u1" (.object [("age", .null), ("name", .string "Ann")])) = false := by
  refine Exists.imp (fun c hc => ⟨hc, ?_⟩) ⟨_, rfl⟩
  rw [test_push_empty hc]
  rfl

end Conditions

end DocQuery
