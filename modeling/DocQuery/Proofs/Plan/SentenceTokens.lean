import DocQuery.Proofs.Condition.Flattening
import DocQuery.Proofs.Plan.Sentence

namespace DocQuery

open Formula

namespace Expression

variable {made : Results}

lemma tokens_of_test {keyword : Keyword} {column : Column} {operands : List Operand} {test : Test}
    (h : Test.ofKeyword? made keyword column operands = some test) {depth : Nat}
    (hd : depth ≤ maxNesting) : (comparison keyword column operands).tokens made depth =
      .ok [.leaf ⟨Leaf.name keyword column, test⟩] := by
  rw [tokens, if_neg (by omega), h]

lemma verdicts_eq_map (made rs : Results) (row : Row) (es : List Expression) :
    verdicts made rs row es = es.map (verdict made rs row) := by
  induction es with
  | nil => rfl
  | cons e es ih => rw [verdicts, ih, List.map_cons]

end Expression

namespace Comparison

variable (made : Results) (table : Option Table) (x : Comparison)

lemma exists_test (column : Column) (operands : List Operand) :
    ∃ test, Test.ofKeyword? made x.keyword column operands = some test := by
  obtain ⟨subject, keyword, plains, ht⟩ := x
  cases keyword <;> first | exact ⟨_, rfl⟩ | exact ht.elim

lemma exists_any (column : Column) {operands : List Operand} (hne : operands ≠ []) :
    ∃ e ts f, Keychain.joined .or (operands.map fun o => .comparison x.keyword column [o]) = some e ∧
      e.tokens made 0 = .ok ts ∧ e.formula? made = some f ∧
      ∀ rs row, e.verdict made rs row = Verdict.any (operands.map fun o =>
        (Test.ofKeyword? made x.keyword column [o]).bind fun test => test.eval rs row) := by
  have hall (os : List Operand) : ∃ tss, Expression.tokensOfAll made 1
      (os.map fun o => .comparison x.keyword column [o]) = .ok tss := by
    induction os with
    | nil => exact ⟨[], rfl⟩
    | cons o os ih =>
      obtain ⟨test, ht⟩ := x.exists_test made column [o]
      obtain ⟨tss, hs⟩ := ih
      refine ⟨[.leaf ⟨Leaf.name x.keyword column, test⟩] :: tss, ?_⟩
      rw [List.map_cons, Expression.tokensOfAll, Expression.tokens_of_test ht (by decide), hs]
      rfl
  obtain _ | ⟨o, _ | ⟨p, os⟩⟩ := operands
  · exact absurd rfl hne
  · obtain ⟨test, ht⟩ := x.exists_test made column [o]
    refine ⟨_, _, .leaf ⟨Leaf.name x.keyword column, test⟩, rfl,
      Expression.tokens_of_test ht (by decide), ?_, fun rs row => ?_⟩
    · rw [Expression.formula?, ht, Option.map_some]
    · rw [Expression.verdict, List.map_cons, List.map_nil, Verdict.any_singleton]
  · obtain ⟨test, ht⟩ := x.exists_test made column [o]
    obtain ⟨test', ht'⟩ := x.exists_test made column [p]
    obtain ⟨tss, hs⟩ := hall (o :: p :: os)
    refine ⟨.scope .or ((o :: p :: os).map fun o => .comparison x.keyword column [o]),
      Expression.group .or tss,
      .any (Expression.formulas made ((o :: p :: os).map fun o => .comparison x.keyword column [o])),
      rfl, ?_, ?_, fun rs row => ?_⟩
    · rw [Expression.tokens, if_neg (by decide), hs]
      rfl
    · simp [Expression.formula?, Expression.formulas, ht, ht', Formula.group, Expression.wrap]
    · rw [Expression.verdict, Expression.verdicts_eq_map, List.map_map]
      simp only [Function.comp_def, Expression.verdict]

lemma exists_expression : ∃ ts f, (x.expression table).tokens made 0 = .ok ts ∧
    (x.expression table).formula? made = some f ∧
    ∀ rs row, (x.expression table).verdict made rs row = x.verdict made rs row table := by
  have hone (operands : List Operand) : ∃ ts f,
      (Expression.comparison x.keyword (x.column table) operands).tokens made 0 = .ok ts ∧
      (Expression.comparison x.keyword (x.column table) operands).formula? made = some f ∧
      ∀ rs row, (Expression.comparison x.keyword (x.column table) operands).verdict made rs row =
        x.tested made rs row table operands := by
    obtain ⟨test, ht⟩ := x.exists_test made (x.column table) operands
    refine ⟨_, .leaf ⟨Leaf.name x.keyword (x.column table), test⟩,
      Expression.tokens_of_test ht (by decide), ?_, fun rs row => ?_⟩
    · rw [Expression.formula?, ht, Option.map_some]
    · rw [Expression.verdict, tested]
  have hany (h : 0 < x.operands.length) := @exists_any made x (x.column table)
    (x.operands.map Plain.operand) (by simpa [List.length_pos_iff] using h)
  obtain ⟨subject, keyword, plains, ht⟩ := x
  cases keyword with
  | isNull => exact hone []
  | isIn | between => exact hone _
  | eq | gt | lt | like =>
    obtain ⟨e, ts, f, hj, hts, hf, hv⟩ := hany ht
    simp only [List.map_map, Function.comp_def] at hj hv
    refine ⟨ts, f, ?_⟩
    simp only [expression]
    rw [hj]
    exact ⟨hts, hf, hv⟩
  | _ => exact ht.elim

lemma tokens_expression : (x.expression table).tokens made 0 = .ok (x.tokens made table) := by
  obtain ⟨ts, _, hts, _⟩ := x.exists_expression made table
  rw [tokens, hts]
  rfl

lemma reads : ∃ f, IsOperand (x.tokens made table) f ∧ x.tokens made table ≠ [] ∧
    ∀ rs row, eval rs row f = x.verdict made rs row table := by
  obtain ⟨_, f, _, hf, hv⟩ := x.exists_expression made table
  have hr := Expression.reads_tokens made (x.tokens_expression made table)
  rw [hf] at hr
  refine ⟨f, hr.2, hr.1, fun rs row => ?_⟩
  rw [← hv, ← Expression.verdict?_formula?, hf, verdict?_some]

end Comparison

structure Bounded (ts : List Token) : Prop where
  ne_nil : ts ≠ []
  head : ∀ t ∈ ts.head?, t.startsOperand = true
  last : ∀ t ∈ ts.getLast?, t.endsOperand = true

namespace Bounded

lemma group (ts : List Token) : Bounded (.openGroup :: ts ++ [.closeGroup]) := by
  refine ⟨by simp, ?_, ?_⟩
  · rintro t ht
    obtain rfl : Token.openGroup = t := by simpa using ht
    rfl
  · rintro t ht
    rw [List.getLast?_concat, Option.mem_some_iff] at ht
    exact ht ▸ rfl

lemma not {ts : List Token} (h : Bounded ts) : Bounded (.not :: ts) := by
  refine ⟨by simp, ?_, ?_⟩
  · rintro t ht
    obtain rfl : Token.not = t := by simpa using ht
    rfl
  · rw [List.getLast?_cons_of_ne_nil h.ne_nil]
    exact h.last

lemma append {ts us : List Token} (h : Bounded ts) (h' : Bounded us) (t : Token) :
    Bounded (ts ++ t :: us) := by
  refine ⟨by simp, ?_, ?_⟩
  · rw [List.head?_append_of_ne_nil _ h.ne_nil]
    exact h.head
  · rw [List.getLast?_append_of_ne_nil _ (by simp), List.getLast?_cons_of_ne_nil h'.ne_nil]
    exact h'.last

end Bounded

lemma Expression.bounded_tokens {made : Results} {e : Expression} {depth : Nat} {ts : List Token}
    (h : e.tokens made depth = .ok ts) (hne : ts ≠ []) : Bounded ts := by
  match e with
  | .comparison keyword column operands =>
    obtain ⟨test, _, rfl⟩ := tokens_comparison h
    refine ⟨hne, ?_, ?_⟩ <;>
    · rintro t ht
      obtain rfl : Token.leaf ⟨Leaf.name keyword column, test⟩ = t := by simpa using ht
      rfl
  | .scope connective items =>
    obtain ⟨tss, _, rfl⟩ := tokens_scope h
    rw [group] at hne ⊢
    split at hne
    · exact absurd rfl hne
    · exact .group _
  | .negation item =>
    obtain ⟨us, hu, rfl⟩ := tokens_negation h
    split at hne
    · exact absurd rfl hne
    · rename_i hus
      rw [if_neg hus]
      exact (bounded_tokens hu (by simpa using hus)).not

section

variable (made : Results) (table : Option Table)

mutual

lemma Atom.bounded (a : Atom) : Bounded (a.tokens made table) := by
  cases a with
  | comparison x =>
    obtain ⟨_, _, hne, _⟩ := x.reads made table
    rw [Atom.tokens]
    exact Expression.bounded_tokens (x.tokens_expression made table) hne
  | not a =>
    rw [Atom.tokens]
    exact a.bounded.not
  | group s =>
    rw [Atom.tokens]
    exact .group _

lemma Sentence.bounded (s : Sentence) : Bounded (s.tokens made table) := by
  cases s with
  | atom a =>
    rw [Sentence.tokens]
    exact a.bounded
  | link a connective s =>
    rw [Sentence.tokens]
    exact a.bounded.append s.bounded _

end

lemma exists_formula? {fr : Frame} (h : fr.factors ≠ []) : ∃ f, fr.formula? = some f := by
  obtain ⟨terms, factors, negations⟩ := fr
  have hg (wrap : List Formula → Formula) {fs : List Formula} (hf : fs ≠ []) :
      ∃ f, Formula.group wrap fs = some f := by
    match fs with
    | [] => exact absurd rfl hf
    | [f] => exact ⟨f, rfl⟩
    | f :: g :: fs => exact ⟨_, rfl⟩
  obtain ⟨f, hf⟩ := hg .all h
  refine hg .any ?_
  rw [Frame.closeTerm, hf]
  simp

mutual

lemma Atom.reads (a : Atom) : ∃ f, IsOperand (a.tokens made table) f ∧
    ∀ rs row, eval rs row f = a.verdict made rs row table := by
  cases a with
  | comparison x =>
    obtain ⟨f, hf, _, hv⟩ := x.reads made table
    exact ⟨f, by rwa [Atom.tokens], fun rs row => by rw [hv, Atom.verdict]⟩
  | not a =>
    obtain ⟨f, hf, hv⟩ := a.reads
    refine ⟨.not f, ?_, fun rs row => ?_⟩
    · rw [Atom.tokens]
      exact hf.not
    · rw [eval_not, hv, Atom.verdict]
  | group s =>
    obtain ⟨fr, hx, hne, _, hv⟩ := s.reads [] []
    obtain ⟨f, hf⟩ := exists_formula? hne
    refine ⟨f, ?_, fun rs row => ?_⟩
    · rw [Atom.tokens]
      exact .group hx hf
    · have hw := hv rs row
      rw [hf] at hw
      rw [Atom.verdict]
      simpa using hw

lemma Sentence.reads (s : Sentence) (terms factors : List Formula) : ∃ fr,
    Extends (s.tokens made table) ⟨terms, factors, 0⟩ fr ∧ fr.factors ≠ [] ∧ fr.negations = 0 ∧
    ∀ rs row, verdict? rs row fr.formula? = Verdict.any (terms.map (eval rs row) ++
      ((factors.map (eval rs row) ++ (s.terms made rs row table).1) ::
        (s.terms made rs row table).2).map Verdict.all) := by
  cases s with
  | atom a =>
    obtain ⟨f, hf, hv⟩ := a.reads
    have hx := hf ⟨terms, factors, 0⟩
    rw [Frame.put_of_negations rfl] at hx
    refine ⟨_, by rwa [Sentence.tokens], by simp, rfl, fun rs row => ?_⟩
    rw [Frame.verdict_formula?, Sentence.terms]
    simp [hv]
  | link a connective s =>
    obtain ⟨f, hf, hv⟩ := a.reads
    have hx := hf ⟨terms, factors, 0⟩
    rw [Frame.put_of_negations rfl] at hx
    rw [Sentence.tokens]
    by_cases hc : connective = some .or
    · subst hc
      obtain ⟨fr, hs, hne, h0, hw⟩ :=
        s.reads (terms ++ (Formula.group .all (factors ++ [f])).toList) []
      refine ⟨fr, hx.or hs, hne, h0, fun rs row => ?_⟩
      have hg : verdict? rs row (Formula.group .all (factors ++ [f])) =
          Verdict.all (factors.map (eval rs row) ++ [a.verdict made rs row table]) := by
        simp [verdict?_group_all, hv]
      rw [hw, Sentence.terms, List.map_append, Verdict.any_append, any_append_toList, hg,
        ← Verdict.any_append]
      simp
    · obtain ⟨fr, hs, hne, h0, hw⟩ := s.reads terms (factors ++ [f])
      have ht : Token.ofConnective (connective.getD .and) = .and := by
        rcases connective with _ | _ | _
        · rfl
        · rfl
        · exact absurd rfl hc
      rw [ht]
      refine ⟨fr, hx.and rfl hs, hne, h0, fun rs row => ?_⟩
      rw [hw, Sentence.terms.eq_3 _ _ _ _ _ _ _ (by simpa using hc)]
      simp [hv]

end

lemma Sentence.verdict?_tokens (s : Sentence) (rs : Results) (row : Row) :
    verdict? rs row (ofTokens? (s.tokens made table)) = s.verdict made rs row table := by
  obtain ⟨fr, hx, _, _, hv⟩ := s.reads made table [] []
  rw [ofTokens?_of_extends hx, hv, Sentence.verdict]
  simp

end

end DocQuery
