import DocQuery.Condition.Cached
import DocQuery.Proofs.Condition.Tokens

namespace DocQuery

namespace Test

def column? : Test → Option Column
  | equal c _ | greater c _ | less c _ | between c _ | member c _ | like c _ _ | null c => some c
  | nonempty _ => none

lemma eval_eq_none_iff {t : Test} {c : Column} (h : t.column? = some c) (rs : Results) (row : Row) :
    t.eval rs row = none ↔ row.coversColumn c = false := by
  have hon (p : Value → Bool) : onColumn row c p = none ↔ row.coversColumn c = false := by
    rw [onColumn]
    split <;> simp_all
  cases t with
  | nonempty outputs => cases h
  | _ =>
    cases h
    rw [eval]
    exact hon _

lemma table_of_eval_eq_none {t : Test} {c : Column} (h : t.column? = some c) {rs : Results} {row : Row}
    (he : t.eval rs row = none) : ∃ u, c.table = some u ∧ row.covers u.name = false := by
  have hc := (eval_eq_none_iff h rs row).mp he
  rw [Row.coversColumn, Column.tableName?] at hc
  cases hu : c.table with
  | none =>
    rw [hu] at hc
    cases hc
  | some u =>
    rw [hu] at hc
    exact ⟨u, rfl, hc⟩

lemma column?_ofKeyword? {rs : Results} {keyword : Keyword} {c : Column} {operands : List Operand} {t : Test}
    (h : ofKeyword? rs keyword c operands = some t) : t.column? = if keyword = .existsRows then none else some c := by
  cases keyword <;> cases h <;> rfl

end Test

def Token.column? (t : Token) : Option Column := t.leaf?.bind (·.test.column?)

lemma Token.column?_ofConnective (connective : Connective) : (Token.ofConnective connective).column? = none := by
  cases connective <;> rfl

namespace Expression

mutual

def columns : Expression → List Column
  | comparison keyword c _ => if keyword = .existsRows then [] else [c]
  | scope _ items => columnsOfAll items
  | negation item => columns item

def columnsOfAll : List Expression → List Column
  | [] => []
  | e :: es => columns e ++ columnsOfAll es

end

lemma columns_comparison (keyword : Keyword) (c : Column) (operands : List Operand) :
    (comparison keyword c operands).columns ⊆ [c] := by
  rw [columns]
  split
  · exact List.nil_subset _
  · exact List.Subset.refl _

lemma columnsOfAll_append (es fs : List Expression) :
    columnsOfAll (es ++ fs) = columnsOfAll es ++ columnsOfAll fs := by
  induction es with
  | nil => rfl
  | cons e es ih => rw [List.cons_append, columnsOfAll, columnsOfAll, ih, List.append_assoc]

lemma column?_intercalate (connective : Connective) (tss : List (List Token)) :
    ([Token.ofConnective connective].intercalate tss).filterMap Token.column? =
      tss.flatMap (·.filterMap Token.column?) := by
  induction tss with
  | nil => rfl
  | cons ts tss ih =>
    cases tss with
    | nil => simp
    | cons us tss =>
      rw [List.intercalate_cons_cons, List.filterMap_append, List.filterMap_append, ih,
        List.filterMap_cons_none (Token.column?_ofConnective connective), List.filterMap_nil, List.append_nil]
      rfl

lemma column?_group (connective : Connective) (tss : List (List Token)) :
    (group connective tss).filterMap Token.column? = tss.flatMap (·.filterMap Token.column?) := by
  have hfilter : (tss.filter (!·.isEmpty)).flatMap (·.filterMap Token.column?) =
      tss.flatMap (·.filterMap Token.column?) := by
    induction tss with
    | nil => rfl
    | cons ts tss ih => cases ts <;> simp_all
  rw [group, ← hfilter]
  split
  · next h => rw [h]; rfl
  · rw [List.filterMap_append, List.filterMap_cons_none rfl, column?_intercalate, List.filterMap_cons_none rfl,
      List.filterMap_nil, List.append_nil]

mutual

lemma column?_tokens {rs : Results} {e : Expression} {depth : Nat} {ts : List Token}
    (h : e.tokens rs depth = .ok ts) : ts.filterMap Token.column? = e.columns := by
  cases e with
  | comparison keyword c operands =>
    obtain ⟨t, ht, rfl⟩ := tokens_comparison h
    have hc := Test.column?_ofKeyword? ht
    rw [columns]
    by_cases he : keyword = .existsRows
    · rw [if_pos he] at hc ⊢
      exact List.filterMap_cons_none (f := Token.column?) hc
    · rw [if_neg he] at hc ⊢
      exact List.filterMap_cons_some (f := Token.column?) hc
  | scope connective items =>
    obtain ⟨tss, hi, rfl⟩ := tokens_scope h
    rw [column?_group, column?_tokensOfAll hi, columns]
  | negation item =>
    obtain ⟨us, hi, rfl⟩ := tokens_negation h
    rw [columns, ← column?_tokens hi]
    cases us <;> rfl

lemma column?_tokensOfAll {rs : Results} {es : List Expression} {depth : Nat} {tss : List (List Token)}
    (h : tokensOfAll rs depth es = .ok tss) : tss.flatMap (·.filterMap Token.column?) = columnsOfAll es := by
  cases es with
  | nil =>
    cases h
    rfl
  | cons e es =>
    obtain ⟨ts, rest, hts, hr, rfl⟩ := tokensOfAll_cons h
    rw [List.flatMap_cons, column?_tokens hts, column?_tokensOfAll hr, columnsOfAll]

end

end Expression

namespace Conditions

def columns (c : Conditions) : List Column := c.tokens.filterMap Token.column?

lemma columns_append (c : Conditions) (ts : List Token) :
    (c.append ts).columns = c.columns ++ ts.filterMap Token.column? := by
  rw [append, columns, List.filterMap_append, List.filterMap_append]
  split
  · rw [List.filterMap_cons_none rfl, List.filterMap_nil, List.append_nil]
    rfl
  · rw [List.filterMap_nil, List.append_nil]
    rfl

lemma mem_columns {c : Conditions} {l : Leaf} {d : Column} (hl : Token.leaf l ∈ c.tokens)
    (hd : l.test.column? = some d) : d ∈ c.columns :=
  List.mem_filterMap.mpr ⟨_, hl, hd⟩

end Conditions

end DocQuery
