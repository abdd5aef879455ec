import DocQuery.Proofs.Condition.Interleaving
import DocQuery.Proofs.Condition.Separation

/-! Expressions pushed onto conditions. One that is refused leaves nothing behind, and the error is that of the first of
its nodes that has one. The tokens of any other come after those that are there, in brackets of their own. -/

namespace DocQuery

def Test.keywords : List Keyword := [.eq, .gt, .lt, .between, .like, .isIn, .isNull, .existsRows]

lemma Test.ofKeyword?_eq_none_iff (rs : Results) (keyword : Keyword) (column : Column) (operands : List Operand) :
    ofKeyword? rs keyword column operands = none ↔ keyword ∉ keywords := by
  cases keyword <;> simp [ofKeyword?, keywords]

inductive Token.Balanced : List Token → Prop
  | nil : Balanced []
  | plain {t : Token} {ts : List Token} (ho : t ≠ .openGroup) (hc : t ≠ .closeGroup) (h : Balanced ts) :
      Balanced (t :: ts)
  | group {ts us : List Token} (h : Balanced ts) (h' : Balanced us) :
      Balanced (.openGroup :: ts ++ .closeGroup :: us)

namespace Token.Balanced

variable {ts us : List Token}

lemma append (h : Balanced ts) (h' : Balanced us) : Balanced (ts ++ us) := by
  induction h with
  | nil => exact h'
  | plain ho hc _ ih => exact .plain ho hc ih
  | @group ts rest h _ _ ih =>
    rw [List.append_assoc, List.cons_append]
    exact .group h ih

lemma bracketed (h : Balanced ts) : Balanced (.openGroup :: ts ++ [.closeGroup]) := .group h .nil

lemma intercalate (connective : Connective) {tss : List (List Token)} (h : ∀ ts ∈ tss, Balanced ts) :
    Balanced ([Token.ofConnective connective].intercalate tss) := by
  induction tss with
  | nil => exact .nil
  | cons ts tss ih =>
    obtain ⟨hts, hrest⟩ := List.forall_mem_cons.mp h
    cases tss with
    | nil => simpa using hts
    | cons us tss =>
      have hconnective : Balanced [Token.ofConnective connective] := by
        cases connective <;> exact .plain nofun nofun .nil
      rw [List.intercalate_cons_cons]
      exact (hts.append hconnective).append (ih hrest)

end Token.Balanced

namespace Expression

open Token (Balanced)

lemma balanced_group (connective : Connective) {tss : List (List Token)} (h : ∀ ts ∈ tss, Balanced ts) :
    Balanced (group connective tss) := by
  rw [group]
  split
  · exact .nil
  · exact (Balanced.intercalate connective fun ts hm => h ts (List.mem_of_mem_filter hm)).bracketed

mutual

lemma balanced_tokens {made : Results} {depth : Nat} {e : Expression} {ts : List Token}
    (h : e.tokens made depth = .ok ts) : Balanced ts := by
  cases e with
  | comparison keyword column operands =>
    obtain ⟨test, -, rfl⟩ := tokens_comparison h
    exact .plain nofun nofun .nil
  | scope connective items =>
    obtain ⟨tss, hi, rfl⟩ := tokens_scope h
    exact balanced_group connective (balanced_tokensOfAll hi)
  | negation item =>
    obtain ⟨us, hi, rfl⟩ := tokens_negation h
    split
    · exact .nil
    · exact .plain nofun nofun (balanced_tokens hi)

lemma balanced_tokensOfAll {made : Results} {depth : Nat} {es : List Expression} {tss : List (List Token)}
    (h : tokensOfAll made depth es = .ok tss) : ∀ ts ∈ tss, Balanced ts := by
  cases es with
  | nil =>
    cases h
    exact List.forall_mem_nil _
  | cons e es =>
    obtain ⟨us, rest, hu, hr, rfl⟩ := tokensOfAll_cons h
    exact List.forall_mem_cons.mpr ⟨balanced_tokens hu, balanced_tokensOfAll hr⟩

end

mutual

def nodes (depth : Nat) : Expression → List (Nat × Expression)
  | comparison keyword column operands => [(depth, comparison keyword column operands)]
  | scope connective items => (depth, scope connective items) :: nodesOfAll (depth + 1) items
  | negation item => (depth, negation item) :: nodes (depth + 1) item

def nodesOfAll (depth : Nat) : List Expression → List (Nat × Expression)
  | [] => []
  | e :: es => nodes depth e ++ nodesOfAll depth es

end

def fault? : Nat × Expression → Option Error
  | (depth, e) =>
    if maxNesting < depth then some (.nesting maxNesting)
    else
      match e with
      | comparison keyword _ _ => if keyword ∈ Test.keywords then none else some (.noComparison keyword)
      | _ => none

section

variable {depth : Nat} (h : ¬ maxNesting < depth)

lemma fault?_of_lt (h : maxNesting < depth) (e : Expression) : fault? (depth, e) = some (.nesting maxNesting) :=
  if_pos h

include h

lemma fault?_comparison (keyword : Keyword) (column : Column) (operands : List Operand) :
    fault? (depth, comparison keyword column operands) =
      if keyword ∈ Test.keywords then none else some (.noComparison keyword) := if_neg h

lemma fault?_scope (connective : Connective) (items : List Expression) :
    fault? (depth, scope connective items) = none := if_neg h

lemma fault?_negation (item : Expression) : fault? (depth, negation item) = none := if_neg h

end

lemma nodes_eq_cons (depth : Nat) (e : Expression) : ∃ below, e.nodes depth = (depth, e) :: below := by
  cases e <;> rw [nodes] <;> exact ⟨_, rfl⟩

mutual

lemma error?_tokens (made : Results) (depth : Nat) (e : Expression) :
    Except.error? (e.tokens made depth) = (e.nodes depth).findSome? fault? := by
  by_cases hd : maxNesting < depth
  · obtain ⟨below, hbelow⟩ := nodes_eq_cons depth e
    rw [tokens.eq_def, if_pos hd, hbelow, List.findSome?_cons, fault?_of_lt hd]
    rfl
  cases e with
  | comparison keyword column operands =>
    have hnone := Test.ofKeyword?_eq_none_iff made keyword column operands
    rw [tokens, if_neg hd, nodes, List.findSome?_singleton, fault?_comparison hd]
    cases htest : Test.ofKeyword? made keyword column operands with
    | none => exact (if_neg (hnone.mp htest)).symm
    | some test =>
      have hk : keyword ∈ Test.keywords := by
        by_contra hk
        rw [hnone.mpr hk] at htest
        cases htest
      exact (if_pos hk).symm
  | scope connective items =>
    rw [tokens, if_neg hd, nodes, List.findSome?_cons, fault?_scope hd, Except.error?_map]
    exact error?_tokensOfAll made (depth + 1) items
  | negation item =>
    rw [tokens, if_neg hd, nodes, List.findSome?_cons, fault?_negation hd]
    exact (Except.error?_bind_ok _ _).trans (error?_tokens made (depth + 1) item)

lemma error?_tokensOfAll (made : Results) (depth : Nat) (es : List Expression) :
    Except.error? (tokensOfAll made depth es) = (nodesOfAll depth es).findSome? fault? := by
  cases es with
  | nil => rfl
  | cons e es =>
    rw [tokensOfAll, nodesOfAll, List.findSome?_append, ← error?_tokens made, ← error?_tokensOfAll made]
    exact Except.error?_bind _ fun ts => Except.error?_bind_ok (ts :: ·) _

end

end Expression

namespace CachedConditions

variable {rs : Results} {c : CachedConditions} {e : Expression}

end CachedConditions

end DocQuery
