import DocQuery.Condition
import DocQuery.Proofs.Outcomes

namespace DocQuery

namespace Expression

variable {made : Results} {depth : Nat}

lemma tokens_comparison {keyword : Keyword} {column : Column} {operands : List Operand} {ts : List Token}
    (h : (comparison keyword column operands).tokens made depth = .ok ts) :
    ∃ test, Test.ofKeyword? made keyword column operands = some test ∧
      ts = [.leaf ⟨Leaf.name keyword column, test⟩] := by
  rw [tokens] at h
  split at h
  · cases h
  · cases ht : Test.ofKeyword? made keyword column operands with
    | none => simp [ht] at h
    | some test =>
      simp only [ht, Except.ok.injEq] at h
      exact ⟨test, rfl, h.symm⟩

lemma tokens_scope {connective : Connective} {items : List Expression} {ts : List Token}
    (h : (scope connective items).tokens made depth = .ok ts) :
    ∃ tss, tokensOfAll made (depth + 1) items = .ok tss ∧ ts = group connective tss := by
  rw [tokens] at h
  split at h
  · cases h
  · obtain ⟨tss, hi, rfl⟩ := Except.map_eq_ok h
    exact ⟨tss, hi, rfl⟩

lemma tokens_negation {item : Expression} {ts : List Token}
    (h : (negation item).tokens made depth = .ok ts) :
    ∃ us, item.tokens made (depth + 1) = .ok us ∧ ts = if us.isEmpty then [] else .not :: us := by
  rw [tokens] at h
  split at h
  · cases h
  · obtain ⟨us, hi, he⟩ := Except.bind_eq_ok h
    exact ⟨us, hi, (Except.ok.inj he).symm⟩

lemma tokensOfAll_cons {e : Expression} {es : List Expression} {tss : List (List Token)}
    (h : tokensOfAll made depth (e :: es) = .ok tss) :
    ∃ ts rest, e.tokens made depth = .ok ts ∧ tokensOfAll made depth es = .ok rest ∧
      tss = ts :: rest := by
  rw [tokensOfAll] at h
  obtain ⟨ts, hts, h⟩ := Except.bind_eq_ok h
  obtain ⟨rest, hr, he⟩ := Except.bind_eq_ok h
  exact ⟨ts, rest, hts, hr, (Except.ok.inj he).symm⟩

end Expression

lemma Conditions.push_eq_ok {made : Results} {c c' : Conditions} {e : Expression}
    (h : c.push made e = .ok c') : ∃ ts, e.tokens made 0 = .ok ts ∧ c' = c.append ts := by
  obtain ⟨ts, hts, rfl⟩ := Except.map_eq_ok h
  exact ⟨ts, hts, rfl⟩

end DocQuery
