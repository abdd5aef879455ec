import DocQuery.Proofs.Condition.Tokens
import DocQuery.Proofs.Condition.Verdicts
import Mathlib.Data.List.Chain

/-! Conditions never hold two operands that touch, however they are put together, and taking leaves
away brings no two together. Such tokens are read without ever starting a formula anew. -/

namespace DocQuery

def Token.Apart (t u : Token) : Prop := t.endsOperand = true → u.startsOperand = false

abbrev Separated (ts : List Token) : Prop := ts.IsChain Token.Apart

namespace Token

lemma apart_after {t : Token} (h : t.endsOperand = false) (us : List Token) :
    ∀ x ∈ [t].getLast?, ∀ u ∈ us.head?, Apart x u := by
  intro x hx u _ he
  obtain rfl : t = x := by simpa using hx
  rw [h] at he
  cases he

lemma apart_before {u : Token} (h : u.startsOperand = false) (ts : List Token) :
    ∀ t ∈ ts.getLast?, ∀ x ∈ [u].head?, Apart t x := by
  intro t _ x hx _
  obtain rfl : u = x := by simpa using hx
  exact h

@[simp] lemma endsOperand_ofConnective (connective : Connective) :
    (ofConnective connective).endsOperand = false := by
  cases connective <;> rfl

@[simp] lemma startsOperand_ofConnective (connective : Connective) :
    (ofConnective connective).startsOperand = false := by
  cases connective <;> rfl

end Token

namespace Expression

lemma separated_intercalate (connective : Connective) {tss : List (List Token)}
    (h : ∀ ts ∈ tss, Separated ts) : Separated ([Token.ofConnective connective].intercalate tss) := by
  induction tss with
  | nil => exact List.isChain_nil
  | cons ts tss ih =>
    have hts := h ts (by simp)
    cases tss with
    | nil => simpa using hts
    | cons us tss =>
      rw [List.intercalate_cons_cons]
      have ht : Separated (ts ++ [Token.ofConnective connective]) := List.isChain_append.mpr
        ⟨hts, List.isChain_singleton _, Token.apart_before (by simp) ts⟩
      refine List.isChain_append.mpr ⟨ht, ih fun ts hm => h ts (List.mem_cons_of_mem _ hm), ?_⟩
      rw [List.getLast?_append_of_ne_nil _ (List.cons_ne_nil _ _)]
      exact Token.apart_after (by simp) _

lemma separated_group (connective : Connective) {tss : List (List Token)}
    (h : ∀ ts ∈ tss, Separated ts) : Separated (group connective tss) := by
  rw [group]
  split
  · exact List.isChain_nil
  · have hi : Separated ([Token.ofConnective connective].intercalate (tss.filter (!·.isEmpty))) :=
      separated_intercalate connective fun ts hm => h ts (List.mem_of_mem_filter hm)
    have ho : Separated
        (.openGroup :: [Token.ofConnective connective].intercalate (tss.filter (!·.isEmpty))) := by
      refine List.isChain_cons.mpr ⟨?_, hi⟩
      intro _ _ he
      cases he
    exact List.isChain_append.mpr ⟨ho, List.isChain_singleton _, Token.apart_before rfl _⟩

mutual

lemma separated_tokens (made : Results) {e : Expression} {depth : Nat} {ts : List Token}
    (h : e.tokens made depth = .ok ts) : Separated ts := by
  cases e with
  | comparison keyword column operands =>
    obtain ⟨test, _, rfl⟩ := tokens_comparison h
    exact List.isChain_singleton _
  | scope connective items =>
    obtain ⟨tss, hi, rfl⟩ := tokens_scope h
    exact separated_group connective (separated_tokensOfAll made hi)
  | negation item =>
    obtain ⟨us, hi, rfl⟩ := tokens_negation h
    split
    · exact List.isChain_nil
    · refine List.isChain_cons.mpr ⟨?_, separated_tokens made hi⟩
      intro _ _ he
      cases he

lemma separated_tokensOfAll (made : Results) {es : List Expression} {depth : Nat}
    {tss : List (List Token)} (h : tokensOfAll made depth es = .ok tss) :
    ∀ ts ∈ tss, Separated ts := by
  cases es with
  | nil =>
    cases h
    simp
  | cons e es =>
    obtain ⟨us, rest, hu, hr, rfl⟩ := tokensOfAll_cons h
    intro ts hm
    rcases List.mem_cons.mp hm with rfl | hm
    · exact separated_tokens made hu
    · exact separated_tokensOfAll made hr ts hm

end

end Expression

namespace Conditions

inductive Built : Conditions → Prop
  | empty : Built .empty
  | token {c : Conditions} (h : Built c) (t : Token) : Built (c.pushToken t)
  | expression {c c' : Conditions} {made : Results} {e : Expression} (h : Built c)
      (hp : c.push made e = .ok c') : Built c'

lemma separated_append {c : Conditions} {ts : List Token} (hc : Separated c.tokens)
    (hts : Separated ts) : Separated (c.append ts).tokens := by
  rw [append]
  split
  · have ha : Separated (c.tokens ++ [.and]) :=
      List.isChain_append.mpr ⟨hc, List.isChain_singleton _, Token.apart_before rfl _⟩
    refine List.isChain_append.mpr ⟨ha, hts, ?_⟩
    rw [List.getLast?_append_of_ne_nil _ (List.cons_ne_nil _ _)]
    exact Token.apart_after rfl ts
  · rename_i hj
    rw [List.append_nil]
    refine List.isChain_append.mpr ⟨hc, hts, ?_⟩
    intro t ht u hu he
    rw [Option.mem_def] at ht hu
    simpa [ht, hu, he] using hj

lemma Built.separated {c : Conditions} (h : Built c) : Separated c.tokens := by
  induction h with
  | empty => exact List.isChain_nil
  | token _ t ih => exact separated_append ih (List.isChain_singleton t)
  | expression _ hp ih =>
    obtain ⟨ts, hts, rfl⟩ := push_eq_ok hp
    exact separated_append ih (Expression.separated_tokens _ hts)

end Conditions

def Token.applies (rs : Results) (row : Row) : Token → Bool
  | .leaf l => (l.test.eval rs row).isSome
  | _ => true

lemma Separated.filter_applies {ts : List Token} (h : Separated ts) (rs : Results) (row : Row) :
    Separated (ts.filter (Token.applies rs row)) := by
  induction ts with
  | nil => exact List.isChain_nil
  | cons t ts ih =>
    obtain ⟨ha, hts⟩ := List.isChain_cons.mp h
    rw [List.filter_cons]
    split
    · refine List.isChain_cons.mpr ⟨?_, ih hts⟩
      cases ts with
      | nil => simp
      | cons u us =>
        have hu : Token.Apart t u := ha u rfl
        rw [List.filter_cons]
        split
        · simpa using hu
        · -- The token taken away is a leaf, so that `t` ends no operand.
          rename_i hs
          cases u with
          | leaf l => exact fun _ _ he => absurd (hu he) (by simp [Token.startsOperand])
          | _ => simp [Token.applies] at hs
    · exact ih hts

namespace Formula.Reader

lemma afterOperand_stepOperand {r : Reader} {t : Token}
    (h : r.afterOperand = true → t.startsOperand = false)
    (hs : (r.stepOperand t).afterOperand = true) : t.endsOperand = true := by
  cases t with
  | leaf l => rfl
  | closeGroup => rfl
  | and => cases hs
  | or => cases hs
  | not => exact absurd (h hs) (by simp [Token.startsOperand])
  | openGroup => exact absurd (h hs) (by simp [Token.startsOperand])

lemma foldl_step {ts : List Token} (h : Separated ts) (r : Reader)
    (hr : r.afterOperand = true → ∀ t ∈ ts.head?, t.startsOperand = false) :
    ts.foldl step r = ts.foldl stepOperand r := by
  induction ts generalizing r with
  | nil => rfl
  | cons t ts ih =>
    obtain ⟨ha, hts⟩ := List.isChain_cons.mp h
    have ht : r.afterOperand = true → t.startsOperand = false := fun he => hr he t rfl
    have hs : r.step t = r.stepOperand t := by
      rw [step, if_neg]
      intro hc
      rw [Bool.and_eq_true] at hc
      exact absurd (ht hc.1) (by simp [hc.2])
    rw [List.foldl_cons, List.foldl_cons, hs]
    exact ih hts _ fun he u hu => ha u hu (afterOperand_stepOperand ht he)

end Formula.Reader

end DocQuery
