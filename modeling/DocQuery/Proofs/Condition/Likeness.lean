import DocQuery.Plan.Keychain
import DocQuery.Proofs.Alike
import DocQuery.Proofs.Condition.Skipping

namespace DocQuery

namespace Token

inductive Like : Token → Token → Prop
  | refl (t : Token) : Like t t
  | leaf {l l' : Leaf} : (∀ rs row, l'.test.eval rs row = l.test.eval rs row) → Like (.leaf l) (.leaf l')

lemma Like.startsOperand {t t' : Token} (h : Like t t') : t'.startsOperand = t.startsOperand := by
  cases h <;> rfl

lemma Like.endsOperand {t t' : Token} (h : Like t t') : t'.endsOperand = t.endsOperand := by
  cases h <;> rfl

lemma like_refl (ts : List Token) : List.Forall₂ Like ts ts := List.forall₂_same.mpr fun t _ => .refl t

end Token

namespace Formula

variable {rs : Results} {row : Row}

namespace Reader

structure Like (rs : Results) (row : Row) (r r' : Reader) : Prop where
  similar : r.Similar rs row r'
  negations : r.frame.negations = r'.frame.negations
  after : r.afterOperand = r'.afterOperand

variable {r r' : Reader}

lemma Like.finish (h : r.Like rs row r') : r.finish.Like rs row r'.finish := ⟨h.similar.finish, rfl, rfl⟩

lemma Like.stepOperand (h : r.Like rs row r') {t t' : Token} (ht : Token.Like t t') :
    (r.stepOperand t).Like rs row (r'.stepOperand t') := by
  obtain ⟨hs, hn, ha⟩ := h
  cases ht with
  | leaf he => exact ⟨⟨hs.read, hs.outer, hs.frame.put hn (he rs row).symm⟩, rfl, rfl⟩
  | refl =>
    obtain ⟨hs', hn'⟩ := hs.step hn t
    refine ⟨hs', hn', ?_⟩
    cases t with
    | closeGroup =>
      obtain ⟨read, outer, frame, after⟩ := r
      obtain ⟨read', outer', frame', after'⟩ := r'
      cases hs.outer <;> rfl
    | leaf | and | or => rfl
    | not | openGroup => exact ha

lemma Like.step (h : r.Like rs row r') {t t' : Token} (ht : Token.Like t t') :
    (r.step t).Like rs row (r'.step t') := by
  rw [Reader.step, Reader.step, ht.startsOperand, h.after]
  split
  · exact h.finish.stepOperand ht
  · exact h.stepOperand ht

lemma Like.foldl {ts ts' : List Token} (hts : List.Forall₂ Token.Like ts ts') (h : r.Like rs row r') :
    (ts.foldl Reader.step r).Like rs row (ts'.foldl Reader.step r') := by
  induction hts generalizing r r' with
  | nil => exact h
  | cons ht _ ih => exact ih (h.step ht)

end Reader

lemma verdict?_of_like {ts ts' : List Token} (h : List.Forall₂ Token.Like ts ts') :
    verdict? rs row (ofTokens? ts') = verdict? rs row (ofTokens? ts) := by
  have hl : (ts.foldl Reader.step .start).Like rs row (ts'.foldl Reader.step .start) :=
    Reader.Like.foldl h ⟨⟨rfl, .nil, Frame.Similar.refl _⟩, rfl, rfl⟩
  rw [ofTokens?, ofTokens?, verdict?_group_all, verdict?_group_all, hl.finish.similar.read]

end Formula

namespace Conditions

def Like (c c' : Conditions) : Prop := List.Forall₂ Token.Like c.tokens c'.tokens

namespace Like

variable {c c' : Conditions}

lemma refl (c : Conditions) : Like c c := Token.like_refl _

lemma test (h : Like c c') (rs : Results) : Conditions.test rs c' = Conditions.test rs c := by
  funext row
  rw [Conditions.test, Conditions.test]
  exact congrArg (·.getD true) (Formula.verdict?_of_like h)

lemma isEmpty (h : Like c c') : c'.isEmpty = c.isEmpty := by
  obtain ⟨ts⟩ := c
  obtain ⟨ts'⟩ := c'
  cases h <;> rfl

lemma any_head? {ts ts' : List Token} (h : List.Forall₂ Token.Like ts ts') :
    ts'.head?.any Token.startsOperand = ts.head?.any Token.startsOperand := by
  cases h with
  | nil => rfl
  | cons ht _ => exact ht.startsOperand

lemma any_getLast? {ts ts' : List Token} (h : List.Forall₂ Token.Like ts ts') :
    ts'.getLast?.any Token.endsOperand = ts.getLast?.any Token.endsOperand := by
  have hmap : ts'.map Token.endsOperand = ts.map Token.endsOperand := by
    induction h with
    | nil => rfl
    | cons ht _ ih => rw [List.map_cons, List.map_cons, ht.endsOperand, ih]
  have hany (us : List Token) : us.getLast?.any Token.endsOperand = (us.map Token.endsOperand).getLast?.any id := by
    rw [List.getLast?_map, Option.any_map]
    rfl
  rw [hany, hany, hmap]

lemma append (h : Like c c') {ts ts' : List Token} (hts : List.Forall₂ Token.Like ts ts') :
    Like (c.append ts) (c'.append ts') := by
  rw [Like, Conditions.append, Conditions.append, any_head? hts, any_getLast? h]
  exact List.rel_append (List.rel_append h (Token.like_refl _)) hts

end Like

end Conditions

namespace Expression

variable {made : Results}

lemma group_like (connective : Connective) {tss tss' : List (List Token)}
    (h : List.Forall₂ (List.Forall₂ Token.Like) tss tss') :
    List.Forall₂ Token.Like (group connective tss) (group connective tss') := by
  have hfilter : List.Forall₂ (List.Forall₂ Token.Like) (tss.filter (!·.isEmpty)) (tss'.filter (!·.isEmpty)) :=
    List.rel_filter (fun ts ts' hts => by cases hts <;> simp) h
  have hseparated {uss uss' : List (List Token)} (hu : List.Forall₂ (List.Forall₂ Token.Like) uss uss') :
      List.Forall₂ Token.Like ([Token.ofConnective connective].intercalate uss)
        ([Token.ofConnective connective].intercalate uss') := by
    induction hu with
    | nil => exact .nil
    | cons hts hrest ih =>
      cases hrest with
      | nil => simpa using hts
      | cons =>
        rw [List.intercalate_cons_cons, List.intercalate_cons_cons]
        exact List.rel_append (List.rel_append hts (Token.like_refl _)) ih
  rw [group, group]
  generalize tss.filter (!·.isEmpty) = uss at hfilter
  generalize tss'.filter (!·.isEmpty) = uss' at hfilter
  cases hfilter with
  | nil => exact .nil
  | cons hts hrest =>
    exact List.rel_append (.cons (.refl _) (hseparated (.cons hts hrest))) (Token.like_refl _)

def Like (made : Results) (e e' : Expression) : Prop :=
  ∀ depth, Answers (List.Forall₂ Token.Like) (e.tokens made depth) (e'.tokens made depth)

namespace Like

lemma refl (e : Expression) : Like made e e := fun _ => .refl Token.like_refl _

lemma member {c : Column} {os os' : List Operand}
    (h : ∀ rs, Operand.valuesOfAll rs true os' = Operand.valuesOfAll rs true os) :
    Like made (.comparison .isIn c os) (.comparison .isIn c os') := by
  intro depth
  rw [tokens, tokens]
  split
  · exact .error _
  · refine .ok (.cons (.leaf fun rs row => ?_) .nil)
    rw [Test.eval, Test.eval, h rs]

lemma tokensOfAll {es es' : List Expression} (h : List.Forall₂ (Like made) es es') (depth : Nat) :
    Answers (List.Forall₂ (List.Forall₂ Token.Like)) (tokensOfAll made depth es) (tokensOfAll made depth es') := by
  induction h with
  | nil => exact .ok .nil
  | cons he _ ih =>
    rw [Expression.tokensOfAll, Expression.tokensOfAll]
    exact (he depth).bind fun _ _ hts => ih.bind fun _ _ htss => .ok (.cons hts htss)

lemma scope (connective : Connective) {es es' : List Expression} (h : List.Forall₂ (Like made) es es') :
    Like made (.scope connective es) (.scope connective es') := by
  intro depth
  rw [tokens, tokens]
  split
  · exact .error _
  · exact (tokensOfAll h _).map fun _ _ => group_like connective

end Like

end Expression

end DocQuery
