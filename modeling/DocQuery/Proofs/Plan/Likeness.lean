import DocQuery.Proofs.Condition.Likeness
import DocQuery.Proofs.Plan.Abreast
import DocQuery.Run

/-! Plans that are alike but for the spelling of memberships. Operands that stand for the same values, list for list,
make the same conditions of a keychain; no other word sees the difference, and running a plan does not either. -/

namespace DocQuery

namespace Operand

structure Like (o o' : Operand) : Prop where
  isList : Keychain.isList o' = Keychain.isList o
  values : ∀ rs, o'.values rs true = o.values rs true

namespace Like

lemma refl (o : Operand) : Like o o := ⟨rfl, fun _ => rfl⟩

lemma valuesOfAll {os os' : List Operand} (h : List.Forall₂ Like os os') (rs : Results) :
    Operand.valuesOfAll rs true os' = Operand.valuesOfAll rs true os := by
  induction h with
  | nil => rfl
  | cons ho _ ih => rw [Operand.valuesOfAll, Operand.valuesOfAll, ho.values, ih]

lemma scope (connective : Connective) {os os' : List Operand} (h : List.Forall₂ Like os os') :
    Like (.scope connective os) (.scope connective os') := by
  refine ⟨rfl, fun rs => ?_⟩
  rw [Operand.values, Operand.values]
  exact valuesOfAll h rs

lemma scalars (v : Value) : Like (.output (.known v)) (.value (.array v.scalars)) := ⟨rfl, fun _ => rfl⟩

lemma all_isList {os os' : List Operand} (h : List.Forall₂ Like os os') :
    os'.all Keychain.isList = os.all Keychain.isList := by
  induction h with
  | nil => rfl
  | cons ho _ ih => rw [List.all_cons, List.all_cons, ho.isList, ih]

lemma memberOperands {os os' : List Operand} (h : List.Forall₂ Like os os') (count i : Nat) :
    List.Forall₂ Like (Keychain.memberOperands count os i) (Keychain.memberOperands count os' i) := by
  rw [Keychain.memberOperands, Keychain.memberOperands, all_isList h, h.length_eq]
  split
  · rcases hi : os[i]? with _ | o
    · have hi' : os'[i]? = none := by
        rw [List.getElem?_eq_none_iff, ← h.length_eq]
        exact List.getElem?_eq_none_iff.mp hi
      rw [hi']
      exact .nil
    · obtain ⟨hlt, rfl⟩ := List.getElem?_eq_some_iff.mp hi
      rw [List.getElem?_eq_getElem (h.length_eq ▸ hlt)]
      exact .cons (h.get hlt (h.length_eq ▸ hlt)) .nil
  · exact h

end Like

end Operand

namespace Keychain

open Expression (Like)

variable {made : Results}

lemma joined_like (connective : Connective) {es es' : List Expression} (h : List.Forall₂ (Like made) es es') :
    Option.Rel (Like made) (joined connective es) (joined connective es') := by
  cases h with
  | nil => exact .none
  | cons he hrest =>
    cases hrest with
    | nil => exact .some he
    | cons he' hrest => exact .some (.scope connective (.cons he (.cons he' hrest)))

lemma toList_like {e e' : Option Expression} (h : Option.Rel (Like made) e e') :
    List.Forall₂ (Like made) e.toList e'.toList := by
  cases h with
  | none => exact .nil
  | some he => exact .cons he .nil

namespace Chain

structure Like (made : Results) (c c' : Chain) : Prop where
  terms : List.Forall₂ (Expression.Like made) c.terms c'.terms
  factors : List.Forall₂ (Expression.Like made) c.factors c'.factors
  index : c'.index = c.index

variable {c c' : Chain}

lemma Like.expression? (h : Like made c c') : Option.Rel (Expression.Like made) c.expression? c'.expression? :=
  joined_like .or (List.rel_append h.terms (toList_like (joined_like .and h.factors)))

lemma Like.add (h : Like made c c') (connective : Connective) {e e' : Option Expression}
    (he : Option.Rel (Expression.Like made) e e') (index : Nat) :
    Like made (c.add connective e index) (c'.add connective e' index) := by
  obtain ⟨terms, factors, i⟩ := c
  obtain ⟨terms', factors', i'⟩ := c'
  obtain ⟨ht, hf, rfl⟩ := h
  cases he with
  | none => exact ⟨ht, hf, rfl⟩
  | some he =>
    cases connective with
    | and => exact ⟨ht, List.rel_append hf (.cons he .nil), rfl⟩
    | or =>
      cases hf with
      | nil => exact ⟨ht, .cons he .nil, rfl⟩
      | cons hg hf =>
        exact ⟨List.rel_append ht (toList_like (joined_like .and (.cons hg hf))), .cons he .nil, rfl⟩

end Chain

variable {leaf leaf' : Nat → Column → Except Error Expression}

mutual

lemma ofKey_like (hl : ∀ i c, Answers (Like made) (leaf i c) (leaf' i c)) (connective : Connective)
    (depth index : Nat) (k : Key) : Answers (fun x y => y.1 = x.1 ∧ Option.Rel (Like made) x.2.1 y.2.1 ∧ y.2.2 = x.2.2)
      (ofKey leaf connective depth index k) (ofKey leaf' connective depth index k) := by
  cases k with
  | column c =>
    rw [ofKey, ofKey]
    exact (hl index c).map fun _ _ he => ⟨rfl, .some he, rfl⟩
  | scope own items =>
    rw [ofKey, ofKey]
    split
    · exact .error _
    · exact (ofKeys_like hl own (depth + 1) ⟨.nil, .nil, rfl⟩ items).map fun _ _ hc => ⟨rfl, hc.expression?, hc.index⟩

lemma ofKeys_like (hl : ∀ i c, Answers (Like made) (leaf i c) (leaf' i c)) (connective : Connective) (depth : Nat)
    {c c' : Chain} (h : Chain.Like made c c') (ks : List Key) :
    Answers (Chain.Like made) (ofKeys leaf connective depth c ks) (ofKeys leaf' connective depth c' ks) := by
  cases ks with
  | nil => exact .ok h
  | cons k ks =>
    rw [ofKeys, ofKeys, h.index]
    refine (ofKey_like hl connective depth c.index k).bind ?_
    rintro ⟨before, e, index⟩ ⟨_, e', _⟩ ⟨rfl, he, rfl⟩
    exact ofKeys_like hl connective depth (h.add _ he _) ks

end

lemma expression?_like (hl : ∀ i c, Answers (Like made) (leaf i c) (leaf' i c)) (keys : List Key) :
    Answers (Option.Rel (Like made)) (expression? leaf keys) (expression? leaf' keys) :=
  (ofKeys_like hl .and 0 ⟨.nil, .nil, rfl⟩ keys).map fun _ _ hc => hc.expression?

end Keychain

inductive Plan.Like : Plan → Plan → Prop
  | intro (p : Plan) {conditions having : Conditions} : p.conditions.Like conditions → p.having.Like having →
    Like p { p with conditions := conditions, having := having }

namespace Builder

inductive Like : Builder → Builder → Prop
  | intro (b : Builder) {p : Plan} : b.plan.Like p → Like b { b with plan := p }

lemma Like.append {b c : Builder} (h : Like b c) {ts ts' : List Token} (hts : List.Forall₂ Token.Like ts ts') :
    Like (b.setTarget (b.target.append ts)) (c.setTarget (c.target.append ts')) := by
  obtain ⟨plan, history, keychain, clause, pending⟩ := b
  obtain ⟨⟨hc, hh⟩⟩ := h
  cases clause with
  | whereKeys =>
    exact .intro ⟨{ plan with conditions := plan.conditions.append ts }, history, keychain, .whereKeys, pending⟩
      (.intro { plan with conditions := plan.conditions.append ts } (hc.append hts) hh)
  | havingKeys =>
    exact .intro ⟨{ plan with having := plan.having.append ts }, history, keychain, .havingKeys, pending⟩
      (.intro { plan with having := plan.having.append ts } hc (hh.append hts))

lemma alters_like {f : Plan → Plan} (hf : ∀ p conditions having,
    f { p with conditions := conditions, having := having } =
      { f p with conditions := conditions, having := having }) : Alters Like f := by
  rintro b _ ⟨⟨hc, hh⟩⟩
  have hkept := hf b.plan b.plan.conditions b.plan.having
  have hlike := Plan.Like.intro (f b.plan) (congrArg Plan.conditions hkept ▸ hc) (congrArg Plan.having hkept ▸ hh)
  rw [← hf] at hlike
  exact .intro { b with plan := f b.plan } hlike

lemma level_like : Level Like where
  keychain := by
    rintro b _ ⟨hp⟩
    rfl
  primary? := by
    rintro b _ ⟨⟨hc, hh⟩⟩
    rfl
  opened := by
    rintro b _ ⟨hp⟩
    rfl
  setKeychain := by
    rintro b _ ⟨hp⟩ keys
    exact .intro { b with keychain := keys } hp
  append h ts := h.append (Token.like_refl ts)
  pending := by
    rintro b _ ⟨hp⟩
    rfl
  setPending := by
    rintro b _ ⟨hp⟩ pending
    exact .intro { b with pending := pending } hp
  note := by
    rintro b _ ⟨hp⟩ keyword
    exact .intro { b with history := keyword :: b.history } hp
  command _ := alters_like fun _ _ _ => rfl

lemma like_perform (rs : Results) (keyword : Keyword) (args : List Arg) :
    Alike Like Eq (perform rs keyword args) (perform rs keyword args) := by
  have hjoins (join : Join) : Alters Like fun p => { p with joins := p.joins ++ [join] } :=
    alters_like fun _ _ _ => rfl
  have hcolumns (columns : List Column) : Alters Like fun p => { p with columns := columns } :=
    alters_like fun _ _ _ => rfl
  have horder (keys : List SortKey) : Alters Like fun p => { p with orderBy := keys } := alters_like fun _ _ _ => rfl
  have hgroup (keys : List SortKey) : Alters Like fun p => { p with groupBy := keys } := alters_like fun _ _ _ => rfl
  have hdistinct : Alters Like fun p => { p with distinct := true } := alters_like fun _ _ _ => rfl
  have hopen (clause : Clause) : Alike Like Eq (openKeys clause args) (openKeys clause args) := by
    refine level_like.openKeys ?_ ?_ args
    · rintro b _ ⟨hp⟩
      rfl
    · rintro b _ ⟨hp⟩ keys
      exact .intro { b with keychain := keys, clause := clause } hp
  by_cases hc : keyword.isComparing = true
  · exact level_like.perform rs hc args
  · cases keyword with
    | select => exact alike_selectColumns hcolumns (fun _ => alters_like fun _ _ _ => rfl) [] [] args
    | insert => exact alike_insertData (fun _ => alters_like fun _ _ _ => rfl) args
    | delete => exact .bind_eq (.mapM (fun _ => .lift _) args) fun columns => (hcolumns columns).modifyPlan
    | update | fromTables | toTables => exact alike_setTables (fun _ => alters_like fun _ _ _ => rfl) _ args
    | setFields => exact alike_setFields (fun _ => alters_like fun _ _ _ => rfl) args
    | distinct => exact hdistinct.modifyPlan
    | whereKeys => exact hopen _
    | havingKeys => exact hopen _
    | join | leftJoin | rightJoin | fullJoin => exact level_like.openJoin _ args
    | onColumn | usingColumn => exact level_like.closeJoin hjoins _ args
    | limit => exact alike_setLimit (fun _ => alters_like fun _ _ _ => rfl) args
    | orderBy => exact .bind_eq (level_like.sortKeys args) fun keys => (horder keys).modifyPlan
    | groupBy => exact .bind_eq (level_like.sortKeys args) fun keys => (hgroup keys).modifyPlan
    | union | unionAll => exact alike_addUnions (fun _ => alters_like fun _ _ _ => rfl) _ args
    | _ => exact absurd rfl hc

lemma pushExpression_like (rs : Results) {e e' : Option Expression} (h : Option.Rel (Expression.Like rs) e e') :
    Alike Like Eq (pushExpression rs e) (pushExpression rs e') := by
  cases h with
  | none => exact .pure rfl
  | some he =>
    refine .bind .get fun b c hbc => ?_
    have hpush : Answers (fun cs cs' => Like (b.setTarget cs) (c.setTarget cs')) _ _ :=
      (he 0).map fun _ _ hts => hbc.append hts
    exact .bind (.lift_of_answers hpush) fun _ _ h => .set h

lemma compareMembers_like (rs : Results) {args args' : List Arg}
    (h : Answers (List.Forall₂ Operand.Like) (Operand.ofArgs 0 args) (Operand.ofArgs 0 args')) :
    Alike Like Eq (compareMembers rs args) (compareMembers rs args') := by
  refine .bind_eq (level_like.requireKeys _) fun keys => .bind (.lift_of_answers h) fun os os' hos => ?_
  refine .bind (.lift_of_answers (Keychain.expression?_like (fun i c => .ok (.member fun rs => ?_)) keys))
    fun e e' he => pushExpression_like rs he
  exact Operand.Like.valuesOfAll (Operand.Like.memberOperands hos _ i) rs

end Builder

inductive Operation.Like : Operation → Operation → Prop
  | refl (o : Operation) : Like o o
  | member {args args' : List Arg} : args'.isEmpty = args.isEmpty →
    Answers (List.Forall₂ Operand.Like) (Operand.ofArgs 0 args) (Operand.ofArgs 0 args') →
    Like ⟨.isIn, args⟩ ⟨.isIn, args'⟩

lemma Builder.apply_like (rs : Results) {o o' : Operation} (h : o.Like o') :
    Alike Like Eq (apply rs o) (apply rs o') := by
  cases h with
  | refl => exact .bind_eq (.lift _) fun _ => .bind_eq (like_perform rs _ _) fun _ => level_like.accept _
  | @member args args' he ha =>
    have hcheck : Plan.check .isIn args' = Plan.check .isIn args := by
      simp only [Plan.check, Plan.checkSome, he]
    rw [apply, apply]
    dsimp only
    rw [hcheck]
    exact .bind_eq (.lift _) fun _ => .bind_eq (compareMembers_like rs ha) fun _ => level_like.accept _

namespace Plan

lemma Like.refl (p : Plan) : Like p p := .intro p (.refl _) (.refl _)

lemma Like.resolve {p q : Plan} (h : p.Like q) : p.resolve.Like q.resolve := by
  obtain ⟨hc, hh⟩ := h
  exact .intro p.resolve hc hh

lemma finish_like {b c : Builder} (h : b.Like c) : Answers Like b.finish c.finish := by
  obtain ⟨hp⟩ := h
  unfold Builder.finish
  cases b.pending with
  | none => exact .ok hp.resolve
  | some pending => exact .error _

lemma ofScheme_like (rs : Results) {s s' : Scheme} (h : List.Forall₂ Operation.Like s s') :
    Answers Like (ofScheme rs s) (ofScheme rs s') := by
  obtain ⟨ha, hb⟩ := Alike.forM (fun _ _ ho => Builder.apply_like rs ho) h .empty .empty (.intro .empty (.refl _))
  rw [ofScheme, ofScheme]
  rcases hr : (s.forM (Builder.apply rs)).run .empty with ⟨x, b⟩
  rcases hr' : (s'.forM (Builder.apply rs)).run .empty with ⟨y, c⟩
  rw [hr, hr'] at ha hb
  cases ha with
  | error e => exact .error e
  | ok => exact finish_like hb

variable {p q : Plan}

lemma Like.bound? (h : p.Like q) : q.bound? = p.bound? := by
  obtain ⟨hc, hh⟩ := h
  rw [Plan.bound?, Plan.bound?, reshapes, reshapes, hc.isEmpty, hh.isEmpty]

lemma Like.matchedRows (h : p.Like q) (rs : Results) : Query.matchedRows rs q = Query.matchedRows rs p := by
  have hb := h.bound?
  obtain ⟨hc, hh⟩ := h
  simp only [Query.matchedRows, hb, hc.isEmpty, hc.test]

lemma Like.project (h : p.Like q) (rs : Results) : Select.project rs q = Select.project rs p := by
  obtain ⟨hc, hh⟩ := h
  funext rows
  rw [Select.project, Select.project, hc.test]

lemma Like.arrange (h : p.Like q) (rs : Results) : Select.arrange rs q = Select.arrange rs p := by
  obtain ⟨hc, hh⟩ := h
  funext rows
  simp only [Select.arrange, hh.isEmpty, hh.test]

lemma Like.output [Source] (h : p.Like q) (rs : Results) : Select.output rs q = Select.output rs p := by
  have hp := h.project rs
  have ha := h.arrange rs
  obtain ⟨hc, hh⟩ := h
  funext primary sets
  simp only [Select.output, Select.finish, hp, ha]
  rfl

lemma Like.run [Source] (h : p.Like q) (rs : Results) : q.run rs = p.run rs := by
  have hb := h.bound?
  have hm := h.matchedRows rs
  have ho := h.output rs
  obtain ⟨hc, hh⟩ := h
  unfold Plan.run
  dsimp only
  split
  · simp only [Select.run, hb, ho]
    rfl
  · rfl
  · simp only [Update.run, hm]
    rfl
  · simp only [Delete.run, hm]
    rfl
  · rfl

end Plan

end DocQuery
