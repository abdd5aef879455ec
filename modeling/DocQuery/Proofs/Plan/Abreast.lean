import DocQuery.Plan.Builder
import DocQuery.Proofs.Alike

/-! Two builders side by side: what a word that makes conditions does in the one it does in the other, as long as
both have the same keys open, and what any other word does if both may have their plans altered as it does. -/

namespace DocQuery

def Keyword.isComparing : Keyword → Bool
  | and | or | not | openGroup | closeGroup | eq | gt | lt | between | like | isIn | isNull | existsRows => true
  | _ => false

namespace Builder

structure Abreast (R : Builder → Builder → Prop) : Prop where
  keychain {b c} : R b c → c.keychain = b.keychain
  primary? {b c} : R b c → c.plan.primary? = b.plan.primary?
  opened {b c} : R b c → c.history.head?.any Keyword.isClause = b.history.head?.any Keyword.isClause
  setKeychain {b c} : R b c → ∀ keys, R { b with keychain := keys } { c with keychain := keys }
  append {b c} : R b c → ∀ ts, R (b.setTarget (b.target.append ts)) (c.setTarget (c.target.append ts))

namespace Abreast

variable {R : Builder → Builder → Prop} (hR : Abreast R)

include hR

lemma pushToken (t : Token) : Alike R Eq (pushToken t) (pushToken t) := .update fun _ _ h => hR.append h [t]

lemma pushExpression (rs : Results) (e : Option Expression) :
    Alike R Eq (pushExpression rs e) (pushExpression rs e) := by
  cases e with
  | none => exact .pure rfl
  | some e =>
    refine .bind .get fun b c h => ?_
    rw [Conditions.push, Conditions.push]
    cases e.tokens rs 0 with
    | error fault => exact .throw fault
    | ok ts => exact .set (hR.append h ts)

lemma primary : Alike R Eq primary primary := .bind .get fun _ _ h => .pure (hR.primary? h).symm

lemma openKeys {clause clause' : Clause}
    (hc : ∀ {b c}, R b c → continues clause' c.history = continues clause b.history)
    (hs : ∀ {b c}, R b c → ∀ keys, R { b with keychain := keys, clause := clause }
      { c with keychain := keys, clause := clause' }) (args : List Arg) :
    Alike R Eq (openKeys clause args) (openKeys clause' args) := by
  refine .bind_eq hR.primary fun table => .bind_eq (.lift _) fun keys => .bind .get fun b c h => ?_
  rw [hc h, hR.keychain h]
  split
  · split
    · exact .set (hs h _)
    · exact .throw _
  · exact .set (hs h keys)

lemma connect (connective : Connective) : Alike R Eq (connect connective) (connect connective) := by
  refine .bind .get fun b c h => ?_
  rw [hR.opened h, hR.keychain h]
  split
  · exact .set (hR.setKeychain h _)
  · exact hR.pushToken _

lemma requireKeys (keyword : Keyword) : Alike R Eq (requireKeys keyword) (requireKeys keyword) := by
  refine .bind .get fun b c h => ?_
  rw [hR.keychain h]
  dsimp only
  split
  · exact .throw _
  · exact .pure rfl

lemma pushLeaves (rs : Results) (keys : List Key) (leaf : Nat → Column → Except Error Expression) :
    Alike R Eq (pushLeaves rs keys leaf) (pushLeaves rs keys leaf) :=
  .bind_eq (.lift _) fun e => hR.pushExpression rs e

lemma compareKeys (rs : Results) (keyword : Keyword) (args : List Arg) :
    Alike R Eq (compareKeys rs keyword args) (compareKeys rs keyword args) :=
  .bind_eq (hR.requireKeys _) fun keys => .bind_eq (.lift _) fun _ => hR.pushLeaves rs keys _

lemma compareMembers (rs : Results) (args : List Arg) :
    Alike R Eq (compareMembers rs args) (compareMembers rs args) :=
  .bind_eq (hR.requireKeys _) fun keys => .bind_eq (.lift _) fun _ => hR.pushLeaves rs keys _

lemma compareBounds (rs : Results) (args : List Arg) :
    Alike R Eq (compareBounds rs args) (compareBounds rs args) := by
  refine .bind_eq (hR.requireKeys _) fun keys => .bind_eq (.lift _) fun operands => ?_
  dsimp only
  split
  · exact hR.pushLeaves rs keys _
  · exact .throw _

lemma requireRows (rs : Results) (args : List Arg) : Alike R Eq (requireRows rs args) (requireRows rs args) :=
  .bind_eq (.lift _) fun _ => hR.pushExpression rs _

lemma perform (rs : Results) {keyword : Keyword} (hk : keyword.isComparing = true) (args : List Arg) :
    Alike R Eq (perform rs keyword args) (perform rs keyword args) := by
  cases keyword with
  | and => exact hR.connect .and
  | or => exact hR.connect .or
  | not => exact hR.pushToken .not
  | openGroup => exact hR.pushToken .openGroup
  | closeGroup => exact hR.pushToken .closeGroup
  | eq => exact hR.compareKeys rs _ args
  | gt => exact hR.compareKeys rs _ args
  | lt => exact hR.compareKeys rs _ args
  | like => exact hR.compareKeys rs _ args
  | isNull => exact hR.compareKeys rs _ args
  | isIn => exact hR.compareMembers rs args
  | between => exact hR.compareBounds rs args
  | existsRows => exact hR.requireRows rs args
  | _ => cases hk

end Abreast

def Alters (R : Builder → Builder → Prop) (f : Plan → Plan) : Prop :=
  ∀ b c, R b c → R { b with plan := f b.plan } { c with plan := f c.plan }

section

variable {R : Builder → Builder → Prop}

lemma Alters.modifyPlan {f : Plan → Plan} (h : Alters R f) : Alike R Eq (modifyPlan f) (modifyPlan f) := .update h

lemma alike_tableOf (keyword : Keyword) (a : Arg) : Alike R Eq (tableOf keyword a) (tableOf keyword a) := by
  unfold tableOf
  split
  · exact .pure rfl
  · exact .pure rfl
  · exact .throw _

lemma alike_joinTarget (a : Arg) : Alike R Eq (joinTarget a) (joinTarget a) := by
  unfold joinTarget
  split
  · exact .pure rfl
  · dsimp only
    split
    · split <;> exact .pure rfl
    · exact .pure rfl
  · split
    · exact .pure rfl
    · exact .throw _
  · exact .throw _

lemma alike_selectColumns (hc : ∀ columns, Alters R fun p => { p with columns := columns })
    (hf : ∀ call, Alters R fun p => { p with calls := p.calls ++ [call] }) (columns inputs : List Column)
    (args : List Arg) : Alike R Eq (selectColumns columns inputs args) (selectColumns columns inputs args) := by
  induction args generalizing columns inputs with
  | nil => exact (hc _).modifyPlan
  | cons a args ih =>
    cases a with
    | function call => exact .bind_eq (hf call).modifyPlan fun _ => ih _ _
    | _ => exact .bind_eq (.lift _) fun _ => ih _ _

lemma alike_insertData (h : ∀ rows, Alters R fun p => { p with data := p.data ++ rows }) (args : List Arg) :
    Alike R Eq (insertData args) (insertData args) := by
  induction args with
  | nil => exact .pure rfl
  | cons a args ih =>
    cases a with
    | value v => exact .bind_eq (h _).modifyPlan fun _ => ih
    | _ => exact .throw _

lemma alike_setFields (h : ∀ fields, Alters R fun p => { p with assignments := some fields }) (args : List Arg) :
    Alike R Eq (setFields args) (setFields args) := by
  unfold setFields
  split
  · exact (h _).modifyPlan
  · exact .throw _
  · exact .throw _

lemma alike_addUnions (h : ∀ union, Alters R fun p => { p with unions := p.unions ++ [union] }) (keyword : Keyword)
    (args : List Arg) : Alike R Eq (addUnions keyword args) (addUnions keyword args) := by
  induction args with
  | nil => exact .pure rfl
  | cons a args ih =>
    cases a with
    | output o => exact .bind_eq (h _).modifyPlan fun _ => ih
    | _ => exact .throw _

lemma alike_setLimit (h : ∀ limit, Alters R fun p => { p with limit := some limit }) (args : List Arg) :
    Alike R Eq (setLimit args) (setLimit args) := by
  unfold setLimit
  split
  · exact (h _).modifyPlan
  · exact .pure rfl

lemma alike_setTables (h : ∀ tables, Alters R fun p => { p with tables := tables }) (keyword : Keyword)
    (args : List Arg) : Alike R Eq (setTables keyword args) (setTables keyword args) :=
  .bind_eq (.mapM (alike_tableOf keyword) args) fun _ => (h _).modifyPlan

end

structure Level (R : Builder → Builder → Prop) : Prop extends Abreast R where
  pending {b c} : R b c → c.pending = b.pending
  setPending {b c} : R b c → ∀ pending, R { b with pending := pending } { c with pending := pending }
  note {b c} : R b c → ∀ keyword,
    R { b with history := keyword :: b.history } { c with history := keyword :: c.history }
  command : ∀ command, Alters R fun p => { p with command := p.command <|> command }

namespace Level

variable {R : Builder → Builder → Prop} (hR : Level R)

include hR

lemma openJoin (keyword : Keyword) (args : List Arg) :
    Alike R Eq (openJoin keyword args) (openJoin keyword args) := by
  unfold Builder.openJoin
  cases keyword.joinKind? with
  | none => exact .throw _
  | some kind =>
    refine .bind .get fun b c h => ?_
    rw [hR.pending h]
    split
    · exact .throw _
    · refine .bind_eq (alike_joinTarget _) fun target => .bind_eq hR.primary fun table => ?_
      split
      · exact .throw _
      · exact .update fun _ _ h => hR.setPending h _

lemma joinColumns (keyword : Keyword) (pending : PendingJoin) (c : Column) :
    Alike R Eq (joinColumns keyword pending c) (joinColumns keyword pending c) := by
  unfold Builder.joinColumns
  split
  · exact .bind_eq hR.primary fun _ => .pure rfl
  · split
    · exact .bind_eq hR.primary fun _ => .pure rfl
    · exact .throw _

lemma closeJoin (h : ∀ join, Alters R fun p => { p with joins := p.joins ++ [join] }) (keyword : Keyword)
    (args : List Arg) : Alike R Eq (closeJoin keyword args) (closeJoin keyword args) := by
  refine .bind .get fun b c hbc => ?_
  rw [hR.pending hbc]
  split
  · exact .throw _
  · refine .bind_eq (.update fun _ _ h => hR.setPending h none) fun _ => ?_
    split
    · exact .throw _
    · exact .bind_eq (.lift _) fun c => .bind_eq (hR.joinColumns _ _ c) fun _ => (h _).modifyPlan

lemma sortKeys (args : List Arg) : Alike R Eq (sortKeys args) (sortKeys args) :=
  .bind_eq hR.primary fun _ => .lift _

lemma accept (keyword : Keyword) : Alike R Eq (accept keyword) (accept keyword) :=
  .bind_eq (hR.command _).modifyPlan fun _ => .update fun _ _ h => hR.note h keyword

end Level

end Builder

end DocQuery
