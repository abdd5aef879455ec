import DocQuery.Value.Compare
import Mathlib.Tactic.Lemma

/-! The order of values is a total preorder. Values are told apart by their rank first, so that only values of
one constructor need a comparison of what is in them; the comparisons of three values then fit together, and
those of lists of values do because those of their items do. -/

namespace DocQuery

/-- A comparison by which everything is level with itself, two things are in order one way or the other,
the order carries on from one to the next, and what is compared the other way round comes out the other way. -/
structure TotalPreorder {α : Type} (cmp : α → α → Ordering) : Prop where
  refl : ∀ a, cmp a a = .eq
  trans : ∀ a b c, (cmp a b).isLE → (cmp b c).isLE → (cmp a c).isLE
  total : ∀ a b, (cmp a b).isLE ∨ (cmp b a).isLE
  swap : ∀ a b, cmp b a = (cmp a b).swap

lemma TotalPreorder.of_transCmp {α : Type} (cmp : α → α → Ordering) [Std.TransCmp cmp] : TotalPreorder cmp where
  refl _ := Std.ReflCmp.compare_self
  trans _ _ _ := Std.TransCmp.isLE_trans
  total a b := by
    have hs : cmp b a = (cmp a b).swap := Std.OrientedCmp.eq_swap
    rw [hs]
    cases cmp a b <;> simp
  swap _ _ := Std.OrientedCmp.eq_swap

structure Chained (o₁ o₂ o₃ : Ordering) : Prop where
  left : o₁ = .eq → o₃ = o₂
  right : o₂ = .eq → o₃ = o₁
  same : o₁ = o₂ → o₃ = o₁

namespace Chained

variable {o₁ o₂ o₃ p₁ p₂ p₃ : Ordering}

lemma of_transCmp {α : Type} (cmp : α → α → Ordering) [Std.TransCmp cmp] (a b c : α) :
    Chained (cmp a b) (cmp b c) (cmp a c) where
  left := Std.TransCmp.congr_left
  right h := (Std.TransCmp.congr_right h).symm
  same h := by
    cases hab : cmp a b with
    | lt => exact Std.TransCmp.lt_trans hab (h ▸ hab)
    | eq => exact Std.TransCmp.eq_trans hab (h ▸ hab)
    | gt => exact Std.TransCmp.gt_trans hab (h ▸ hab)

lemma isLE (h : Chained o₁ o₂ o₃) (h₁ : o₁.isLE) (h₂ : o₂.isLE) : o₃.isLE := by
  cases o₁ with
  | lt =>
    cases o₂ with
    | lt => rw [h.same rfl]; rfl
    | eq => rw [h.right rfl]; rfl
    | gt => simp at h₂
  | eq => rwa [h.left rfl]
  | gt => simp at h₁

lemma andThen (h : Chained o₁ o₂ o₃) (h' : o₁ = .eq → o₂ = .eq → Chained p₁ p₂ p₃) :
    Chained (o₁.then p₁) (o₂.then p₂) (o₃.then p₃) := by
  cases o₁ with
  | eq =>
    rw [h.left rfl]
    cases o₂ with
    | eq =>
      -- all three are level so far
      exact h' rfl rfl
    | _ => exact ⟨fun _ => rfl, nofun, Eq.symm⟩
  | _ =>
    cases o₂ with
    | eq =>
      rw [h.right rfl]
      exact ⟨nofun, fun _ => rfl, fun _ => rfl⟩
    | _ =>
      refine ⟨nofun, nofun, fun hs => ?_⟩
      rw [h.same hs]
      rfl

end Chained

namespace Value

def within : Value → Value → Ordering
  | bool x, bool y => compare x y
  | number m, number n => compare m.ordinal n.ordinal
  | string s, string t => compare s t
  | array as, array bs => orderItems as bs
  | _, _ => .eq

lemma order_eq_then (a b : Value) : a.order b = (compare a.rank b.rank).then (a.within b) := by
  cases a <;> cases b <;> rfl

lemma order_swap_of {a b : Value} (h : b.within a = (a.within b).swap) : b.order a = (a.order b).swap := by
  rw [order_eq_then, order_eq_then, Ordering.swap_then, h, ← Std.OrientedOrd.eq_swap]

lemma order_chained_of {a b c : Value}
    (h : a.rank = b.rank → b.rank = c.rank → Chained (a.within b) (b.within c) (a.within c)) :
    Chained (a.order b) (b.order c) (a.order c) := by
  rw [order_eq_then, order_eq_then, order_eq_then]
  refine (Chained.of_transCmp compare a.rank b.rank c.rank).andThen fun hab hbc => h ?_ ?_
  · exact Std.LawfulEqCmp.eq_of_compare hab
  · exact Std.LawfulEqCmp.eq_of_compare hbc

mutual

lemma within_swap (a b : Value) : b.within a = (a.within b).swap := by
  cases a with
  | bool x =>
    cases b with
    | bool y => exact Std.OrientedOrd.eq_swap
    | _ => rfl
  | number m =>
    cases b with
    | number n => exact Std.OrientedOrd.eq_swap
    | _ => rfl
  | string s =>
    cases b with
    | string t => exact Std.OrientedOrd.eq_swap
    | _ => rfl
  | array as =>
    cases b with
    | array bs => exact orderItems_swap as bs
    | _ => rfl
  | _ => cases b <;> rfl

lemma orderItems_swap (as bs : List Value) : orderItems bs as = (orderItems as bs).swap := by
  cases as with
  | nil => cases bs <;> rfl
  | cons a as =>
    cases bs with
    | nil => rfl
    | cons b bs =>
      rw [orderItems, orderItems, Ordering.swap_then, order_swap_of (within_swap a b), orderItems_swap as bs]

end

mutual

lemma within_chained (a b c : Value) (hab : a.rank = b.rank) (hbc : b.rank = c.rank) :
    Chained (a.within b) (b.within c) (a.within c) := by
  -- values of one rank are of one constructor
  cases a <;> cases b <;> simp [rank] at hab <;> cases c <;> simp [rank] at hbc
  case bool.bool.bool x y z => exact .of_transCmp compare x y z
  case number.number.number l m n => exact .of_transCmp compare l.ordinal m.ordinal n.ordinal
  case string.string.string s t u => exact .of_transCmp compare s t u
  case array.array.array as bs cs => exact orderItems_chained as bs cs
  all_goals exact ⟨fun _ => rfl, fun _ => rfl, fun _ => rfl⟩

lemma orderItems_chained (as bs cs : List Value) :
    Chained (orderItems as bs) (orderItems bs cs) (orderItems as cs) := by
  cases as with
  | nil => cases bs <;> cases cs <;> constructor <;> simp [orderItems]
  | cons a as =>
    cases bs with
    | nil => cases cs <;> constructor <;> simp [orderItems]
    | cons b bs =>
      cases cs with
      | nil => constructor <;> simp [orderItems, eq_comm]
      | cons c cs => exact (order_chained_of (within_chained a b c)).andThen fun _ _ => orderItems_chained as bs cs

end

instance : Std.TransCmp order where
  eq_swap := order_swap_of (within_swap _ _)
  isLE_trans := (order_chained_of (within_chained _ _ _)).isLE

mutual

lemma order_of_deepEqual (a b : Value) (h : a.deepEqual b = true) : a.order b = .eq := by
  cases a <;> cases b <;> simp [deepEqual] at h
  case bool.bool x y => simp [order, h]
  case number.number m n => simp [order, h]
  case string.string s t => simp [order, h]
  case array.array as bs => exact orderItems_of_deepEqual as bs h
  all_goals rfl

lemma orderItems_of_deepEqual (as bs : List Value) (h : deepEqualItems as bs = true) : orderItems as bs = .eq := by
  cases as with
  | nil =>
    cases bs with
    | nil => rfl
    | cons b bs => simp [deepEqualItems] at h
  | cons a as =>
    cases bs with
    | nil => simp [deepEqualItems] at h
    | cons b bs =>
      obtain ⟨hab, hs⟩ := Bool.and_eq_true_iff.mp h
      rw [orderItems, order_of_deepEqual a b hab, orderItems_of_deepEqual as bs hs]
      rfl

end

end Value

end DocQuery
