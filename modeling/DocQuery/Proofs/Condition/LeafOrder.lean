import DocQuery.Condition.Cached
import Mathlib.Tactic.Lemma

namespace DocQuery.Formula

lemma leavesOfAll_eq (fs : List Formula) : leavesOfAll fs = fs.flatMap leaves := by
  induction fs with
  | nil => rfl
  | cons f fs ih => rw [leavesOfAll, ih, List.flatMap_cons]

def leaves? (f : Option Formula) : List Leaf := f.elim [] leaves

lemma flatMap_leaves_toList (f : Option Formula) : f.toList.flatMap leaves = leaves? f := by
  cases f with
  | none => rfl
  | some f => exact List.append_nil _

lemma leaves?_group {wrap : List Formula → Formula} (hw : ∀ fs, (wrap fs).leaves = fs.flatMap leaves)
    (fs : List Formula) : leaves? (group wrap fs) = fs.flatMap leaves := by
  match fs with
  | [] => rfl
  | [f] => exact (List.append_nil _).symm
  | f :: g :: fs => exact hw _

lemma leaves_all (fs : List Formula) : (all fs).leaves = fs.flatMap leaves := by
  rw [leaves, leavesOfAll_eq]

lemma leaves_any (fs : List Formula) : (any fs).leaves = fs.flatMap leaves := by
  rw [leaves, leavesOfAll_eq]

namespace Frame

def leaves (fr : Frame) : List Leaf := fr.terms.flatMap Formula.leaves ++ fr.factors.flatMap Formula.leaves

lemma leaves_negate (n : Nat) (f : Formula) : (negate n f).leaves = f.leaves := by
  induction n with
  | zero => rfl
  | succ n ih => rw [negate, Formula.leaves, ih]

lemma leaves_put (fr : Frame) (f : Option Formula) : (fr.put f).leaves = fr.leaves ++ leaves? f := by
  have hf : leaves? (f.map (negate fr.negations)) = leaves? f := by
    cases f with
    | none => rfl
    | some f => exact leaves_negate _ f
  rw [put, leaves, List.flatMap_append, flatMap_leaves_toList, hf, ← List.append_assoc]
  rfl

lemma leaves_closeTerm (fr : Frame) : fr.closeTerm.leaves = fr.leaves := by
  rw [closeTerm, leaves, List.flatMap_append, flatMap_leaves_toList, leaves?_group leaves_all, List.flatMap_nil,
    List.append_nil]
  rfl

lemma leaves?_formula? (fr : Frame) : leaves? fr.formula? = fr.leaves := by
  have hc := fr.leaves_closeTerm
  rw [leaves, closeTerm, List.flatMap_nil, List.append_nil] at hc
  rw [formula?, leaves?_group leaves_any, closeTerm, hc]

end Frame

namespace Reader

def leaves (r : Reader) : List Leaf :=
  r.read.flatMap Formula.leaves ++ (r.outer.reverse.flatMap Frame.leaves ++ r.frame.leaves)

lemma leaves_closeAll (fr : Frame) (outer : List Frame) :
    (closeAll fr outer).leaves = outer.reverse.flatMap Frame.leaves ++ fr.leaves := by
  induction outer generalizing fr with
  | nil => rfl
  | cons fr' outer ih =>
    rw [closeAll, ih, Frame.leaves_put, Frame.leaves?_formula?, List.reverse_cons, List.flatMap_append,
      List.flatMap_singleton, List.append_assoc]

lemma leaves_finish (r : Reader) : r.finish.leaves = r.leaves := by
  rw [finish, leaves, List.flatMap_append, flatMap_leaves_toList, Frame.leaves?_formula?, leaves_closeAll]
  exact List.append_nil _

lemma leaves_put (r : Reader) (f : Option Formula) : (r.put f).leaves = r.leaves ++ leaves? f := by
  rw [put, leaves, Frame.leaves_put, leaves, List.append_assoc, List.append_assoc]

lemma leaves_stepOperand (r : Reader) (t : Token) : (r.stepOperand t).leaves = r.leaves ++ t.leaf?.toList := by
  cases t with
  | leaf l => exact leaves_put r _
  | not => exact (List.append_nil _).symm
  | and => exact (List.append_nil _).symm
  | or =>
    refine Eq.trans ?_ (List.append_nil _).symm
    rw [stepOperand, leaves, Frame.leaves_closeTerm]
    rfl
  | openGroup =>
    refine Eq.trans ?_ (List.append_nil _).symm
    rw [stepOperand, leaves, List.reverse_cons, List.flatMap_append, List.flatMap_singleton]
    exact congrArg _ (List.append_nil _)
  | closeGroup =>
    refine Eq.trans ?_ (List.append_nil _).symm
    rw [stepOperand]
    split
    · exact leaves_finish r
    · next fr rest ho =>
      rw [leaves_put, Frame.leaves?_formula?, leaves, leaves, ho, List.reverse_cons, List.flatMap_append,
        List.flatMap_singleton]
      simp only [List.append_assoc]

lemma leaves_step (r : Reader) (t : Token) : (r.step t).leaves = r.leaves ++ t.leaf?.toList := by
  rw [step]
  split
  · rw [leaves_stepOperand, leaves_finish]
  · exact leaves_stepOperand r t

lemma leaves_foldl (r : Reader) (ts : List Token) :
    (ts.foldl step r).leaves = r.leaves ++ ts.filterMap Token.leaf? := by
  induction ts generalizing r with
  | nil => exact (List.append_nil _).symm
  | cons t ts ih =>
    rw [List.foldl_cons, ih, leaves_step, List.append_assoc, List.filterMap_cons]
    cases t.leaf? <;> rfl

end Reader

theorem leaves?_ofTokens? (ts : List Token) : leaves? (ofTokens? ts) = ts.filterMap Token.leaf? := by
  have hf := Reader.leaves_finish (ts.foldl Reader.step Reader.start)
  rw [Reader.leaves_foldl] at hf
  rw [ofTokens?, leaves?_group leaves_all]
  exact (List.append_nil _).symm.trans hf

end DocQuery.Formula
