import DocQuery.Condition
import Mathlib.Tactic.Lemma

namespace DocQuery

namespace Verdict

def all (vs : List Verdict) : Verdict :=
  if some false ∈ vs then some false else if some true ∈ vs then some true else none

def any (vs : List Verdict) : Verdict :=
  if some true ∈ vs then some true else if some false ∈ vs then some false else none

lemma all_congr {vs ws : List Verdict} (h : ∀ b, some b ∈ vs ↔ some b ∈ ws) : all vs = all ws := by
  simp only [all, h]

lemma any_congr {vs ws : List Verdict} (h : ∀ b, some b ∈ vs ↔ some b ∈ ws) : any vs = any ws := by
  simp only [any, h]

@[simp] lemma all_singleton (v : Verdict) : all [v] = v := by
  rcases v with _ | _ | _ <;> rfl

@[simp] lemma any_singleton (v : Verdict) : any [v] = v := by
  rcases v with _ | _ | _ <;> rfl

lemma some_false_mem_iff (vs : List Verdict) : some false ∈ vs ↔ all vs = some false := by
  unfold all
  split
  · simp [*]
  · split <;> simp [*]

lemma some_true_mem_iff (vs : List Verdict) : some true ∈ vs ↔ any vs = some true := by
  unfold any
  split
  · simp [*]
  · split <;> simp [*]

lemma all_ne_none {vs : List Verdict} {b : Bool} (h : some b ∈ vs) : all vs ≠ none := by
  unfold all
  split
  · exact Option.some_ne_none _
  · cases b with
    | false => contradiction
    | true => rw [if_pos h]; exact Option.some_ne_none _

lemma any_ne_none {vs : List Verdict} {b : Bool} (h : some b ∈ vs) : any vs ≠ none := by
  unfold any
  split
  · exact Option.some_ne_none _
  · cases b with
    | false => rw [if_pos h]; exact Option.some_ne_none _
    | true => contradiction

lemma all_append (vs ws : List Verdict) : all (vs ++ ws) = all [all vs, all ws] := by
  by_cases hf : some false ∈ vs ++ ws
  · have h : some false = all vs ∨ some false = all ws := by
      simpa only [List.mem_append, some_false_mem_iff, eq_comm] using hf
    have hm : some false ∈ [all vs, all ws] := by simpa using h
    rw [(some_false_mem_iff _).mp hf, (some_false_mem_iff _).mp hm]
  · rw [List.mem_append, not_or] at hf
    by_cases ht : some true ∈ vs <;> by_cases hu : some true ∈ ws <;>
      simp [all, hf.1, hf.2, ht, hu]

lemma any_append (vs ws : List Verdict) : any (vs ++ ws) = any [any vs, any ws] := by
  by_cases ht : some true ∈ vs ++ ws
  · have h : some true = any vs ∨ some true = any ws := by
      simpa only [List.mem_append, some_true_mem_iff, eq_comm] using ht
    have hm : some true ∈ [any vs, any ws] := by simpa using h
    rw [(some_true_mem_iff _).mp ht, (some_true_mem_iff _).mp hm]
  · rw [List.mem_append, not_or] at ht
    by_cases hf : some false ∈ vs <;> by_cases hg : some false ∈ ws <;>
      simp [any, ht.1, ht.2, hf, hg]

lemma all_cons (v : Verdict) (vs : List Verdict) : all (v :: vs) = all [v, all vs] := by
  simpa using all_append [v] vs

lemma any_cons (v : Verdict) (vs : List Verdict) : any (v :: vs) = any [v, any vs] := by
  simpa using any_append [v] vs

end Verdict

namespace Formula

lemma conj_eq_all (vs : List Verdict) : conj vs = Verdict.all vs := by
  induction vs with
  | nil => rfl
  | cons v vs ih =>
    rw [Verdict.all_cons, ← ih]
    rcases v with _ | _ | _ <;> rcases h : conj vs with _ | _ | _ <;> simp [conj, h, Verdict.all]

lemma disj_eq_any (vs : List Verdict) : disj vs = Verdict.any vs := by
  induction vs with
  | nil => rfl
  | cons v vs ih =>
    rw [Verdict.any_cons, ← ih]
    rcases v with _ | _ | _ <;> rcases h : disj vs with _ | _ | _ <;> simp [disj, h, Verdict.any]

variable (rs : Results) (row : Row)

lemma evalAll_eq_map (fs : List Formula) : evalAll rs row fs = fs.map (eval rs row) := by
  induction fs with
  | nil => rfl
  | cons f fs ih => rw [evalAll, ih, List.map_cons]

@[simp] lemma eval_leaf (l : Leaf) : eval rs row (.leaf l) = l.test.eval rs row := by rw [eval]

lemma eval_all (fs : List Formula) : eval rs row (.all fs) = Verdict.all (fs.map (eval rs row)) := by
  rw [eval, conj_eq_all, evalAll_eq_map]

lemma eval_any (fs : List Formula) : eval rs row (.any fs) = Verdict.any (fs.map (eval rs row)) := by
  rw [eval, disj_eq_any, evalAll_eq_map]

@[simp] lemma eval_not (f : Formula) : eval rs row (.not f) = (eval rs row f).map (!·) := by rw [eval]

def verdict? (f : Option Formula) : Verdict := f.bind (eval rs row)

@[simp] lemma verdict?_none : verdict? rs row none = none := rfl

@[simp] lemma verdict?_some (f : Formula) : verdict? rs row (some f) = eval rs row f := rfl

lemma verdict?_group_all (fs : List Formula) :
    verdict? rs row (group .all fs) = Verdict.all (fs.map (eval rs row)) := by
  match fs with
  | [] => rfl
  | [f] => simp [group]
  | f :: g :: fs => simp only [group, verdict?_some, eval_all]

lemma verdict?_group_any (fs : List Formula) :
    verdict? rs row (group .any fs) = Verdict.any (fs.map (eval rs row)) := by
  match fs with
  | [] => rfl
  | [f] => simp [group]
  | f :: g :: fs => simp only [group, verdict?_some, eval_any]

lemma all_append_toList (vs : List Verdict) (f : Option Formula) :
    Verdict.all (vs ++ f.toList.map (eval rs row)) = Verdict.all (vs ++ [verdict? rs row f]) := by
  refine Verdict.all_congr fun b => ?_
  cases f <;> simp

lemma any_append_toList (vs : List Verdict) (f : Option Formula) :
    Verdict.any (vs ++ f.toList.map (eval rs row)) = Verdict.any (vs ++ [verdict? rs row f]) := by
  refine Verdict.any_congr fun b => ?_
  cases f <;> simp

end Formula

/-! Conditions see no more of a row than what it covers and the values of columns. -/

section Seeing

variable {rs : Results} {r r' : Row}

lemma Test.eval_congr (hc : ∀ c, r'.coversColumn c = r.coversColumn c) (hr : ∀ c, r'.read c = r.read c)
    (t : Test) : t.eval rs r' = t.eval rs r := by
  cases t <;> simp only [eval, onColumn, hc, hr]

mutual

lemma Formula.eval_congr (hc : ∀ c, r'.coversColumn c = r.coversColumn c) (hr : ∀ c, r'.read c = r.read c) :
    (f : Formula) → f.eval rs r' = f.eval rs r
  | .leaf l => by rw [eval_leaf, eval_leaf, Test.eval_congr hc hr]
  | .all items => by rw [eval, eval, Formula.evalAll_congr hc hr items]
  | .any items => by rw [eval, eval, Formula.evalAll_congr hc hr items]
  | .not item => by rw [eval_not, eval_not, Formula.eval_congr hc hr item]

lemma Formula.evalAll_congr (hc : ∀ c, r'.coversColumn c = r.coversColumn c) (hr : ∀ c, r'.read c = r.read c) :
    (fs : List Formula) → evalAll rs r' fs = evalAll rs r fs
  | [] => rfl
  | f :: fs => by rw [evalAll, evalAll, Formula.eval_congr hc hr f, Formula.evalAll_congr hc hr fs]

end

lemma Conditions.test_congr (hc : ∀ c, r'.coversColumn c = r.coversColumn c) (hr : ∀ c, r'.read c = r.read c)
    (cs : Conditions) : cs.test rs r' = cs.test rs r := by
  have hf : Formula.eval rs r' = Formula.eval rs r := funext fun f => Formula.eval_congr hc hr f
  rw [test, test, verdict, verdict, hf]

end Seeing

end DocQuery
