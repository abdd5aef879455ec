import DocQuery.Proofs.Condition.Verdicts
import Mathlib.Data.List.Forall2

namespace DocQuery.Formula

open Reader

namespace Frame

lemma negate_not (n : Nat) (f : Formula) : negate n (.not f) = .not (negate n f) := by
  induction n with
  | zero => rfl
  | succ n ih => rw [negate, ih, negate]

lemma put_negated (fr : Frame) (f : Option Formula) :
    (⟨fr.terms, fr.factors, fr.negations + 1⟩ : Frame).put f = fr.put (f.map .not) := by
  cases f with
  | none => rfl
  | some f => simp only [put, Option.map_some, negate, negate_not]

lemma put_of_negations {fr : Frame} (h : fr.negations = 0) (f : Formula) :
    fr.put (some f) = ⟨fr.terms, fr.factors ++ [f], 0⟩ := by
  simp [put, h, negate]

lemma verdict_formula? (rs : Results) (row : Row) (fr : Frame) :
    verdict? rs row fr.formula? =
      Verdict.any (fr.terms.map (eval rs row) ++ [Verdict.all (fr.factors.map (eval rs row))]) := by
  rw [formula?, verdict?_group_any, closeTerm, List.map_append, any_append_toList, verdict?_group_all]

end Frame

def Extends (ts : List Token) (fr fr' : Frame) : Prop :=
  ∀ read outer, ts.foldl step ⟨read, outer, fr, false⟩ = ⟨read, outer, fr', true⟩

namespace Extends

variable {ts us : List Token} {fr fr' fr'' : Frame}

lemma leaf (l : Leaf) (fr : Frame) : Extends [.leaf l] fr (fr.put (some (.leaf l))) := fun _ _ => rfl

lemma not (h : Extends ts { fr with negations := fr.negations + 1 } fr') :
    Extends (.not :: ts) fr fr' := fun read outer => h read outer

lemma group (h : Extends ts .empty fr') (fr : Frame) :
    Extends (.openGroup :: ts ++ [.closeGroup]) fr (fr.put fr'.formula?) := by
  intro read outer
  have hs : step ⟨read, outer, fr, false⟩ .openGroup = ⟨read, fr :: outer, .empty, false⟩ := rfl
  rw [List.cons_append, List.foldl_cons, hs, List.foldl_append, h]
  rfl

lemma and (h : Extends ts fr fr') (h0 : fr'.negations = 0) (h' : Extends us fr' fr'') :
    Extends (ts ++ .and :: us) fr fr'' := by
  intro read outer
  have hs : step ⟨read, outer, fr', true⟩ .and = ⟨read, outer, { fr' with negations := 0 }, false⟩ := rfl
  rw [List.foldl_append, h, List.foldl_cons, hs, ← h0, h']

lemma or (h : Extends ts fr fr') (h' : Extends us fr'.closeTerm fr'') :
    Extends (ts ++ .or :: us) fr fr'' := by
  intro read outer
  rw [List.foldl_append, h]
  exact h' read outer

end Extends

lemma ofTokens?_of_extends {ts : List Token} {fr : Frame} (h : Extends ts .empty fr) :
    ofTokens? ts = fr.formula? := by
  rw [ofTokens?, start, h]
  have hf : (finish ⟨[], [], fr, true⟩).read = fr.formula?.toList := rfl
  rw [hf]
  cases fr.formula? <;> rfl

def IsOperand (ts : List Token) (f : Formula) : Prop := ∀ fr, Extends ts fr (fr.put (some f))

namespace IsOperand

lemma leaf (l : Leaf) : IsOperand [.leaf l] (.leaf l) := Extends.leaf l

lemma not {ts : List Token} {f : Formula} (h : IsOperand ts f) : IsOperand (.not :: ts) (.not f) := by
  intro fr
  exact fr.put_negated (some f) ▸ (h ⟨fr.terms, fr.factors, fr.negations + 1⟩).not

lemma group {ts : List Token} {fr : Frame} {f : Formula} (h : Extends ts .empty fr)
    (hf : fr.formula? = some f) : IsOperand (.openGroup :: ts ++ [.closeGroup]) f :=
  fun fr' => hf ▸ h.group fr'

lemma intercalate_and {tss : List (List Token)} {fs : List Formula} (h : List.Forall₂ IsOperand tss fs)
    (hne : fs ≠ []) (fr : Frame) (h0 : fr.negations = 0) :
    Extends ([Token.and].intercalate tss) fr ⟨fr.terms, fr.factors ++ fs, 0⟩ := by
  induction h generalizing fr with
  | nil => exact absurd rfl hne
  | @cons ts f tss fs hf hr ih =>
    have hx := hf fr
    rw [Frame.put_of_negations h0] at hx
    cases hr with
    | nil => simpa using hx
    | @cons us g tss fs hg hr =>
      have hi := ih (by simp) ⟨fr.terms, fr.factors ++ [f], 0⟩ rfl
      have ha := hx.and rfl hi
      simpa [List.intercalate_cons_cons] using ha

lemma intercalate_or {tss : List (List Token)} {fs : List Formula} {f : Formula}
    (h : List.Forall₂ IsOperand tss (fs ++ [f])) (terms : List Formula) :
    Extends ([Token.or].intercalate tss) ⟨terms, [], 0⟩ ⟨terms ++ fs, [f], 0⟩ := by
  induction fs generalizing tss terms with
  | nil =>
    obtain ⟨ts, _, hf, hr, rfl⟩ := List.forall₂_cons_right_iff.mp h
    cases hr
    simpa [Frame.put_of_negations] using hf ⟨terms, [], 0⟩
  | cons g fs ih =>
    obtain ⟨ts, tss, hg, hr, rfl⟩ := List.forall₂_cons_right_iff.mp h
    have hx := hg ⟨terms, [], 0⟩
    rw [Frame.put_of_negations rfl] at hx
    have ho := hx.or (ih hr (terms ++ [g]))
    cases tss with
    | nil => simp at hr
    | cons us tss => simpa [List.intercalate_cons_cons] using ho

end IsOperand

end DocQuery.Formula
