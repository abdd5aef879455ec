import DocQuery.Proofs.Condition.Separation
import Mathlib.Data.List.Forall2
import Mathlib.Data.Nat.Bits

/-! Leaves that do not apply to a row may be taken out of the tokens: the reader then goes through
states of the same verdicts, whatever brackets and connectives are left without an operand. -/

namespace DocQuery

namespace Formula

variable (rs : Results) (row : Row)

namespace Frame

structure Similar (fr fr' : Frame) : Prop where
  terms : Verdict.any (fr.terms.map (eval rs row)) = Verdict.any (fr'.terms.map (eval rs row))
  factors : Verdict.all (fr.factors.map (eval rs row)) = Verdict.all (fr'.factors.map (eval rs row))

variable {rs row} {fr fr' : Frame}

lemma Similar.refl (fr : Frame) : Similar rs row fr fr := ⟨rfl, rfl⟩

lemma Similar.closeTerm (h : Similar rs row fr fr') : Similar rs row fr.closeTerm fr'.closeTerm := by
  refine ⟨?_, rfl⟩
  have ht (gr : Frame) : Verdict.any (gr.closeTerm.terms.map (eval rs row)) =
      Verdict.any [Verdict.any (gr.terms.map (eval rs row)), Verdict.all (gr.factors.map (eval rs row))] := by
    rw [Frame.closeTerm, List.map_append, any_append_toList, verdict?_group_all, Verdict.any_append,
      Verdict.any_singleton]
  rw [ht, ht, h.terms, h.factors]

lemma Similar.formula? (h : Similar rs row fr fr') :
    verdict? rs row fr.formula? = verdict? rs row fr'.formula? := by
  rw [Frame.formula?, Frame.formula?, verdict?_group_any, verdict?_group_any, h.closeTerm.terms]

lemma verdict?_negate (f : Option Formula) (n : Nat) :
    verdict? rs row (f.map (negate n)) = (verdict? rs row f).map (· ^^ n.bodd) := by
  cases f with
  | none => rfl
  | some f =>
    induction n with
    | zero => simp [negate]
    | succ n ih =>
      simp only [Option.map_some, verdict?_some] at ih
      simp only [Option.map_some, verdict?_some, negate, eval_not, ih, Option.map_map]
      congr 1
      funext v
      cases v <;> simp

lemma all_put (fr : Frame) (f : Option Formula) :
    Verdict.all ((fr.put f).factors.map (eval rs row)) =
      Verdict.all [Verdict.all (fr.factors.map (eval rs row)),
        verdict? rs row (f.map (negate fr.negations))] := by
  rw [put, List.map_append, all_append_toList, Verdict.all_append, Verdict.all_singleton]

lemma Similar.put (h : Similar rs row fr fr') (hn : fr.negations = fr'.negations)
    {f g : Option Formula} (hf : verdict? rs row f = verdict? rs row g) :
    Similar rs row (fr.put f) (fr'.put g) := by
  refine ⟨h.terms, ?_⟩
  rw [all_put, all_put, h.factors, hn, verdict?_negate, verdict?_negate, hf]

lemma Similar.put_skipped (h : Similar rs row fr fr') {f : Formula} (hf : eval rs row f = none) :
    Similar rs row (fr.put (some f)) fr' := by
  refine ⟨h.terms, ?_⟩
  rw [all_put, verdict?_negate, verdict?_some, hf, Option.map_none, h.factors]
  refine (Verdict.all_congr fun b => ?_).trans (Verdict.all_singleton _)
  simp

end Frame

namespace Reader

structure Similar (r r' : Reader) : Prop where
  read : Verdict.all (r.read.map (eval rs row)) = Verdict.all (r'.read.map (eval rs row))
  outer : List.Forall₂ (fun fr fr' => fr.Similar rs row fr' ∧ fr.negations = fr'.negations) r.outer r'.outer
  frame : r.frame.Similar rs row r'.frame

variable {rs row} {r r' : Reader}

lemma closeAll_similar {outer outer' : List Frame}
    (h : List.Forall₂ (fun fr fr' => fr.Similar rs row fr' ∧ fr.negations = fr'.negations) outer outer')
    {fr fr' : Frame} (hf : fr.Similar rs row fr') :
    (closeAll fr outer).Similar rs row (closeAll fr' outer') := by
  induction h generalizing fr fr' with
  | nil => exact hf
  | cons hg _ ih => exact ih (hg.1.put hg.2 hf.formula?)

lemma Similar.finish (h : r.Similar rs row r') : r.finish.Similar rs row r'.finish := by
  refine ⟨?_, .nil, Frame.Similar.refl _⟩
  rw [Reader.finish, Reader.finish, List.map_append, List.map_append, all_append_toList,
    all_append_toList, Verdict.all_append, (closeAll_similar h.outer h.frame).formula?, h.read,
    ← Verdict.all_append]

lemma Similar.step_of_not_starts (h : r.Similar rs row r') {t : Token} (ht : t.startsOperand = false) :
    (r.stepOperand t).Similar rs row (r'.stepOperand t) ∧
      (r.stepOperand t).frame.negations = (r'.stepOperand t).frame.negations := by
  obtain ⟨read, outer, frame, after⟩ := r
  obtain ⟨read', outer', frame', after'⟩ := r'
  obtain ⟨hr, ho, hf⟩ := h
  cases t with
  | and => exact ⟨⟨hr, ho, ⟨hf.terms, hf.factors⟩⟩, rfl⟩
  | or => exact ⟨⟨hr, ho, hf.closeTerm⟩, rfl⟩
  | closeGroup =>
    cases ho with
    | nil => exact ⟨Similar.finish ⟨hr, .nil, hf⟩, rfl⟩
    | cons hg ho => exact ⟨⟨hr, ho, hg.1.put hg.2 hf.formula?⟩, rfl⟩
  | leaf | not | openGroup => cases ht

lemma Similar.step (h : r.Similar rs row r') (hn : r.frame.negations = r'.frame.negations) (t : Token) :
    (r.stepOperand t).Similar rs row (r'.stepOperand t) ∧
      (r.stepOperand t).frame.negations = (r'.stepOperand t).frame.negations := by
  cases t with
  | leaf l => exact ⟨⟨h.read, h.outer, h.frame.put hn rfl⟩, rfl⟩
  | not => exact ⟨⟨h.read, h.outer, ⟨h.frame.terms, h.frame.factors⟩⟩, congrArg (· + 1) hn⟩
  | openGroup => exact ⟨⟨h.read, .cons ⟨h.frame, hn⟩ h.outer, Frame.Similar.refl _⟩, rfl⟩
  | and | or | closeGroup => exact h.step_of_not_starts rfl

lemma Similar.step_skipped (h : r.Similar rs row r') {l : Leaf} (hl : l.test.eval rs row = none) :
    (r.stepOperand (.leaf l)).Similar rs row r' :=
  ⟨h.read, h.outer, h.frame.put_skipped (f := .leaf l) ((eval_leaf rs row l).trans hl)⟩

lemma Similar.foldl {ts : List Token} (hts : Separated ts) (h : r.Similar rs row r')
    (hn : r.frame.negations = r'.frame.negations ∨ ∀ t ∈ ts.head?, t.startsOperand = false) :
    (ts.foldl stepOperand r).Similar rs row
      ((ts.filter (Token.applies rs row)).foldl stepOperand r') := by
  -- A leaf that is taken out leaves its negations waiting; no operand follows that could take them.
  induction ts generalizing r r' with
  | nil => exact h
  | cons t ts ih =>
    obtain ⟨ha, htl⟩ := List.isChain_cons.mp hts
    rw [List.foldl_cons, List.filter_cons]
    split
    · rw [List.foldl_cons]
      have hs : (r.stepOperand t).Similar rs row (r'.stepOperand t) ∧
          (r.stepOperand t).frame.negations = (r'.stepOperand t).frame.negations := by
        rcases hn with hn | hn
        · exact h.step hn t
        · exact h.step_of_not_starts (hn t rfl)
      exact ih htl hs.1 (Or.inl hs.2)
    · rename_i hk
      cases t with
      | leaf l =>
        have hl : l.test.eval rs row = none := by simpa [Token.applies] using hk
        exact ih htl (h.step_skipped hl) (Or.inr fun u hu => ha u hu rfl)
      | _ => simp [Token.applies] at hk

end Reader

variable {rs row}

lemma verdict?_filter_applies {ts : List Token} (h : Separated ts) :
    verdict? rs row (ofTokens? ts) = verdict? rs row (ofTokens? (ts.filter (Token.applies rs row))) := by
  have hs : (ts.foldl Reader.step .start).Similar rs row
      ((ts.filter (Token.applies rs row)).foldl Reader.step .start) := by
    rw [Reader.foldl_step h _ (fun he => by cases he),
      Reader.foldl_step (h.filter_applies rs row) _ (fun he => by cases he)]
    exact Reader.Similar.foldl h ⟨rfl, .nil, Frame.Similar.refl _⟩ (Or.inl rfl)
  rw [ofTokens?, ofTokens?, verdict?_group_all, verdict?_group_all, hs.finish.read]

def Frame.Blank (fr : Frame) : Prop := fr.terms = [] ∧ fr.factors = []

namespace Reader

structure Blank (r : Reader) : Prop where
  read : r.read = []
  outer : ∀ fr ∈ r.outer, fr.Blank
  frame : r.frame.Blank

lemma closeAll_blank {outer : List Frame} (ho : ∀ fr ∈ outer, fr.Blank) {fr : Frame} (hf : fr.Blank) :
    (closeAll fr outer).Blank := by
  induction outer generalizing fr with
  | nil => exact hf
  | cons gr outer ih =>
    obtain ⟨ht, hg⟩ := ho gr (by simp)
    refine ih (fun fr hm => ho fr (List.mem_cons_of_mem _ hm)) ⟨ht, ?_⟩
    have hn : fr.formula? = none := by
      rw [Frame.formula?, Frame.closeTerm, hf.1, hf.2]
      rfl
    rw [hn, Frame.put, hg]
    rfl

lemma Blank.finish {r : Reader} (h : r.Blank) : r.finish.Blank := by
  refine ⟨?_, by simp [Reader.finish], rfl, rfl⟩
  obtain ⟨ht, hf⟩ := closeAll_blank h.outer h.frame
  rw [Reader.finish, h.read, Frame.formula?, Frame.closeTerm, ht, hf]
  rfl

lemma Blank.step {r : Reader} (h : r.Blank) {t : Token} (ht : ∀ l, t ≠ .leaf l) :
    (r.stepOperand t).Blank := by
  cases t with
  | leaf l => exact absurd rfl (ht l)
  | not => exact ⟨h.read, h.outer, h.frame⟩
  | and => exact ⟨h.read, h.outer, h.frame⟩
  | or =>
    refine ⟨h.read, h.outer, ?_, rfl⟩
    show (r.frame.closeTerm).terms = []
    rw [Frame.closeTerm, h.frame.1, h.frame.2]
    rfl
  | openGroup =>
    refine ⟨h.read, ?_, rfl, rfl⟩
    intro fr hm
    rcases List.mem_cons.mp hm with rfl | hm
    · exact h.frame
    · exact h.outer fr hm
  | closeGroup =>
    obtain ⟨read, outer, frame, after⟩ := r
    cases outer with
    | nil => exact h.finish
    | cons gr outer =>
      have hc := @closeAll_blank [gr] (fun fr hm => h.outer fr (by simp_all)) _ h.frame
      exact ⟨h.read, fun fr hm => h.outer fr (List.mem_cons_of_mem _ hm), hc⟩

end Reader

lemma ofTokens?_eq_none {ts : List Token} (hs : Separated ts) (h : ∀ t ∈ ts, ∀ l, t ≠ .leaf l) :
    ofTokens? ts = none := by
  have hb : (ts.foldl Reader.stepOperand .start).Blank := by
    refine List.foldlRecOn ts Reader.stepOperand ⟨rfl, by simp [Reader.start], rfl, rfl⟩ ?_
    exact fun r hr t hm => hr.step (h t hm)
  rw [ofTokens?, Reader.foldl_step hs _ (fun he => by cases he), hb.finish.read]
  rfl

end Formula

namespace Conditions

def applicable (rs : Results) (row : Row) (c : Conditions) : Conditions :=
  ⟨c.tokens.filter (Token.applies rs row)⟩

theorem verdict_applicable {c : Conditions} (h : c.Built) (rs : Results) (row : Row) :
    c.verdict rs row = (c.applicable rs row).verdict rs row ∧
      ((∀ l, Token.leaf l ∈ c.tokens → l.test.eval rs row = none) → c.test rs row = true) := by
  have hv : c.verdict rs row = (c.applicable rs row).verdict rs row :=
    Formula.verdict?_filter_applies h.separated
  refine ⟨hv, fun hl => ?_⟩
  have hn : (c.applicable rs row).formula? = none := by
    refine Formula.ofTokens?_eq_none (h.separated.filter_applies rs row) fun t hm l he => ?_
    obtain ⟨hm, ha⟩ := List.mem_filter.mp hm
    subst he
    simp [Token.applies, hl l hm] at ha
  rw [test, hv, verdict, hn]
  rfl

theorem verdict_applicable_dangling :
    test [] ⟨[.or, .openGroup, .not, .leaf ⟨"", .null (.ofTable (.named "orders") "total")⟩, .and]⟩
      (.ofValue (.named "users") "u1" .null) = true ∧
    verdict [] ⟨[.or, .openGroup, .not, .leaf ⟨"", .null (.ofTable (.named "orders") "total")⟩, .and,
      .closeGroup, .leaf ⟨"", .null (.named "age")⟩]⟩ (.ofValue (.named "users") "u1" .null) = some true := by
  have hb : Built ⟨[.or, .openGroup, .not, .leaf ⟨"", .null (.ofTable (.named "orders") "total")⟩, .and]⟩ :=
    ((((Built.empty.token .or).token .openGroup).token .not).token (.leaf _)).token .and
  constructor
  · refine (verdict_applicable hb [] _).2 fun l hl => ?_
    obtain rfl : l = ⟨"", .null (.ofTable (.named "orders") "total")⟩ := by simpa using hl
    rfl
  · have h := (verdict_applicable ((hb.token .closeGroup).token (.leaf ⟨"", .null (.named "age")⟩)) []
      (.ofValue (.named "users") "u1" .null)).1
    exact h.trans rfl

end Conditions

end DocQuery
