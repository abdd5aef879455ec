import DocQuery.Proofs.Condition.Separation
import Mathlib.Algebra.GroupWithZero.Nat

/-! How deep the tokens of conditions are nested in open brackets and in negations that wait for an operand. The reader
keeps as many on its stack, and the formula that it reads is about twice as deep at most. -/

namespace DocQuery

/-- The negations that wait before each open bracket, the innermost first, and those that wait inside of it. -/
structure Nesting where
  outer : List Nat
  negations : Nat

def Token.weight : Token → Nat
  | not | openGroup => 1
  | _ => 0

namespace Nesting

def start : Nesting := ⟨[], 0⟩

def depth (n : Nesting) : Nat := n.outer.length + n.outer.sum + n.negations

def step (n : Nesting) : Token → Nesting
  | .not => ⟨n.outer, n.negations + 1⟩
  | .openGroup => ⟨n.negations :: n.outer, 0⟩
  | .closeGroup => ⟨n.outer.tail, 0⟩
  | _ => ⟨n.outer, 0⟩

def after (n : Nesting) (ts : List Token) : Nesting := ts.foldl step n

def Within (d : Nat) : Nesting → List Token → Prop
  | n, [] => n.depth ≤ d
  | n, t :: ts => n.depth ≤ d ∧ Within d (n.step t) ts

section

variable {d d' : Nat} {n : Nesting} {t : Token} {ts us : List Token}

lemma Within.depth_le (h : Within d n ts) : n.depth ≤ d := by
  cases ts with
  | nil => exact h
  | cons t ts => exact h.1

lemma within_append : Within d n (ts ++ us) ↔ Within d n ts ∧ Within d (n.after ts) us := by
  induction ts generalizing n with
  | nil => exact ⟨fun h => ⟨h.depth_le, h⟩, fun h => h.2⟩
  | cons t ts ih =>
    rw [List.cons_append, Within, Within, ih, and_assoc]
    rfl

lemma Within.mono (h : Within d n ts) (hd : d ≤ d') : Within d' n ts := by
  induction ts generalizing n with
  | nil => exact Nat.le_trans h hd
  | cons t ts ih => exact ⟨Nat.le_trans h.1 hd, ih h.2⟩

lemma Within.depth_after_le (h : Within d n (ts ++ us)) : (n.after ts).depth ≤ d := (within_append.mp h).2.depth_le

lemma after_append : n.after (ts ++ us) = (n.after ts).after us := List.foldl_append ..

def rest (n : Nesting) : Nesting := ⟨n.outer, 0⟩

lemma depth_rest_le (n : Nesting) : n.rest.depth ≤ n.depth := by
  simp only [rest, depth]
  omega

lemma step_ofConnective (n : Nesting) (connective : Connective) : n.step (.ofConnective connective) = n.rest := by
  cases connective <;> rfl

lemma depth_opened (n : Nesting) : (n.step .openGroup).depth = n.depth + 1 := by
  simp only [step, depth, List.length_cons, List.sum_cons]
  omega

lemma depth_negated (n : Nesting) : (n.step .not).depth = n.depth + 1 := rfl

lemma depth_step_le (n : Nesting) (t : Token) : (n.step t).depth ≤ n.depth + t.weight := by
  cases t with
  | not => exact Nat.le_refl _
  | openGroup => exact Nat.le_of_eq (depth_opened n)
  | leaf | and | or => exact depth_rest_le n
  | closeGroup =>
    obtain ⟨outer, negations⟩ := n
    cases outer with
    | nil => exact Nat.zero_le _
    | cons waiting outer =>
      simp only [step, depth, List.tail_cons, List.length_cons, List.sum_cons]
      omega

end

end Nesting

namespace Expression

open Nesting

variable {d : Nat} {n : Nesting}

def Operates (d : Nat) (n : Nesting) (ts : List Token) : Prop := Within d n ts ∧ (ts ≠ [] → n.after ts = n.rest)

lemma operates_intercalate (connective : Connective) (hn : n.rest = n) {tss : List (List Token)}
    (h : ∀ ts ∈ tss, Within d n ts ∧ n.after ts = n) (hne : tss ≠ []) :
    Within d n ([Token.ofConnective connective].intercalate tss) ∧
      n.after ([Token.ofConnective connective].intercalate tss) = n := by
  induction tss with
  | nil => exact absurd rfl hne
  | cons ts tss ih =>
    obtain ⟨hts, hafter⟩ := h ts List.mem_cons_self
    cases tss with
    | nil => simpa using ⟨hts, hafter⟩
    | cons us tss =>
      obtain ⟨hrest, hend⟩ := ih (fun ts hm => h ts (List.mem_cons_of_mem _ hm)) (List.cons_ne_nil _ _)
      have hstep : n.step (.ofConnective connective) = n := (step_ofConnective n connective).trans hn
      have hconnective : Within d n [.ofConnective connective] := ⟨hts.depth_le, hstep.symm ▸ hts.depth_le⟩
      have hjoined : n.after (ts ++ [.ofConnective connective]) = n := by
        rw [after_append, hafter]
        exact hstep
      rw [List.intercalate_cons_cons]
      refine ⟨within_append.mpr ⟨within_append.mpr ⟨hts, ?_⟩, ?_⟩, ?_⟩
      · rwa [hafter]
      · rwa [hjoined]
      · rw [after_append, hjoined, hend]

lemma operates_group (connective : Connective) {tss : List (List Token)}
    (h : ∀ ts ∈ tss, Operates d (n.step .openGroup) ts) (hn : n.depth ≤ d) :
    Operates d n (group connective tss) := by
  rw [group]
  split
  · exact ⟨hn, fun hne => absurd rfl hne⟩
  · next hne =>
    have hitems : ∀ ts ∈ tss.filter (!·.isEmpty),
        Within d (n.step .openGroup) ts ∧ (n.step .openGroup).after ts = n.step .openGroup := by
      intro ts hm
      obtain ⟨hts, hnil⟩ := List.mem_filter.mp hm
      exact ⟨(h ts hts).1, (h ts hts).2 (by simpa using hnil)⟩
    obtain ⟨hwithin, hafter⟩ := operates_intercalate connective rfl hitems hne
    rw [Operates, List.cons_append, Within, within_append]
    have hend : n.after (.openGroup :: ([Token.ofConnective connective].intercalate (tss.filter (!·.isEmpty)) ++
        [.closeGroup])) = n.rest := by
      rw [after, List.foldl_cons, ← after, after_append, hafter]
      rfl
    refine ⟨⟨hn, hwithin, ?_⟩, fun _ => hend⟩
    rw [hafter]
    exact ⟨hwithin.depth_le, Nat.le_trans (depth_rest_le n) hn⟩

lemma depth_le_of_tokens {made : Results} {e : Expression} {depth : Nat} {ts : List Token}
    (h : e.tokens made depth = .ok ts) : depth ≤ maxNesting := by
  rw [tokens.eq_def] at h
  split at h
  · cases h
  · next hd => exact Nat.le_of_not_lt hd

mutual

lemma operates_tokens {made : Results} {e : Expression} {depth : Nat} {ts : List Token}
    (h : e.tokens made depth = .ok ts) {n : Nesting} (hn : n.depth + maxNesting ≤ d + depth) : Operates d n ts := by
  have hdepth := depth_le_of_tokens h
  have hd : n.depth ≤ d := by omega
  cases e with
  | comparison keyword column operands =>
    obtain ⟨test, -, rfl⟩ := tokens_comparison h
    exact ⟨⟨hd, Nat.le_trans (depth_rest_le n) hd⟩, fun _ => rfl⟩
  | scope connective items =>
    obtain ⟨tss, hi, rfl⟩ := tokens_scope h
    refine operates_group connective (operates_tokensOfAll hi ?_) hd
    rw [depth_opened]
    omega
  | negation item =>
    obtain ⟨us, hi, rfl⟩ := tokens_negation h
    have hus : Operates d (n.step .not) us := operates_tokens hi (by rw [depth_negated]; omega)
    split
    · exact ⟨hd, fun hne => absurd rfl hne⟩
    · next hne =>
      have hnil : us ≠ [] := by simpa using hne
      exact ⟨⟨hd, hus.1⟩, fun _ => hus.2 hnil⟩

lemma operates_tokensOfAll {made : Results} {es : List Expression} {depth : Nat} {tss : List (List Token)}
    (h : tokensOfAll made depth es = .ok tss) {n : Nesting} (hn : n.depth + maxNesting ≤ d + depth) :
    ∀ ts ∈ tss, Operates d n ts := by
  cases es with
  | nil =>
    cases h
    exact fun ts hm => absurd hm List.not_mem_nil
  | cons e es =>
    obtain ⟨us, rest, hu, hr, rfl⟩ := tokensOfAll_cons h
    intro ts hm
    rcases List.mem_cons.mp hm with rfl | hm
    · exact operates_tokens hu hn
    · exact operates_tokensOfAll hr hn ts hm

end

end Expression

namespace Conditions

open Nesting

def Nested (k : Nat) (c : Conditions) : Prop :=
  (Nesting.start.after c.tokens).depth ≤ k ∧ Within (maxNesting + k) Nesting.start c.tokens

variable {k k' : Nat} {c c' : Conditions}

lemma Nested.empty : Nested 0 .empty := ⟨Nat.le_refl 0, Nat.zero_le _⟩

lemma Nested.mono (h : Nested k c) (hk : k ≤ k') : Nested k' c :=
  ⟨Nat.le_trans h.1 hk, h.2.mono (Nat.add_le_add_left hk _)⟩

def Deepens (k k' : Nat) (ts : List Token) : Prop :=
  ∀ n : Nesting, n.depth ≤ k → (n.after ts).depth ≤ k' ∧ Within (maxNesting + k') n ts

lemma Nested.concat (h : Nested k c) (hk : k ≤ k') {ts : List Token} (hts : Deepens k k' ts) :
    Nested k' ⟨c.tokens ++ ts⟩ := by
  rw [Nested, after_append, within_append]
  exact ⟨(hts _ h.1).1, (h.mono hk).2, (hts _ h.1).2⟩

lemma deepens_and : Deepens k k [.and] := by
  intro n hn
  have hrest : n.rest.depth ≤ k := Nat.le_trans (depth_rest_le n) hn
  exact ⟨hrest, Nat.le_trans hn (Nat.le_add_left k maxNesting), Nat.le_trans hrest (Nat.le_add_left k maxNesting)⟩

lemma Nested.append (h : Nested k c) (hk : k ≤ k') {ts : List Token} (hts : Deepens k k' ts) :
    Nested k' (c.append ts) := by
  rw [Conditions.append]
  split
  · exact (h.concat (Nat.le_refl k) deepens_and).concat hk hts
  · rw [List.append_nil]
    exact h.concat hk hts

lemma deepens_token (t : Token) : Deepens k (k + t.weight) [t] := by
  intro n hn
  have hstep : (n.step t).depth ≤ k + t.weight := Nat.le_trans (depth_step_le n t) (Nat.add_le_add_right hn _)
  have hbefore : n.depth ≤ maxNesting + (k + t.weight) := by omega
  have hafter : (n.step t).depth ≤ maxNesting + (k + t.weight) := by omega
  exact ⟨hstep, hbefore, hafter⟩

lemma Nested.pushToken (h : Nested k c) (t : Token) : Nested (k + t.weight) (c.pushToken t) :=
  h.append (Nat.le_add_right k _) (deepens_token t)

lemma Nested.push (h : Nested k c) {made : Results} {e : Expression} (hp : c.push made e = .ok c') :
    Nested k c' := by
  obtain ⟨ts, hts, rfl⟩ := push_eq_ok hp
  refine h.append (Nat.le_refl k) fun n hn => ?_
  obtain ⟨hwithin, hend⟩ : Expression.Operates (maxNesting + k) n ts := Expression.operates_tokens hts (by omega)
  refine ⟨?_, hwithin⟩
  by_cases hnil : ts = []
  · rw [hnil]
    exact hn
  · rw [hend hnil]
    exact Nat.le_trans (depth_rest_le n) hn

end Conditions

namespace Formula

mutual

def depth : Formula → Nat
  | leaf _ => 0
  | all items | any items => depthOfAll items + 1
  | not item => depth item + 1

def depthOfAll : List Formula → Nat
  | [] => 0
  | f :: fs => max (depth f) (depthOfAll fs)

end

lemma depthOfAll_le {d : Nat} {fs : List Formula} : depthOfAll fs ≤ d ↔ ∀ f ∈ fs, f.depth ≤ d := by
  induction fs with
  | nil => simp [depthOfAll]
  | cons f fs ih => rw [depthOfAll, Nat.max_le, ih, List.forall_mem_cons]

lemma depth_group {wrap : List Formula → Formula} (hw : ∀ fs, (wrap fs).depth = depthOfAll fs + 1) {d : Nat}
    {fs : List Formula} (h : ∀ f ∈ fs, f.depth ≤ d) : ∀ f ∈ group wrap fs, f.depth ≤ d + 1 := by
  intro f hf
  match fs, hf with
  | [g], hf =>
    cases hf
    exact Nat.le_succ_of_le (h _ List.mem_cons_self)
  | g :: g' :: fs, hf =>
    cases hf
    rw [hw]
    exact Nat.succ_le_succ (depthOfAll_le.mpr h)

lemma depth_negate (k : Nat) (f : Formula) : (Frame.negate k f).depth = f.depth + k := by
  induction k with
  | zero => rfl
  | succ k ih => rw [Frame.negate, depth, ih, Nat.add_assoc]

structure Frame.Shallow (d : Nat) (fr : Frame) : Prop where
  factors : ∀ f ∈ fr.factors, f.depth ≤ d
  terms : ∀ f ∈ fr.terms, f.depth ≤ d + 1

namespace Frame.Shallow

variable {d : Nat} {fr : Frame}

lemma empty : Shallow d .empty := ⟨fun _ hf => absurd hf List.not_mem_nil, fun _ hf => absurd hf List.not_mem_nil⟩

lemma put (h : fr.Shallow d) {f : Option Formula} (hf : ∀ g ∈ f, g.depth + fr.negations ≤ d) :
    (fr.put f).Shallow d := by
  refine ⟨fun g hg => ?_, h.terms⟩
  rcases List.mem_append.mp hg with hg | hg
  · exact h.factors g hg
  · obtain ⟨g', hg', rfl⟩ := Option.map_eq_some_iff.mp (Option.mem_toList.mp hg)
    rw [depth_negate]
    exact hf g' hg'

lemma closeTerm (h : fr.Shallow d) : fr.closeTerm.Shallow d := by
  refine ⟨fun f hf => absurd hf List.not_mem_nil, fun f hf => ?_⟩
  rcases List.mem_append.mp hf with hf | hf
  · exact h.terms f hf
  · exact depth_group (fun _ => by rw [depth]) h.factors f (Option.mem_toList.mp hf)

lemma formula? (h : fr.Shallow d) : ∀ f ∈ fr.formula?, f.depth ≤ d + 2 :=
  depth_group (fun _ => by rw [depth]) h.closeTerm.terms

end Frame.Shallow

namespace Reader

def nesting (r : Reader) : Nesting := ⟨r.outer.map Frame.negations, r.frame.negations⟩

lemma nesting_stepOperand (r : Reader) (t : Token) : (r.stepOperand t).nesting = r.nesting.step t := by
  obtain ⟨read, outer, frame, afterOperand⟩ := r
  cases t with
  | closeGroup => cases outer <;> rfl
  | _ => rfl

def level (outer : List Frame) : Nat := Nesting.depth ⟨outer.map Frame.negations, 0⟩

lemma level_cons (fr : Frame) (outer : List Frame) : level (fr :: outer) = level outer + fr.negations + 1 := by
  simp only [level, Nesting.depth, List.map_cons, List.length_cons, List.sum_cons]
  omega

lemma depth_nesting (r : Reader) : r.nesting.depth = level r.outer + r.frame.negations := rfl

def Fits (d : Nat) (fr : Frame) : List Frame → Prop
  | [] => fr.Shallow (2 * (d - level []))
  | outer :: rest => fr.Shallow (2 * (d - level (outer :: rest))) ∧ Fits d outer rest

section Fits

variable {d : Nat} {fr fr' : Frame} {outer : List Frame} {r : Reader}

lemma Fits.shallow (h : Fits d fr outer) : fr.Shallow (2 * (d - level outer)) := by
  cases outer with
  | nil => exact h
  | cons o rest => exact h.1

lemma Fits.replace (h : Fits d fr outer) (hs : fr'.Shallow (2 * (d - level outer))) : Fits d fr' outer := by
  cases outer with
  | nil => exact hs
  | cons o rest => exact ⟨hs, h.2⟩

lemma Fits.close {o : Frame} (h : Fits d fr (o :: outer)) (hd : level (o :: outer) ≤ d) :
    Fits d (o.put fr.formula?) outer := by
  refine h.2.replace (h.2.shallow.put fun f hf => ?_)
  have hf := h.1.formula? f hf
  rw [level_cons] at hd hf
  omega

lemma Fits.closeAll (h : Fits d fr outer) (hd : level outer ≤ d) : (closeAll fr outer).Shallow (2 * d) := by
  induction outer generalizing fr with
  | nil => exact h
  | cons o rest ih =>
    have hrest : level rest ≤ d := by
      rw [level_cons] at hd
      omega
    exact ih (h.close hd) hrest

structure Sound (d : Nat) (r : Reader) : Prop where
  read : ∀ f ∈ r.read, f.depth ≤ 2 * d + 2
  fits : Fits d r.frame r.outer

lemma Sound.finish (h : r.Sound d) (hd : r.nesting.depth ≤ d) : r.finish.Sound d where
  read f hf := by
    rcases List.mem_append.mp hf with hf | hf
    · exact h.read f hf
    · rw [depth_nesting] at hd
      exact (h.fits.closeAll (by omega)).formula? f (Option.mem_toList.mp hf)
  fits := .empty

lemma Sound.stepOperand (h : r.Sound d) (hd : r.nesting.depth ≤ d) (t : Token) : (r.stepOperand t).Sound d := by
  rw [depth_nesting] at hd
  have hshallow := h.fits.shallow
  cases t with
  | leaf l =>
    refine ⟨h.read, h.fits.replace (hshallow.put fun f hf => ?_)⟩
    cases hf
    rw [depth]
    omega
  | not | and => exact ⟨h.read, h.fits.replace ⟨hshallow.factors, hshallow.terms⟩⟩
  | or => exact ⟨h.read, h.fits.replace hshallow.closeTerm⟩
  | openGroup => exact ⟨h.read, .empty, h.fits⟩
  | closeGroup =>
    obtain ⟨read, outer, frame, afterOperand⟩ := r
    cases outer with
    | nil => exact h.finish hd
    | cons o rest => exact ⟨h.read, h.fits.close (Nat.le_of_add_right_le hd)⟩

lemma Sound.foldl {ts : List Token} (h : r.Sound d) (hw : Nesting.Within d r.nesting ts) :
    (ts.foldl Reader.stepOperand r).Sound d ∧ (ts.foldl Reader.stepOperand r).nesting = r.nesting.after ts := by
  induction ts generalizing r with
  | nil => exact ⟨h, rfl⟩
  | cons t ts ih =>
    rw [Nesting.Within, ← nesting_stepOperand] at hw
    obtain ⟨hsound, hnesting⟩ := ih (h.stepOperand hw.1 t) hw.2
    exact ⟨hsound, hnesting.trans (congrArg (Nesting.after · ts) (nesting_stepOperand r t))⟩

end Fits

end Reader

lemma sound_of_tokens {d : Nat} {ts : List Token} (hs : Separated ts) (hw : Nesting.Within d .start ts) :
    (ts.foldl Reader.step .start).Sound d ∧ (ts.foldl Reader.step .start).nesting = Nesting.start.after ts := by
  rw [Reader.foldl_step hs .start nofun]
  exact Reader.Sound.foldl ⟨fun f hf => absurd hf List.not_mem_nil, .empty⟩ hw

lemma depth_ofTokens? {d : Nat} {ts : List Token} (hs : Separated ts) (hw : Nesting.Within d .start ts) :
    ∀ f ∈ ofTokens? ts, f.depth ≤ 2 * d + 3 := by
  obtain ⟨hsound, hnesting⟩ := sound_of_tokens hs hw
  have hwhole : Nesting.Within d .start (ts ++ []) := by rwa [List.append_nil]
  have hdepth : (ts.foldl Reader.step .start).nesting.depth ≤ d := by
    rw [hnesting]
    exact hwhole.depth_after_le
  exact depth_group (fun _ => by rw [depth]) (hsound.finish hdepth).read

end Formula

end DocQuery
