import DocQuery.Proofs.Condition.LeafOrder
import DocQuery.Proofs.Condition.Reading

/-! Reading tokens by descent: a formula is a list of alternatives, an alternative a list of operands, and an operand
in brackets a formula again. Whatever the tokens are, a call leaves no more of them than it was given, and so the
descent ends. It reads what the reader with its stack of frames reads. -/

namespace DocQuery.Formula

namespace Descent

abbrev Rest (ts : List Token) := { rest : List Token // rest.length ≤ ts.length }

namespace Rest

variable {ts us : List Token}

def within (rest : Rest us) (h : us.length ≤ ts.length) : Rest ts := ⟨rest.1, Nat.le_trans rest.2 h⟩

lemma length_lt {t : Token} {rest : Rest ts} (h : rest.1 = t :: us) : us.length < ts.length := by
  have hr := rest.2
  rw [h] at hr
  exact hr

end Rest

def close (ts : List Token) : Rest ts :=
  match ts with
  | .closeGroup :: ts => ⟨ts, Nat.le_succ _⟩
  | ts => ⟨ts, Nat.le_refl _⟩

mutual

def operand (ts : List Token) : Option Formula × Rest ts :=
  match ts with
  | .leaf l :: ts => (some (.leaf l), ⟨ts, Nat.le_succ _⟩)
  | .not :: ts => ((operand ts).1.map .not, (operand ts).2.within (Nat.le_succ _))
  | .openGroup :: ts => ((formula ts).1, (close (formula ts).2.1).within (Nat.le_succ_of_le (formula ts).2.2))
  | ts => (none, ⟨ts, Nat.le_refl _⟩)
termination_by (ts.length, 0)

def factors (ts : List Token) : List Formula × Rest ts :=
  match h : (operand ts).2.1 with
  | .and :: us =>
    have hus : us.length < ts.length := Rest.length_lt h
    ((operand ts).1.toList ++ (factors us).1, (factors us).2.within (Nat.le_of_lt hus))
  | _ => ((operand ts).1.toList, (operand ts).2)
termination_by (ts.length, 1)

def terms (ts : List Token) : List Formula × Rest ts :=
  match h : (factors ts).2.1 with
  | .or :: us =>
    have hus : us.length < ts.length := Rest.length_lt h
    ((group .all (factors ts).1).toList ++ (terms us).1, (terms us).2.within (Nat.le_of_lt hus))
  | _ => ((group .all (factors ts).1).toList, (factors ts).2)
termination_by (ts.length, 2)

def formula (ts : List Token) : Option Formula × Rest ts := (group .any (terms ts).1, (terms ts).2)
termination_by (ts.length, 3)

end

def formulas : List Token → List Formula
  | [] => []
  | .closeGroup :: ts => formulas ts
  | t :: ts =>
    let rest := (formula (t :: ts)).2.1
    (formula (t :: ts)).1.toList ++ if rest.length < (t :: ts).length then formulas rest else formulas ts
termination_by ts => ts.length
decreasing_by
  · exact Nat.lt_succ_self _
  · assumption
  · exact Nat.lt_succ_self _

section Equations

variable {ts us : List Token}

lemma operand_missing (h : ∀ t ∈ ts.head?, t.startsOperand = false) :
    operand ts = (none, ⟨ts, Nat.le_refl _⟩) := by
  cases ts with
  | nil => rw [operand] <;> simp
  | cons t ts =>
    cases t with
    | leaf | not | openGroup => cases h _ rfl
    | and | or | closeGroup => rw [operand] <;> simp

lemma factors_and (h : (operand ts).2.1 = .and :: us) :
    (factors ts).1 = (operand ts).1.toList ++ (factors us).1 ∧ (factors ts).2.1 = (factors us).2.1 := by
  rw [factors]
  split
  · next vs hvs =>
    cases h.symm.trans hvs
    exact ⟨rfl, rfl⟩
  · next hne => exact absurd h (hne us)

lemma factors_last (h : ∀ t ∈ (operand ts).2.1.head?, t ≠ .and) :
    factors ts = ((operand ts).1.toList, (operand ts).2) := by
  rw [factors]
  split
  · next us hus => exact absurd rfl (h .and (by rw [hus]; rfl))
  · rfl

lemma terms_or (h : (factors ts).2.1 = .or :: us) :
    (terms ts).1 = (group .all (factors ts).1).toList ++ (terms us).1 ∧ (terms ts).2.1 = (terms us).2.1 := by
  rw [terms]
  split
  · next vs hvs =>
    cases h.symm.trans hvs
    exact ⟨rfl, rfl⟩
  · next hne => exact absurd h (hne us)

lemma terms_last (h : ∀ t ∈ (factors ts).2.1.head?, t ≠ .or) :
    terms ts = ((group .all (factors ts).1).toList, (factors ts).2) := by
  rw [terms]
  split
  · next us hus => exact absurd rfl (h .or (by rw [hus]; rfl))
  · rfl

end Equations

lemma eq_cons_or (ts : List Token) (t : Token) : (∃ us, ts = t :: us) ∨ ∀ u ∈ ts.head?, u ≠ t := by
  cases ts with
  | nil => exact .inr (by simp)
  | cons u us =>
    by_cases h : u = t
    · exact .inl ⟨us, by rw [h]⟩
    · exact .inr (by simpa using h)

end Descent

def descend (ts : List Token) : Option Formula := group .all (Descent.formulas ts)

namespace Reader

def readOn (r : Reader) (ts : List Token) : List Formula := (ts.foldl step r).finish.read

lemma readOn_cons (r : Reader) (t : Token) (ts : List Token) : r.readOn (t :: ts) = (r.step t).readOn ts := rfl

lemma readOn_missing (read : List Formula) (outer : List Frame) (fr : Frame) {ts : List Token}
    (h : ∀ t ∈ ts.head?, t.startsOperand = false) :
    readOn ⟨read, outer, fr, false⟩ ts = readOn ⟨read, outer, fr.put none, true⟩ ts := by
  have hput : fr.put none = { fr with negations := 0 } := by simp [Frame.put]
  have hformula : (fr.put none).formula? = fr.formula? := by
    rw [hput]
    rfl
  have hclose : (closeAll (fr.put none) outer).formula? = (closeAll fr outer).formula? := by
    cases outer with
    | nil => exact hformula
    | cons fr' outer => rw [closeAll, closeAll, hformula]
  cases ts with
  | nil => simp only [readOn, List.foldl_nil, finish, hclose]
  | cons t ts =>
    rw [readOn_cons, readOn_cons]
    congr 1
    cases t with
    | leaf | not | openGroup => cases h _ rfl
    | and =>
      rw [hput]
      rfl
    | or =>
      rw [hput]
      rfl
    | closeGroup =>
      cases outer with
      | nil => simp [step, stepOperand, finish, hclose, Token.startsOperand]
      | cons fr' outer => simp [step, stepOperand, hformula, Token.startsOperand, put]

lemma readOn_finish {r : Reader} (hr : r.afterOperand = true) {ts : List Token}
    (h : ∀ t ∈ ts.head?, t.startsOperand = true) : r.readOn ts = r.finish.readOn ts := by
  cases ts with
  | nil => exact (List.append_nil _).symm
  | cons t ts =>
    have ht : t.startsOperand = true := h t rfl
    rw [readOn_cons, readOn_cons, step, hr, ht]
    rfl

end Reader

namespace Descent

open Reader

def Ends (ts : List Token) : Prop := ∀ t ∈ ts.head?, t ≠ .and ∧ t ≠ .or

lemma Ends.cases {ts : List Token} (h : Ends ts) :
    (∃ us, ts = .closeGroup :: us) ∨ ∀ t ∈ ts.head?, t.startsOperand = true := by
  cases ts with
  | nil => exact .inr (by simp)
  | cons t ts =>
    obtain ⟨hand, hor⟩ := h t rfl
    cases t with
    | closeGroup => exact .inl ⟨ts, rfl⟩
    | and => exact absurd rfl hand
    | or => exact absurd rfl hor
    | leaf | not | openGroup => exact .inr (by simp [Token.startsOperand])

lemma close_of_starts {ts : List Token} (h : ∀ t ∈ ts.head?, t.startsOperand = true) :
    close ts = ⟨ts, Nat.le_refl _⟩ := by
  cases ts with
  | nil => rfl
  | cons t ts =>
    cases t with
    | closeGroup => cases h _ rfl
    | _ => rfl

lemma readOn_close (read : List Formula) (outer : List Frame) (fr g : Frame) {ts : List Token} (h : Ends ts) :
    readOn ⟨read, fr :: outer, g, true⟩ ts = readOn ⟨read, outer, fr.put g.formula?, true⟩ (close ts).1 := by
  rcases h.cases with ⟨us, rfl⟩ | hs
  · rfl
  · have hfinish : finish ⟨read, fr :: outer, g, true⟩ = finish ⟨read, outer, fr.put g.formula?, true⟩ := rfl
    rw [readOn_finish rfl hs, hfinish, close_of_starts hs]
    exact (readOn_finish rfl hs).symm

lemma readOn_ended (read : List Formula) (g : Frame) {ts : List Token} (h : Ends ts) :
    readOn ⟨read, [], g, true⟩ ts = readOn ⟨read ++ g.formula?.toList, [], .empty, false⟩ ts := by
  rcases h.cases with ⟨us, rfl⟩ | hs
  · exact congrArg (fun read => readOn ⟨read, [], .empty, false⟩ us) (List.append_nil _).symm
  · exact readOn_finish rfl hs

mutual

lemma readOn_operand (ts : List Token) (read : List Formula) (outer : List Frame) (fr : Frame) :
    readOn ⟨read, outer, fr, false⟩ ts =
      readOn ⟨read, outer, fr.put (operand ts).1, true⟩ (operand ts).2.1 := by
  match ts with
  | .leaf l :: ts =>
    rw [operand]
    rfl
  | .not :: ts =>
    have ih := readOn_operand ts read outer ⟨fr.terms, fr.factors, fr.negations + 1⟩
    rw [Frame.put_negated] at ih
    rw [operand, readOn_cons]
    exact ih
  | .openGroup :: ts =>
    obtain ⟨g, hg, hends, hread⟩ := readOn_formula ts read (fr :: outer)
    rw [operand, readOn_cons]
    refine hread.trans ((readOn_close read outer fr g hends).trans ?_)
    rw [hg]
    rfl
  | [] | .and :: ts | .or :: ts | .closeGroup :: ts =>
    rw [operand_missing (by simp [Token.startsOperand])]
    exact readOn_missing read outer fr (by simp [Token.startsOperand])
termination_by (ts.length, 0)

lemma readOn_factors (ts : List Token) (read : List Formula) (outer : List Frame) (done fs : List Formula) :
    (∀ t ∈ (factors ts).2.1.head?, t ≠ .and) ∧ readOn ⟨read, outer, ⟨done, fs, 0⟩, false⟩ ts =
      readOn ⟨read, outer, ⟨done, fs ++ (factors ts).1, 0⟩, true⟩ (factors ts).2.1 := by
  have hput (f : Option Formula) : (⟨done, fs, 0⟩ : Frame).put f = ⟨done, fs ++ f.toList, 0⟩ := by
    cases f <;> rfl
  have hread := readOn_operand ts read outer ⟨done, fs, 0⟩
  rw [hput] at hread
  rcases eq_cons_or (operand ts).2.1 .and with ⟨us, hus⟩ | hlast
  · have hlt : us.length < ts.length := Rest.length_lt hus
    obtain ⟨hends, ih⟩ := readOn_factors us read outer done (fs ++ (operand ts).1.toList)
    obtain ⟨hfactors, hrest⟩ := factors_and hus
    rw [hus, readOn_cons] at hread
    rw [hfactors, hrest, ← List.append_assoc]
    exact ⟨hends, hread.trans ih⟩
  · rw [factors_last hlast]
    exact ⟨hlast, hread⟩
termination_by (ts.length, 1)

lemma readOn_terms (ts : List Token) (read : List Formula) (outer : List Frame) (done : List Formula) :
    ∃ g : Frame, g.closeTerm.terms = done ++ (terms ts).1 ∧ Ends (terms ts).2.1 ∧
      readOn ⟨read, outer, ⟨done, [], 0⟩, false⟩ ts = readOn ⟨read, outer, g, true⟩ (terms ts).2.1 := by
  obtain ⟨hand, hread⟩ := readOn_factors ts read outer done []
  rcases eq_cons_or (factors ts).2.1 .or with ⟨us, hus⟩ | hor
  · have hlt : us.length < ts.length := Rest.length_lt hus
    obtain ⟨g, hg, hends, ih⟩ := readOn_terms us read outer (done ++ (group .all (factors ts).1).toList)
    obtain ⟨hterms, hrest⟩ := terms_or hus
    rw [hus, readOn_cons] at hread
    rw [hterms, hrest, ← List.append_assoc]
    exact ⟨g, hg, hends, hread.trans ih⟩
  · rw [terms_last hor]
    exact ⟨⟨done, (factors ts).1, 0⟩, rfl, fun t ht => ⟨hand t ht, hor t ht⟩, hread⟩
termination_by (ts.length, 2)

lemma readOn_formula (ts : List Token) (read : List Formula) (outer : List Frame) :
    ∃ g : Frame, g.formula? = (formula ts).1 ∧ Ends (formula ts).2.1 ∧
      readOn ⟨read, outer, .empty, false⟩ ts = readOn ⟨read, outer, g, true⟩ (formula ts).2.1 := by
  obtain ⟨g, hg, hends, hread⟩ := readOn_terms ts read outer []
  rw [formula]
  exact ⟨g, congrArg (group .any) hg, hends, hread⟩
termination_by (ts.length, 3)

end

/-! Every token but a closing bracket is taken by the formula that is read from it on. -/

lemma length_operand {t : Token} (h : t.startsOperand = true) (ts : List Token) :
    (operand (t :: ts)).2.1.length < (t :: ts).length := by
  cases t with
  | leaf l =>
    rw [operand]
    exact Nat.lt_succ_self _
  | not =>
    rw [operand]
    exact Nat.lt_succ_of_le (operand ts).2.2
  | openGroup =>
    rw [operand]
    exact Nat.lt_succ_of_le (Nat.le_trans (close (formula ts).2.1).2 (formula ts).2.2)
  | and | or | closeGroup => cases h

lemma length_factors {ts : List Token}
    (h : (∀ t ∈ (operand ts).2.1.head?, t ≠ .and) → (operand ts).2.1.length < ts.length) :
    (factors ts).2.1.length < ts.length := by
  rcases eq_cons_or (operand ts).2.1 .and with ⟨us, hus⟩ | hlast
  · rw [(factors_and hus).2]
    exact Nat.lt_of_le_of_lt (factors us).2.2 (Rest.length_lt hus)
  · rw [factors_last hlast]
    exact h hlast

lemma length_terms {ts : List Token}
    (h : (∀ t ∈ (factors ts).2.1.head?, t ≠ .or) → (factors ts).2.1.length < ts.length) :
    (terms ts).2.1.length < ts.length := by
  rcases eq_cons_or (factors ts).2.1 .or with ⟨us, hus⟩ | hlast
  · rw [(terms_or hus).2]
    exact Nat.lt_of_le_of_lt (terms us).2.2 (Rest.length_lt hus)
  · rw [terms_last hlast]
    exact h hlast

lemma length_formula {t : Token} (h : t ≠ .closeGroup) (ts : List Token) :
    (formula (t :: ts)).2.1.length < (t :: ts).length := by
  rw [formula]
  cases t with
  | closeGroup => exact absurd rfl h
  | leaf | not | openGroup => exact length_terms fun _ => length_factors fun _ => length_operand rfl ts
  | and =>
    have ho : operand (.and :: ts) = (none, ⟨.and :: ts, Nat.le_refl _⟩) :=
      operand_missing (by simp [Token.startsOperand])
    exact length_terms fun _ => length_factors fun hne => absurd rfl (hne .and (by rw [ho]; rfl))
  | or =>
    have ho : operand (.or :: ts) = (none, ⟨.or :: ts, Nat.le_refl _⟩) :=
      operand_missing (by simp [Token.startsOperand])
    have hf : (factors (.or :: ts)).2.1 = .or :: ts := by rw [factors_last (by simp [ho]), ho]
    exact length_terms fun hne => absurd rfl (hne .or (by rw [hf]; rfl))

lemma readOn_formulas (ts : List Token) (read : List Formula) :
    readOn ⟨read, [], .empty, false⟩ ts = read ++ formulas ts := by
  cases ts with
  | nil =>
    rw [formulas]
    rfl
  | cons t ts =>
    by_cases ht : t = .closeGroup
    · subst ht
      rw [formulas, readOn_cons, ← readOn_formulas ts read]
      exact congrArg (fun read => readOn ⟨read, [], .empty, false⟩ ts) (List.append_nil read)
    · obtain ⟨g, hg, hends, hread⟩ := readOn_formula (t :: ts) read []
      have hlt := length_formula ht ts
      rw [formulas, if_pos hlt, hread, readOn_ended read g hends, hg, ← List.append_assoc]
      · exact readOn_formulas _ _
      · exact fun he => ht he
termination_by ts.length
decreasing_by
  · exact Nat.lt_succ_self _
  · exact hlt

end Descent

theorem descend_leaves (ts : List Token) :
    descend ts = ofTokens? ts ∧ leaves? (ofTokens? ts) = ts.filterMap Token.leaf? :=
  ⟨congrArg (group .all) (Descent.readOn_formulas ts []).symm, leaves?_ofTokens? ts⟩

end DocQuery.Formula
