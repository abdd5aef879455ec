import DocQuery.Proofs.Condition.LeafOrder
import DocQuery.Proofs.Condition.Verdicts

/-! What conditions keep from one test to the next is never out of date: kept values are those that the operands
have, since what is recorded once does not change, and the kept formula is that of the tokens. -/

namespace DocQuery

def Results.Grows (rs rs' : Results) : Prop := ∀ name v, Dict.find? name rs = some v → Dict.find? name rs' = some v

namespace Results.Grows

variable {rs rs' : Results}

lemma refl (rs : Results) : Grows rs rs := fun _ _ h => h

lemma trans {rs'' : Results} (h : Grows rs rs') (h' : Grows rs' rs'') : Grows rs rs'' :=
  fun name v hv => h' name v (h name v hv)

lemma record (rs : Results) (name : String) (v : Value) : Grows rs (rs.record name v).2 := by
  intro name' w hw
  rw [Results.record]
  split
  · exact hw
  · next hc =>
    have hne : name' ≠ name := by
      rintro rfl
      rw [Dict.contains, hw] at hc
      exact hc rfl
    exact (Dict.find?_insert_of_ne hne v rs).trans hw

lemma value? (h : Grows rs rs') {o : Output} (hr : o.isReady rs = true) : o.value? rs' = o.value? rs := by
  cases o with
  | known v => rfl
  | slot name =>
    obtain ⟨v, hv⟩ := Option.isSome_iff_exists.mp hr
    exact (h name v hv).trans hv.symm

lemma isReady (h : Grows rs rs') {o : Output} (hr : o.isReady rs = true) : o.isReady rs' = true := by
  rw [Output.isReady, h.value? hr]
  exact hr

mutual

lemma isKnown (h : Grows rs rs') {o : Operand} (hk : o.isKnown rs = true) (spread : Bool) :
    o.isKnown rs' = true ∧ o.values rs' spread = o.values rs spread := by
  cases o with
  | value v =>
    refine ⟨rfl, ?_⟩
    unfold Operand.values
    rfl
  | output o =>
    refine ⟨h.isReady hk, ?_⟩
    rw [Operand.values, Operand.values, Output.scalars, Output.scalars, h.value? hk]
  | scope connective items =>
    rw [Operand.isKnown] at hk ⊢
    rw [Operand.values, Operand.values]
    exact h.allKnown hk spread

lemma allKnown (h : Grows rs rs') {os : List Operand} (hk : Operand.allKnown rs os = true) (spread : Bool) :
    Operand.allKnown rs' os = true ∧ Operand.valuesOfAll rs' spread os = Operand.valuesOfAll rs spread os := by
  cases os with
  | nil => exact ⟨rfl, rfl⟩
  | cons o os =>
    rw [Operand.allKnown, Bool.and_eq_true] at hk
    obtain ⟨ho, hv⟩ := h.isKnown hk.1 spread
    obtain ⟨hos, hvs⟩ := h.allKnown hk.2 spread
    rw [Operand.allKnown, ho, hos, Operand.valuesOfAll, Operand.valuesOfAll, hv, hvs]
    exact ⟨rfl, rfl⟩

end

end Results.Grows

namespace Test

variable {rs rs' : Results} {t : Test}

lemma eval_of_valueTest {c : ValueTest} (h : t.valueTest? = some c) (row : Row) :
    t.eval rs row = if row.coversColumn c.column then some (c.holds (row.read c.column) (c.values rs)) else none := by
  cases t <;> cases h <;> rfl

def Recalls (rs : Results) (t : Test) (vs : List Value) : Prop :=
  ∃ c, t.valueTest? = some c ∧ Operand.allKnown rs c.operands = true ∧ vs = c.values rs

lemma Recalls.mono {vs : List Value} (h : t.Recalls rs vs) (hg : rs.Grows rs') : t.Recalls rs' vs := by
  obtain ⟨c, hc, hk, rfl⟩ := h
  obtain ⟨hk, hv⟩ := hg.allKnown hk c.spread
  exact ⟨c, hc, hk, hv.symm⟩

lemma judge_eq {kept : Option (List Value)} (h : ∀ vs ∈ kept, t.Recalls rs vs) (row : Row) :
    (t.judge rs row kept).1 = t.eval rs row ∧ ∀ vs ∈ (t.judge rs row kept).2, t.Recalls rs vs := by
  rw [judge]
  rcases hc : t.valueTest? with _ | c
  · exact ⟨rfl, h⟩
  · dsimp only
    rw [ValueTest.judge, eval_of_valueTest hc row]
    split
    · rcases kept with _ | vs
      · refine ⟨rfl, fun vs hvs => ?_⟩
        dsimp only [ValueTest.remembered] at hvs
        split at hvs
        · next hk =>
          cases hvs
          exact ⟨c, hc, hk, rfl⟩
        · cases hvs
      · obtain ⟨c', hc', -, hvs⟩ := h vs rfl
        obtain rfl : c = c' := Option.some.inj (hc.symm.trans hc')
        rw [← hvs]
        exact ⟨rfl, h⟩
    · exact ⟨rfl, h⟩

end Test

def Memory.Sound (rs : Results) (ls : List Leaf) (m : Memory) : Prop :=
  ∀ n, ∀ vs ∈ m n, ∃ l ∈ ls[n]?, l.test.Recalls rs vs

namespace Memory.Sound

variable {rs rs' : Results} {ls : List Leaf} {m : Memory}

lemma empty (rs : Results) (ls : List Leaf) : Sound rs ls .empty := nofun

lemma mono (h : Sound rs ls m) (hg : rs.Grows rs') : Sound rs' ls m := by
  intro n vs hvs
  obtain ⟨l, hl, hr⟩ := h n vs hvs
  exact ⟨l, hl, hr.mono hg⟩

lemma append (h : Sound rs ls m) (more : List Leaf) : Sound rs (ls ++ more) m := by
  intro n vs hvs
  obtain ⟨l, hl, hr⟩ := h n vs hvs
  rw [Option.mem_def] at hl
  refine ⟨l, ?_, hr⟩
  rw [List.getElem?_append_left (List.getElem?_eq_some_iff.mp hl).1]
  exact hl

lemma judge (h : Sound rs ls m) {n : Nat} {l : Leaf} (hl : ls[n]? = some l) (row : Row) :
    (l.test.judge rs row (m n)).1 = l.test.eval rs row ∧ Sound rs ls (m.keep n (l.test.judge rs row (m n)).2) := by
  have hkept : ∀ vs ∈ m n, l.test.Recalls rs vs := by
    intro vs hvs
    obtain ⟨l', hl', hr⟩ := h n vs hvs
    obtain rfl : l = l' := Option.some.inj (hl.symm.trans hl')
    exact hr
  obtain ⟨hv, hk⟩ := Test.judge_eq hkept row
  refine ⟨hv, fun i vs hvs => ?_⟩
  rw [Memory.keep] at hvs
  split at hvs
  · next hi =>
    subst hi
    exact ⟨l, hl, hk vs hvs⟩
  · exact h i vs hvs

end Memory.Sound

def Verdict.decided (decisive : Bool) (vs : List Verdict) : Verdict :=
  bif decisive then any vs else all vs

lemma Verdict.decided_congr {decisive : Bool} {vs ws : List Verdict} (h : ∀ b, some b ∈ vs ↔ some b ∈ ws) :
    decided decisive vs = decided decisive ws := by
  cases decisive with
  | false => exact all_congr h
  | true => exact any_congr h

lemma Verdict.decided_of_mem {decisive b : Bool} (hb : b = decisive) {vs : List Verdict} (h : some b ∈ vs) :
    decided decisive vs = some b := by
  subst hb
  cases b with
  | false => exact if_pos h
  | true => exact if_pos h

namespace Formula

variable {rs : Results} {ls : List Leaf}

lemma prefix_cons {f : Formula} {fs : List Formula} {n : Nat} (h : leavesOfAll (f :: fs) <+: ls.drop n) :
    f.leaves <+: ls.drop n ∧ leavesOfAll fs <+: ls.drop (n + f.leaves.length) := by
  obtain ⟨rest, h⟩ := h
  rw [leavesOfAll, List.append_assoc] at h
  refine ⟨⟨_, h⟩, rest, ?_⟩
  rw [← List.drop_drop, ← h, List.drop_left]

lemma getElem?_of_first {l : Leaf} {n : Nat} (h : [l] <+: ls.drop n) : ls[n]? = some l := by
  obtain ⟨rest, h⟩ := h
  have hd : (ls.drop n)[0]? = some l := by
    rw [← h]
    rfl
  rwa [List.getElem?_drop, Nat.add_zero] at hd

mutual

lemma judge_eq (f : Formula) (row : Row) {n : Nat} {m : Memory} (hm : m.Sound rs ls) (hf : f.leaves <+: ls.drop n) :
    (f.judge rs row n m).1 = f.eval rs row ∧ (f.judge rs row n m).2.Sound rs ls := by
  cases f with
  | leaf l =>
    rw [judge, eval]
    exact hm.judge (getElem?_of_first hf) row
  | all items =>
    rw [judge, eval_all]
    exact judgeUntil_eq row false false hm hf
  | any items =>
    rw [judge, eval_any]
    exact judgeUntil_eq row true false hm hf
  | not item =>
    obtain ⟨hv, hs⟩ := judge_eq item row hm hf
    rw [judge, eval, ← hv]
    exact ⟨rfl, hs⟩

lemma judgeUntil_eq {fs : List Formula} (row : Row) {n : Nat} {m : Memory} (decisive seen : Bool)
    (hm : m.Sound rs ls) (hf : leavesOfAll fs <+: ls.drop n) :
    (judgeUntil rs row decisive seen n m fs).1 =
        Verdict.decided decisive ((if seen then [some !decisive] else []) ++ fs.map (eval rs row)) ∧
      (judgeUntil rs row decisive seen n m fs).2.Sound rs ls := by
  cases fs with
  | nil =>
    rw [judgeUntil]
    refine ⟨?_, hm⟩
    cases seen <;> cases decisive <;> rfl
  | cons f fs =>
    obtain ⟨hf, hfs⟩ := prefix_cons hf
    obtain ⟨hv, hs⟩ := judge_eq f row hm hf
    rw [judgeUntil, List.map_cons, ← hv]
    rcases hj : f.judge rs row n m with ⟨v, m'⟩
    rw [hj] at hs
    rcases v with _ | b
    · obtain ⟨hv, hs⟩ := judgeUntil_eq row decisive seen hs hfs
      refine ⟨hv.trans (Verdict.decided_congr fun b => ?_), hs⟩
      simp
    · dsimp only
      split
      · next hb =>
        refine ⟨(Verdict.decided_of_mem hb ?_).symm, hs⟩
        simp [hb]
      · next hb =>
        -- the other verdict decides nothing yet, and from here on it counts as seen
        obtain ⟨hv, hs⟩ := judgeUntil_eq row decisive true hs hfs
        refine ⟨hv.trans (Verdict.decided_congr fun b' => ?_), hs⟩
        obtain rfl : b = !decisive := by cases b <;> cases decisive <;> first | rfl | exact absurd rfl hb
        cases seen <;> simp

end

end Formula

end DocQuery
