import DocQuery.Proofs.Condition.Nesting
import DocQuery.Proofs.Plan.Guards
import DocQuery.Proofs.Plan.Traces

/-! How deep the conditions of a plan are nested. What scopes come to is bounded; the brackets and negations that a
scheme opens by words of their own are not, and each makes the conditions inside of it deeper. -/

namespace DocQuery

def Scheme.openings (s : Scheme) : Nat := s.countP fun o => o.keyword = .not ∨ o.keyword = .openGroup

def Keyword.weight (keyword : Keyword) : Nat := if keyword = .not ∨ keyword = .openGroup then 1 else 0

lemma Keyword.weight_token {keyword : Keyword} {t : Token} (h : t ∈ keyword.token?) : t.weight = keyword.weight := by
  cases keyword <;> cases h <;> rfl

lemma Scheme.sum_weight (s : Scheme) : (s.map fun o => o.keyword.weight).sum = s.openings := by
  induction s with
  | nil => rfl
  | cons o s ih =>
    rw [List.map_cons, List.sum_cons, ih, openings, openings, List.countP_cons, Nat.add_comm]
    simp only [Keyword.weight, decide_eq_true_eq]

namespace Plan

theorem ofScheme_nesting {made : Results} {s : Scheme} {p : Plan} (h : ofScheme made s = .ok p) {c : Conditions}
    (hc : c = p.conditions ∨ c = p.having) :
    (∀ before after, c.tokens = before ++ after →
      (Nesting.start.after before).depth ≤ maxNesting + s.openings ∧
        (before.foldl Formula.Reader.step .start).nesting = Nesting.start.after before) ∧
    (∀ f ∈ c.formula?, f.depth ≤ 2 * (maxNesting + s.openings) + 3) ∧
    ∀ b : Builder, b.Refuses made := by
  have hbuilt := built_of_ofScheme h
  obtain ⟨b, hr, -, rfl⟩ := ofScheme_eq_ok h
  have hb : b.Both (Conditions.Nested s.openings) := by
    rw [← s.sum_weight, ← Nat.zero_add (List.sum _)]
    refine Builder.Both.run (fun _ _ _ hk hc => hc.mono hk) ?_ ⟨.empty, .empty⟩ hr
    rintro k keyword c c' hc (⟨t, ht, rfl⟩ | ⟨e, he⟩)
    · exact Keyword.weight_token ht ▸ hc.pushToken t
    · exact (hc.push he).mono (Nat.le_add_right _ _)
  obtain ⟨hseparated, -, hwithin⟩ : Separated c.tokens ∧ c.Nested s.openings := by
    rcases hc with rfl | rfl
    · exact ⟨hbuilt.1.separated, hb.1⟩
    · exact ⟨hbuilt.2.separated, hb.2⟩
  refine ⟨fun before after htokens => ?_, Formula.depth_ofTokens? hseparated hwithin, Builder.refuses made⟩
  rw [htokens] at hseparated hwithin
  exact ⟨hwithin.depth_after_le,
    (Formula.sound_of_tokens hseparated.left_of_append (Nesting.within_append.mp hwithin).1).2⟩

def annInside (n : Nat) : Scheme :=
  ⟨.fromTables, [.value (.string "users")]⟩ :: (List.replicate n ⟨.openGroup, []⟩ ++
    [⟨.whereKeys, [.value (.string "name")]⟩, ⟨.eq, [.value (.string "Ann")]⟩])

theorem ofScheme_nesting_two :
    ∃ p, ofScheme [] (annInside 2) = .ok p ∧ p.conditions.tokens.map Token.label = ["(", "(", "Eq(users.name)"] ∧
      (∀ before after, p.conditions.tokens = before ++ after → (Nesting.start.after before).depth ≤ 66) ∧
      ∀ f ∈ p.conditions.formula?, f.depth ≤ 135 := by
  obtain ⟨p, hp, htokens⟩ : ∃ p, ofScheme [] (annInside 2) = .ok p ∧
      p.conditions.tokens.map Token.label = ["(", "(", "Eq(users.name)"] := ⟨_, rfl, by decide⟩
  obtain ⟨hdepth, hformula, -⟩ := ofScheme_nesting hp (.inl rfl)
  exact ⟨p, hp, htokens, fun before after h => (hdepth before after h).1, hformula⟩

section Unbounded

def opened (n : Nat) : Builder :=
  { Builder.empty with
    plan := { Plan.empty with tables := [.named "users"], conditions := ⟨List.replicate n .openGroup⟩ }
    history := List.replicate n .openGroup ++ [.fromTables] }

lemma append_openGroups (n : Nat) (t : Token) :
    Conditions.append ⟨List.replicate n .openGroup⟩ [t] = ⟨List.replicate n .openGroup ++ [t]⟩ := by
  have hlast : (List.replicate n Token.openGroup).getLast?.any Token.endsOperand = false := by
    rw [List.getLast?_replicate]
    split <;> rfl
  simp [Conditions.append, hlast]

lemma run_openGroups (n : Nat) {k : Nat} :
    ((List.replicate n ⟨.openGroup, []⟩ : Scheme).forM (Builder.apply [])).run (opened k) =
      (.ok (), opened (k + n)) := by
  induction n generalizing k with
  | zero => rfl
  | succ n ih =>
    have hopen : (Builder.apply [] ⟨.openGroup, []⟩).run (opened k) = (.ok (), opened (k + 1)) := by
      have htoken : (Builder.perform [] .openGroup []).run (opened k) =
          (.ok (), (opened k).setTarget ((opened k).target.pushToken .openGroup)) := rfl
      have hpush : (opened k).target.pushToken .openGroup = ⟨List.replicate (k + 1) .openGroup⟩ := by
        rw [List.replicate_succ']
        exact append_openGroups k .openGroup
      rw [Builder.run_apply rfl htoken rfl, hpush]
      rfl
    rw [List.replicate_succ, run_forM_cons hopen, ih, Nat.add_assoc, Nat.add_comm 1 n]

lemma ofScheme_annInside (n : Nat) : ∃ p l, ofScheme [] (annInside n) = .ok p ∧
    p.conditions.tokens = List.replicate n .openGroup ++ [.leaf l] := by
  have hfrom : (Builder.apply [] ⟨.fromTables, [.value (.string "users")]⟩).run .empty = (.ok (), opened 0) := rfl
  have hopen := run_openGroups n (k := 0)
  rw [Nat.zero_add] at hopen
  obtain ⟨b, l, hrun, hpending, htokens⟩ : ∃ b l,
      (([⟨.whereKeys, [.value (.string "name")]⟩, ⟨.eq, [.value (.string "Ann")]⟩] : Scheme).forM
        (Builder.apply [])).run (opened n) = (.ok (), b) ∧ b.pending = none ∧
      b.plan.conditions = Conditions.append ⟨List.replicate n .openGroup⟩ [.leaf l] := by
    match n with
    | 0 => exact ⟨_, _, rfl, rfl, rfl⟩
    | 1 => exact ⟨_, _, rfl, rfl, rfl⟩
    | n + 2 => exact ⟨_, _, rfl, rfl, rfl⟩
  refine ⟨b.plan.resolve, l, ofScheme_of_run ?_ hpending, ?_⟩
  · rw [annInside, run_forM_cons hfrom, run_forM_append hopen, hrun]
  · have hplan : b.plan.resolve.conditions = b.plan.conditions := rfl
    rw [hplan, htokens, append_openGroups]

lemma depth_openGroups (n : Nat) : (Nesting.start.after (List.replicate n .openGroup)).depth = n := by
  induction n with
  | zero => rfl
  | succ n ih =>
    rw [List.replicate_succ', Nesting.after_append]
    exact (Nesting.depth_opened _).trans (congrArg (· + 1) ih)

theorem nesting_unbounded :
    ¬ ∃ bound, ∀ s p, ofScheme [] s = .ok p → ∀ before l after, p.conditions.tokens = before ++ .leaf l :: after →
      (Nesting.start.after before).depth ≤ bound := by
  rintro ⟨bound, h⟩
  obtain ⟨p, l, hp, htokens⟩ := ofScheme_annInside (bound + 1)
  have hle := h _ p hp _ l [] htokens
  rw [depth_openGroups] at hle
  exact Nat.not_succ_le_self bound hle

end Unbounded

end Plan

end DocQuery
