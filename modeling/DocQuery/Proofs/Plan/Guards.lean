import DocQuery.Proofs.Plan.Positions

namespace DocQuery

def Guarded {α : Type} (level : Nat) (x : Except Error α) : Prop :=
  if level ≤ maxNesting then ∃ a, x = .ok a else x = .error (.nesting maxNesting)

namespace Guarded

variable {α β : Type} {level level' depth : Nat} {x : Except Error α}

lemma ok (a : α) : Guarded 0 (.ok a : Except Error α) := ⟨a, rfl⟩

lemma refused (h : Guarded level x) (hl : maxNesting < level) : x = .error (.nesting maxNesting) := by
  rwa [Guarded, if_neg (Nat.not_le_of_lt hl)] at h

lemma granted (h : Guarded level x) (hl : level ≤ maxNesting) : ∃ a, x = .ok a := by
  rwa [Guarded, if_pos hl] at h

lemma map (h : Guarded level x) (f : α → β) : Guarded level (x.map f) := by
  by_cases hl : level ≤ maxNesting
  · obtain ⟨a, rfl⟩ := h.granted hl
    rw [Guarded, if_pos hl]
    exact ⟨f a, rfl⟩
  · rw [Guarded, if_neg hl, h.refused (Nat.lt_of_not_le hl)]
    rfl

lemma bind (h : Guarded level x) {f : α → Except Error β} (hf : ∀ a, Guarded level' (f a)) :
    Guarded (max level level') (x >>= f) := by
  by_cases hl : level ≤ maxNesting
  · obtain ⟨a, rfl⟩ := h.granted hl
    have hmax : max level level' ≤ maxNesting ↔ level' ≤ maxNesting := by omega
    simp only [Guarded, hmax]
    exact hf a
  · have hmax : ¬ max level level' ≤ maxNesting := by omega
    rw [Guarded, if_neg hmax, h.refused (Nat.lt_of_not_le hl)]
    rfl

lemma check (h : Guarded level x) (depth : Nat) :
    Guarded (max depth level) (if depth > maxNesting then .error (.nesting maxNesting) else x) := by
  by_cases hd : depth > maxNesting
  · have hmax : ¬ max depth level ≤ maxNesting := by omega
    rw [if_pos hd, Guarded, if_neg hmax]
  · have hmax : max depth level ≤ maxNesting ↔ level ≤ maxNesting := by omega
    simp only [Guarded, if_neg hd, hmax]
    exact h

lemma check_ok (depth : Nat) (a : α) :
    Guarded depth (if depth > maxNesting then .error (.nesting maxNesting) else .ok a : Except Error α) := by
  simpa using (ok a).check depth

end Guarded

namespace Arg

mutual

def level (depth : Nat) : Arg → Nat
  | scope _ items => max depth (levelOfAll (depth + 1) items)
  | _ => depth

def levelOfAll (depth : Nat) : List Arg → Nat
  | [] => 0
  | a :: as => max (level depth a) (levelOfAll depth as)

end

mutual

def Each (P : Arg → Prop) : Arg → Prop
  | scope _ items => EachOfAll P items
  | a => P a

def EachOfAll (P : Arg → Prop) : List Arg → Prop
  | [] => True
  | a :: as => Each P a ∧ EachOfAll P as

end

def IsKey (a : Arg) : Prop := ∃ c, a.column? .whereKeys = .ok c

def IsOperand (a : Arg) : Prop := (∃ v, a = .value v) ∨ ∃ o, a = .output o

end Arg

namespace Key

mutual

lemma guarded_ofArg (table : Option Table) {depth : Nat} {a : Arg} (h : a.Each Arg.IsKey) :
    Guarded (a.level depth) (ofArg table depth a) := by
  cases a with
  | scope connective items =>
    rw [ofArg, Arg.level]
    rw [Arg.Each] at h
    exact ((guarded_ofArgs table h).map _).check depth
  | _ =>
    simp only [Arg.Each] at h
    obtain ⟨c, hc⟩ := h
    simp only [ofArg, Arg.level, hc]
    exact .check_ok depth _

lemma guarded_ofArgs (table : Option Table) {depth : Nat} {args : List Arg} (h : Arg.EachOfAll Arg.IsKey args) :
    Guarded (Arg.levelOfAll depth args) (ofArgs table depth args) := by
  cases args with
  | nil => exact .ok []
  | cons a args =>
    rw [Arg.EachOfAll] at h
    rw [ofArgs, Arg.levelOfAll]
    exact (guarded_ofArg table h.1).bind fun k => (guarded_ofArgs table h.2).map (k :: ·)

end

end Key

namespace Operand

mutual

def level (depth : Nat) : Operand → Nat
  | scope _ items => max depth (levelOfAll (depth + 1) items)
  | _ => depth

def levelOfAll (depth : Nat) : List Operand → Nat
  | [] => 0
  | o :: os => max (level depth o) (levelOfAll depth os)

end

lemma depth_le_level (depth : Nat) (o : Operand) : depth ≤ o.level depth := by
  cases o with
  | scope connective items =>
    rw [level]
    exact Nat.le_max_left _ _
  | _ => exact Nat.le_refl _

mutual

lemma guarded_ofArg {depth : Nat} {a : Arg} (h : a.Each Arg.IsOperand) :
    Guarded (a.level depth) (ofArg depth a) := by
  cases a with
  | scope connective items =>
    rw [ofArg, Arg.level]
    rw [Arg.Each] at h
    exact ((guarded_ofArgs h).map _).check depth
  | value v =>
    simp only [ofArg, Arg.level]
    exact .check_ok depth _
  | output o =>
    simp only [ofArg, Arg.level]
    exact .check_ok depth _
  | _ =>
    simp only [Arg.Each] at h
    rcases h with ⟨v, hv⟩ | ⟨o, ho⟩
    · cases hv
    · cases ho

lemma guarded_ofArgs {depth : Nat} {args : List Arg} (h : Arg.EachOfAll Arg.IsOperand args) :
    Guarded (Arg.levelOfAll depth args) (ofArgs depth args) := by
  cases args with
  | nil => exact .ok []
  | cons a args =>
    rw [Arg.EachOfAll] at h
    rw [ofArgs, Arg.levelOfAll]
    exact (guarded_ofArg h.1).bind fun o => (guarded_ofArgs h.2).map (o :: ·)

end

mutual

lemma level_le_of_ofArg {depth : Nat} {a : Arg} {o : Operand} (h : ofArg depth a = .ok o) :
    o.level depth ≤ maxNesting := by
  cases a with
  | scope connective items =>
    rw [ofArg] at h
    split at h
    · cases h
    · next hd =>
      obtain ⟨os, hos, rfl⟩ := Except.map_eq_ok h
      rw [level]
      exact Nat.max_le.mpr ⟨Nat.le_of_not_lt hd, level_le_of_ofArgs hos⟩
  | _ =>
    simp only [ofArg] at h
    split at h
    · cases h
    · next hd => cases h <;> exact Nat.le_of_not_lt hd

lemma level_le_of_ofArgs {depth : Nat} {args : List Arg} {os : List Operand} (h : ofArgs depth args = .ok os) :
    levelOfAll depth os ≤ maxNesting := by
  cases args with
  | nil =>
    cases h
    exact Nat.zero_le _
  | cons a args =>
    rw [ofArgs] at h
    obtain ⟨o, ho, h⟩ := Except.bind_eq_ok h
    obtain ⟨os, hos, h⟩ := Except.bind_eq_ok h
    cases h
    exact Nat.max_le.mpr ⟨level_le_of_ofArg ho, level_le_of_ofArgs hos⟩

end

end Operand

namespace Expression

mutual

def level (depth : Nat) : Expression → Nat
  | comparison _ _ _ => depth
  | scope _ items => max depth (levelOfAll (depth + 1) items)
  | negation item => max depth (level (depth + 1) item)

def levelOfAll (depth : Nat) : List Expression → Nat
  | [] => 0
  | e :: es => max (level depth e) (levelOfAll depth es)

end

def Compares (made : Results) (x : Keyword × Column × List Operand) : Prop :=
  ∃ test, Test.ofKeyword? made x.1 x.2.1 x.2.2 = some test

mutual

lemma guarded_tokens {made : Results} {depth : Nat} {e : Expression} (h : ∀ x ∈ e.comparisons, Compares made x) :
    Guarded (e.level depth) (e.tokens made depth) := by
  cases e with
  | comparison keyword column operands =>
    obtain ⟨test, ht⟩ := h _ List.mem_cons_self
    simp only [tokens, level, ht]
    exact .check_ok depth _
  | scope connective items =>
    rw [tokens, level]
    exact ((guarded_tokensOfAll h).map _).check depth
  | negation item =>
    have hitem : ∀ x ∈ item.comparisons, Compares made x := h
    rw [tokens, level, ← Nat.max_zero (level (depth + 1) item)]
    exact ((guarded_tokens hitem).bind fun _ => .ok _).check depth

lemma guarded_tokensOfAll {made : Results} {depth : Nat} {es : List Expression}
    (h : ∀ x ∈ comparisonsOfAll es, Compares made x) :
    Guarded (levelOfAll depth es) (tokensOfAll made depth es) := by
  cases es with
  | nil => exact .ok []
  | cons e es =>
    rw [comparisonsOfAll, List.forall_mem_append] at h
    rw [tokensOfAll, levelOfAll]
    exact (guarded_tokens h.1).bind fun ts => (guarded_tokensOfAll h.2).map (ts :: ·)

end

end Expression

namespace Keychain

mutual

lemma guarded_comparison (keyword : Keyword) (column : Column) (depth : Nat) (o : Operand) :
    Guarded (o.level depth) (if depth > maxNesting then .error (.nesting maxNesting) else
      comparison keyword column depth o) := by
  cases o with
  | scope connective items =>
    rw [comparison, Operand.level]
    exact ((guarded_comparisons keyword column (depth + 1) items).map _).check depth
  | _ =>
    simp only [comparison, Operand.level]
    exact .check_ok depth _

lemma guarded_comparisons (keyword : Keyword) (column : Column) (depth : Nat) (os : List Operand) :
    Guarded (Operand.levelOfAll depth os) (comparisons keyword column depth os) := by
  cases os with
  | nil => exact .ok []
  | cons o os =>
    have ho := guarded_comparison keyword column depth o
    rw [comparisons, Operand.levelOfAll]
    by_cases hd : depth > maxNesting
    · have hlevel := o.depth_le_level depth
      have hdeep : ¬ max (o.level depth) (Operand.levelOfAll depth os) ≤ maxNesting := by omega
      rw [if_pos hd, Guarded, if_neg hdeep]
    · rw [if_neg hd] at ho ⊢
      exact ho.bind fun e => (guarded_comparisons keyword column depth os).map (e :: ·)

end

lemma total_anyOf (keyword : Keyword) {args : List Arg} {operands : List Operand}
    (h : Operand.ofArgs 0 args = .ok operands) : Total fun _ c => anyOf keyword operands c := by
  intro i c
  exact ((guarded_comparisons keyword c 0 operands).map _).granted (Operand.level_le_of_ofArgs h)

end Keychain

namespace Builder

def comparing : List Keyword := [.eq, .gt, .lt, .like, .isNull, .isIn]

structure Refuses (made : Results) (b : Builder) : Prop where
  keys : ∀ keyword ∈ [Keyword.whereKeys, .havingKeys], ∀ args, Arg.EachOfAll Arg.IsKey args →
    maxNesting < Arg.levelOfAll 0 args → (perform made keyword args).run b = (.error (.nesting maxNesting), b)
  operands : ∀ keyword ∈ .between :: comparing, b.keychain ≠ [] → ∀ args, Arg.EachOfAll Arg.IsOperand args →
    maxNesting < Arg.levelOfAll 0 args → (perform made keyword args).run b = (.error (.nesting maxNesting), b)
  keychain : ∀ keyword ∈ comparing, ∀ args operands, Operand.ofArgs 0 args = .ok operands →
    maxNesting < Key.depthOfAll b.keychain → (perform made keyword args).run b = (.error (.nesting maxNesting), b)
  expression : ∀ e : Expression, (∀ x ∈ e.comparisons, Expression.Compares made x) → maxNesting < e.level 0 →
    (pushExpression made (some e)).run b = (.error (.nesting maxNesting), b)

section

variable {made : Results} {b : Builder} {args : List Arg}

lemma run_openKeys_of_deep {clause : Clause} (ha : Arg.EachOfAll Arg.IsKey args)
    (hd : maxNesting < Arg.levelOfAll 0 args) : (openKeys clause args).run b = (.error (.nesting maxNesting), b) := by
  rw [openKeys_eq, (Key.guarded_ofArgs b.plan.primary? ha).refused hd]

lemma run_comparison_of_deep {keyword : Keyword} {next : List Key → List Operand → Building Unit}
    (hk : b.keychain ≠ []) (ha : Arg.EachOfAll Arg.IsOperand args) (hd : maxNesting < Arg.levelOfAll 0 args) :
    (requireKeys keyword >>= fun keys => operandsOf args >>= next keys).run b =
      (.error (.nesting maxNesting), b) := by
  have hoperands := (Operand.guarded_ofArgs ha).refused hd
  have hrun : (operandsOf args).run b = (.error (.nesting maxNesting), b) := by
    rw [operandsOf, hoperands]
    rfl
  rw [run_bind_of_ok (run_requireKeys keyword hk)]
  exact run_bind_of_error hrun _

lemma run_pushExpression_of_deep {e : Expression} (he : ∀ x ∈ e.comparisons, Expression.Compares made x)
    (hd : maxNesting < e.level 0) :
    (pushExpression made (some e)).run b = (.error (.nesting maxNesting), b) := by
  have hpush : b.target.push made e = .error (.nesting maxNesting) := by
    rw [Conditions.push, (Expression.guarded_tokens he).refused hd]
    rfl
  have hrun : (liftM (b.target.push made e) : Building Conditions).run b = (.error (.nesting maxNesting), b) := by
    rw [hpush]
    rfl
  exact run_bind_of_error hrun _

lemma refuses (made : Results) (b : Builder) : b.Refuses made where
  keys keyword hk args ha hd := by
    simp only [List.mem_cons, List.not_mem_nil, or_false] at hk
    rcases hk with rfl | rfl <;> exact run_openKeys_of_deep ha hd
  operands keyword hk hkeys args ha hd := by
    simp only [comparing, List.mem_cons, List.not_mem_nil, or_false] at hk
    rcases hk with rfl | rfl | rfl | rfl | rfl | rfl | rfl <;> exact run_comparison_of_deep hkeys ha hd
  keychain keyword hk args operands ho hd := by
    have hkeys : b.keychain ≠ [] := by
      intro h
      rw [h, Key.depthOfAll] at hd
      exact Nat.not_lt_zero _ hd
    have hleaves {leaf : Nat → Column → Except Error Expression} (hl : Keychain.Total leaf) :
        (pushLeaves made b.keychain leaf).run b = (.error (.nesting maxNesting), b) :=
      run_pushLeaves_of_error (Keychain.expression?_of_deep hl hd)
    have hcompare (keyword : Keyword) : (compareKeys made keyword args).run b = (.error (.nesting maxNesting), b) := by
      refine (run_comparison hkeys ho).trans (hleaves fun i c => ?_)
      by_cases hn : keyword = .isNull
      · exact ⟨_, if_pos hn⟩
      · simp only [if_neg hn]
        exact Keychain.total_anyOf keyword ho i c
    simp only [comparing, List.mem_cons, List.not_mem_nil, or_false] at hk
    rcases hk with rfl | rfl | rfl | rfl | rfl | rfl
    · exact hcompare .eq
    · exact hcompare .gt
    · exact hcompare .lt
    · exact hcompare .like
    · exact hcompare .isNull
    · exact (run_comparison hkeys ho).trans (hleaves fun i c => ⟨_, rfl⟩)
  expression e he hd := run_pushExpression_of_deep he hd

end

end Builder

end DocQuery
