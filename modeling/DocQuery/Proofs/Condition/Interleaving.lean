import DocQuery.Proofs.Condition.Remembering

/-! Conditions that grow, are tested and have their operands recorded in any order. Every test gives the verdict of
conditions that are put together afresh, but for patterns: these are read when they are pushed. -/

namespace DocQuery

lemma Conditions.leaves_append (c : Conditions) (ts : List Token) :
    (c.append ts).tokens.filterMap Token.leaf? =
      c.tokens.filterMap Token.leaf? ++ ts.filterMap Token.leaf? := by
  rw [append, List.filterMap_append, List.filterMap_append]
  split <;> simp [Token.leaf?]

namespace CachedConditions

structure Sound (rs : Results) (c : CachedConditions) : Prop where
  formula : ∀ f ∈ c.formula, f = c.conditions.formula?
  memory : c.memory.Sound rs (c.conditions.tokens.filterMap Token.leaf?)

namespace Sound

variable {rs rs' : Results} {c : CachedConditions}

lemma empty (rs : Results) : Sound rs empty := ⟨nofun, .empty rs []⟩

lemma mono (h : Sound rs c) (hg : rs.Grows rs') : Sound rs' c := ⟨h.formula, h.memory.mono hg⟩

lemma append (h : Sound rs c) (ts : List Token) : Sound rs (c.append ts) := by
  rw [CachedConditions.append]
  split
  · exact h
  · refine ⟨nofun, ?_⟩
    dsimp only
    rw [Conditions.leaves_append]
    exact h.memory.append _

lemma traced {ls todo : List Leaf} (row : Row) {n : Nat} {m : Memory} (hm : m.Sound rs ls) (h : todo = ls.drop n) :
    (CachedConditions.traced rs row n m todo).Sound rs ls := by
  induction todo generalizing n m with
  | nil => exact hm
  | cons l todo ih =>
    have hl : ls[n]? = some l := Formula.getElem?_of_first ⟨todo, h⟩
    have hrest : todo = ls.drop (n + 1) := by
      rw [← List.drop_drop, ← h]
      rfl
    exact ih (hm.judge hl row).2 hrest

lemma test_eq (h : Sound rs c) (tracing : Bool) (row : Row) :
    (c.test rs tracing row).1 = c.conditions.test rs row ∧ Sound rs (c.test rs tracing row).2 ∧
      (c.test rs tracing row).2.conditions = c.conditions := by
  have hformula : c.formula.getD c.conditions.formula? = c.conditions.formula? := by
    rcases hf : c.formula with _ | f
    · rfl
    · exact h.formula f hf
  have hleaves := Formula.leaves?_ofTokens? c.conditions.tokens
  have hmemory : (if tracing then CachedConditions.traced rs row 0 c.memory (c.conditions.tokens.filterMap Token.leaf?)
      else c.memory).Sound rs (c.conditions.tokens.filterMap Token.leaf?) := by
    split
    · exact traced row h.memory rfl
    · exact h.memory
  rw [CachedConditions.test, Conditions.test, Conditions.verdict, hformula]
  rw [← Conditions.formula?] at hleaves
  dsimp only
  rcases hf : c.conditions.formula? with _ | f
  · exact ⟨rfl, ⟨fun f hf' => (Option.some.inj hf').symm.trans hf.symm, hmemory⟩, rfl⟩
  · rw [hf] at hleaves
    have hfirst : f.leaves <+: (c.conditions.tokens.filterMap Token.leaf?).drop 0 := ⟨[], by
      rw [List.append_nil, List.drop_zero]
      exact hleaves⟩
    obtain ⟨hv, hs⟩ := f.judge_eq row hmemory hfirst
    refine ⟨congrArg (·.getD true) hv, ⟨fun f' hf' => (Option.some.inj hf').symm.trans hf.symm, hs⟩, rfl⟩

end Sound

end CachedConditions

namespace Operand

mutual

def outputs : Operand → List Output
  | value _ => []
  | output o => [o]
  | scope _ items => outputsOfAll items

def outputsOfAll : List Operand → List Output
  | [] => []
  | o :: os => outputs o ++ outputsOfAll os

end

variable {rs rs' : Results}

mutual

lemma values_congr {o : Operand} (h : ∀ out ∈ o.outputs, out.value? rs = out.value? rs') (spread : Bool) :
    o.values rs spread = o.values rs' spread := by
  cases o with
  | value v =>
    unfold values
    rfl
  | output out =>
    rw [values, values, Output.scalars, Output.scalars, h out (by rw [outputs]; exact List.mem_cons_self)]
  | scope connective items =>
    rw [values, values]
    exact valuesOfAll_congr (fun out hm => h out (by rwa [outputs])) spread

lemma valuesOfAll_congr {os : List Operand} (h : ∀ out ∈ outputsOfAll os, out.value? rs = out.value? rs')
    (spread : Bool) : valuesOfAll rs spread os = valuesOfAll rs' spread os := by
  cases os with
  | nil => rfl
  | cons o os =>
    rw [outputsOfAll] at h
    rw [valuesOfAll, valuesOfAll, values_congr (fun out hm => h out (List.mem_append_left _ hm)) spread,
      valuesOfAll_congr (fun out hm => h out (List.mem_append_right _ hm)) spread]

end

end Operand

namespace Expression

mutual

def patternOutputs : Expression → List Output
  | comparison keyword _ operands => if keyword = .like then Operand.outputsOfAll operands else []
  | scope _ items => patternOutputsOfAll items
  | negation item => patternOutputs item

def patternOutputsOfAll : List Expression → List Output
  | [] => []
  | e :: es => patternOutputs e ++ patternOutputsOfAll es

end

variable {rs rs' : Results}

lemma ofKeyword?_congr {keyword : Keyword} {column : Column} {operands : List Operand}
    (h : ∀ out ∈ patternOutputs (comparison keyword column operands), out.value? rs = out.value? rs') :
    Test.ofKeyword? rs keyword column operands = Test.ofKeyword? rs' keyword column operands := by
  by_cases hk : keyword = .like
  · subst hk
    have hv := Operand.valuesOfAll_congr h false
    simp only [Test.ofKeyword?, hv]
  · cases keyword with
    | like => exact absurd rfl hk
    | _ => rfl

mutual

lemma tokens_congr {e : Expression} (h : ∀ out ∈ e.patternOutputs, out.value? rs = out.value? rs') (depth : Nat) :
    e.tokens rs depth = e.tokens rs' depth := by
  cases e with
  | comparison keyword column operands => rw [tokens, tokens, ofKeyword?_congr h]
  | scope connective items =>
    rw [patternOutputs] at h
    rw [tokens, tokens, tokensOfAll_congr h]
  | negation item =>
    rw [patternOutputs] at h
    rw [tokens, tokens, tokens_congr h]

lemma tokensOfAll_congr {es : List Expression}
    (h : ∀ out ∈ patternOutputsOfAll es, out.value? rs = out.value? rs') (depth : Nat) :
    tokensOfAll rs depth es = tokensOfAll rs' depth es := by
  cases es with
  | nil => rfl
  | cons e es =>
    rw [patternOutputsOfAll] at h
    rw [tokensOfAll, tokensOfAll, tokens_congr fun out hm => h out (List.mem_append_left _ hm),
      tokensOfAll_congr fun out hm => h out (List.mem_append_right _ hm)]

end

end Expression

inductive Action where
  | push (e : Expression)
  | token (t : Token)
  | record (name : String) (v : Value)
  | test (tracing : Bool) (row : Row)

structure Bench where
  results : Results
  conditions : CachedConditions

namespace Bench

def start : Bench := ⟨[], .empty⟩

def step (b : Bench) : Action → Bench
  | .push e =>
    match b.conditions.push b.results e with
    | .ok c => { b with conditions := c }
    | .error _ => b
  | .token t => { b with conditions := b.conditions.pushToken t }
  | .record name v => { b with results := (b.results.record name v).2 }
  | .test tracing row => { b with conditions := (b.conditions.test b.results tracing row).2 }

def run (actions : List Action) : Bench := actions.foldl step start

def passes (actions : List Action) (tracing : Bool) (row : Row) : Bool :=
  ((run actions).conditions.test (run actions).results tracing row).1

end Bench

def Conditions.after (rs : Results) (c : Conditions) : Action → Conditions
  | .push e => (c.push rs e).toOption.getD c
  | .token t => c.pushToken t
  | _ => c

def Conditions.ofActions (rs : Results) (actions : List Action) : Conditions :=
  actions.foldl (Conditions.after rs) .empty

namespace CachedConditions

lemma conditions_append (c : CachedConditions) (ts : List Token) :
    (c.append ts).conditions = c.conditions.append ts := by
  rw [append]
  split
  · next he => rw [List.isEmpty_iff.mp he, Conditions.append_nil]
  · rfl

end CachedConditions

namespace Bench

lemma step_push (b : Bench) (e : Expression) :
    (b.step (.push e)).results = b.results ∧
      (b.step (.push e)).conditions.conditions = b.conditions.conditions.after b.results (.push e) := by
  rw [step, CachedConditions.push, Conditions.after, Conditions.push]
  cases e.tokens b.results 0 with
  | error e => exact ⟨rfl, rfl⟩
  | ok ts => exact ⟨rfl, b.conditions.conditions_append ts⟩

lemma grows_step (b : Bench) (action : Action) : b.results.Grows (b.step action).results := by
  cases action with
  | push e => rw [(b.step_push e).1]; exact .refl _
  | token t => exact .refl _
  | record name v => exact .record _ name v
  | test tracing row => exact .refl _

lemma grows_foldl (b : Bench) (actions : List Action) : b.results.Grows (actions.foldl step b).results := by
  induction actions generalizing b with
  | nil => exact .refl _
  | cons action actions ih => exact (b.grows_step action).trans (ih _)

lemma sound_step {b : Bench} (h : b.conditions.Sound b.results) (action : Action) :
    (b.step action).conditions.Sound (b.step action).results := by
  cases action with
  | push e =>
    rw [step, CachedConditions.push]
    cases e.tokens b.results 0 with
    | error e => exact h
    | ok ts => exact h.append ts
  | token t => exact h.append [t]
  | record name v => exact h.mono (.record _ name v)
  | test tracing row => exact (h.test_eq tracing row).2.1

lemma sound_foldl {b : Bench} (h : b.conditions.Sound b.results) (actions : List Action) :
    (actions.foldl step b).conditions.Sound (actions.foldl step b).results := by
  induction actions generalizing b with
  | nil => exact h
  | cons action actions ih => exact ih (sound_step h action)

def SettledBy (rs rs' : Results) (action : Action) : Prop :=
  ∀ e, action = .push e → ∀ out ∈ e.patternOutputs, out.isReady rs' = true → out.isReady rs = true

lemma conditions_step {b : Bench} {rs : Results} (hg : b.results.Grows rs) {action : Action}
    (h : SettledBy b.results rs action) :
    (b.step action).conditions.conditions = b.conditions.conditions.after rs action := by
  cases action with
  | push e =>
    -- a sub-query that the pattern is read from was ready at the push, or is not ready in the end
    have hvalue : ∀ out ∈ e.patternOutputs, out.value? b.results = out.value? rs := by
      intro out hm
      by_cases hr : out.isReady b.results = true
      · exact (hg.value? hr).symm
      · have hr' : ¬ out.isReady rs = true := fun hc => hr (h e rfl out hm hc)
        rw [Option.not_isSome_iff_eq_none.mp hr, Option.not_isSome_iff_eq_none.mp hr']
    rw [(b.step_push e).2, Conditions.after, Conditions.after, Conditions.push, Conditions.push,
      Expression.tokens_congr hvalue]
  | token t => exact b.conditions.conditions_append [t]
  | record name v => rfl
  | test tracing row => rfl

lemma conditions_foldl {b : Bench} {actions : List Action} {rs : Results} (hrs : (actions.foldl step b).results = rs)
    (h : ∀ i, ∀ action ∈ actions[i]?, SettledBy ((actions.take i).foldl step b).results rs action) :
    (actions.foldl step b).conditions.conditions = actions.foldl (Conditions.after rs) b.conditions.conditions := by
  induction actions generalizing b with
  | nil => rfl
  | cons action actions ih =>
    have hg : b.results.Grows rs := hrs ▸ b.grows_foldl (action :: actions)
    rw [List.foldl_cons, List.foldl_cons, ← conditions_step hg (h 0 action rfl)]
    exact ih hrs fun i => h (i + 1)

/-- No sub-query that a pushed pattern is read from has been recorded after the push. -/
def Settled (actions : List Action) : Prop :=
  ∀ i, ∀ action ∈ actions[i]?, SettledBy (run (actions.take i)).results (run actions).results action

theorem passes_afresh (actions : List Action) (tracing : Bool) (row : Row) :
    passes actions tracing row = (run actions).conditions.conditions.test (run actions).results row ∧
      (Settled actions →
        passes actions tracing row =
          (Conditions.ofActions (run actions).results actions).test (run actions).results row) := by
  have hs : (run actions).conditions.Sound (run actions).results := sound_foldl (.empty _) actions
  have heq := (hs.test_eq tracing row).1
  refine ⟨heq, fun h => heq.trans ?_⟩
  rw [run, conditions_foldl rfl h]
  rfl

def ann : Row := .ofValue (.named "users") "u1" (.object [("name", .string "Ann")])

def nameBy (keyword : Keyword) (operands : List Operand) : Action :=
  .push (.comparison keyword (.ofTable (.named "users") "name") operands)

def namesAwaited : List Action :=
  [.record "pattern" (.string "A%"), nameBy .like [.output (.slot "pattern")],
    nameBy .isIn [.scope .or [.value (.string "Bob"), .output (.slot "names")]], .test false ann,
    .record "names" (.array [.string "Eve", .string "Ann"])]

theorem passes_afresh_awaited :
    Settled namesAwaited ∧ passes (namesAwaited.take 4) false ann = false ∧ passes namesAwaited false ann = true ∧
      (Conditions.ofActions (run namesAwaited).results namesAwaited).test (run namesAwaited).results ann = true := by
  have hs : Settled namesAwaited := by
    intro i action hi e he out hm hr
    subst he
    rcases i with _ | _ | _ | _ | _ | i
    · cases hi
    · cases hi
      cases List.mem_singleton.mp hm
      rfl
    · cases hi
      cases hm
    · cases hi
    · cases hi
    · cases hi
  have hp : passes namesAwaited false ann = true := by decide +kernel
  exact ⟨hs, by decide +kernel, hp, ((passes_afresh namesAwaited false ann).2 hs).symm.trans hp⟩

/-- A pattern and a value that are recorded after the push: the value is seen, the pattern is not. -/
theorem passes_outdated :
    let like := [nameBy .like [.output (.slot "q")], .record "q" (.string "A%")]
    let equal := [nameBy .eq [.output (.slot "q")], .record "q" (.string "Ann")]
    (passes like false ann = false ∧
      (Conditions.ofActions (run like).results like).test (run like).results ann = true) ∧
      passes equal false ann = true := by
  decide +kernel

end Bench

end DocQuery
