import DocQuery.Proofs.Plan.Building
import DocQuery.Proofs.Plan.Keychains

/-! Which operands `IN` and `BETWEEN` compare with which columns. The walk over a keychain numbers its columns as
they are counted, from left to right, whatever scopes are around them and whichever are empty. Operands that are
dealt out in portions, one for each column, are so all dealt out, each once, and none is missing. -/

namespace DocQuery

namespace Key

mutual

def depth : Key → Nat
  | column _ => 0
  | scope _ items => depthOfAll items + 1

def depthOfAll : List Key → Nat
  | [] => 0
  | k :: ks => max (depth k) (depthOfAll ks)

end

end Key

namespace Expression

mutual

def comparisons : Expression → List (Keyword × Column × List Operand)
  | comparison keyword c operands => [(keyword, c, operands)]
  | scope _ items => comparisonsOfAll items
  | negation item => comparisons item

def comparisonsOfAll : List Expression → List (Keyword × Column × List Operand)
  | [] => []
  | e :: es => comparisons e ++ comparisonsOfAll es

end

lemma comparisonsOfAll_append (es fs : List Expression) :
    comparisonsOfAll (es ++ fs) = comparisonsOfAll es ++ comparisonsOfAll fs := by
  induction es with
  | nil => rfl
  | cons e es ih => rw [List.cons_append, comparisonsOfAll, comparisonsOfAll, ih, List.append_assoc]

section

variable {made : Results} {fault : Error}

mutual

lemma tokens_eq_error {e : Expression} {depth : Nat} (h : e.tokens made depth = .error fault) :
    fault = .nesting maxNesting ∨ ∃ keyword, fault = .noComparison keyword := by
  by_cases hd : depth > maxNesting
  · rw [tokens.eq_def, if_pos hd] at h
    exact .inl (Except.error.inj h).symm
  · cases e with
    | comparison keyword c operands =>
      rw [tokens, if_neg hd] at h
      split at h
      · cases h
      · exact .inr ⟨keyword, (Except.error.inj h).symm⟩
    | scope connective items =>
      rw [tokens, if_neg hd] at h
      exact tokensOfAll_eq_error (Except.map_eq_error h)
    | negation item =>
      rw [tokens, if_neg hd] at h
      rcases Except.bind_eq_error h with hi | ⟨ts, _, hi⟩
      · exact tokens_eq_error hi
      · cases hi

lemma tokensOfAll_eq_error {es : List Expression} {depth : Nat} (h : tokensOfAll made depth es = .error fault) :
    fault = .nesting maxNesting ∨ ∃ keyword, fault = .noComparison keyword := by
  cases es with
  | nil => cases h
  | cons e es =>
    rw [tokensOfAll] at h
    rcases Except.bind_eq_error h with he | ⟨ts, _, h⟩
    · exact tokens_eq_error he
    · rcases Except.bind_eq_error h with hr | ⟨tss, _, h⟩
      · exact tokensOfAll_eq_error hr
      · cases h

end

end

end Expression

namespace Keychain

open Expression (comparisonsOfAll comparisonsOfAll_append)

lemma gathers_comparisons : Gathers comparisonsOfAll := ⟨comparisonsOfAll_append, fun _ _ => List.append_nil _⟩

/-! The numbers of columns go on where they stopped, so leaves are asked for no others. -/

section

variable {leaf leaf' : Nat → Column → Except Error Expression}

lemma Chain.index_add (c : Chain) (connective : Connective) (e : Option Expression) (index : Nat) :
    (c.add connective e index).index = index := by
  unfold add
  split
  · rfl
  · split <;> rfl

mutual

lemma index_ofKey {connective before : Connective} {depth index after : Nat} {k : Key} {e : Option Expression}
    (h : ofKey leaf connective depth index k = .ok (before, e, after)) : after = index + k.columns.length := by
  cases k with
  | column c =>
    obtain ⟨e, _, hx⟩ := ofKey_column h
    cases hx
    rfl
  | scope own items =>
    obtain ⟨c, hc, hx⟩ := ofKey_scope h
    cases hx
    exact index_ofKeys hc

lemma index_ofKeys {connective : Connective} {depth : Nat} {chain chain' : Chain} {ks : List Key}
    (h : ofKeys leaf connective depth chain ks = .ok chain') :
    chain'.index = chain.index + (Key.columnsOfAll ks).length := by
  cases ks with
  | nil =>
    cases h
    rfl
  | cons k ks =>
    obtain ⟨before, e, index, hk, h⟩ := ofKeys_cons h
    rw [index_ofKeys h, Chain.index_add, index_ofKey hk, Key.columnsOfAll, List.length_append, Nat.add_assoc]

end

mutual

lemma ofKey_congr {connective : Connective} {depth index : Nat} {k : Key}
    (hl : ∀ c i, (c, i) ∈ k.columns.zipIdx index → leaf i c = leaf' i c) :
    ofKey leaf connective depth index k = ofKey leaf' connective depth index k := by
  cases k with
  | column c => rw [ofKey, ofKey, hl c index (by simp [Key.columns])]
  | scope own items =>
    rw [Key.columns] at hl
    have hi : ofKeys leaf own (depth + 1) (.start index) items = ofKeys leaf' own (depth + 1) (.start index) items :=
      ofKeys_congr hl
    rw [ofKey, ofKey, hi]

lemma ofKeys_congr {connective : Connective} {depth : Nat} {chain : Chain} {ks : List Key}
    (hl : ∀ c i, (c, i) ∈ (Key.columnsOfAll ks).zipIdx chain.index → leaf i c = leaf' i c) :
    ofKeys leaf connective depth chain ks = ofKeys leaf' connective depth chain ks := by
  cases ks with
  | nil => rfl
  | cons k ks =>
    simp only [Key.columnsOfAll, List.zipIdx_append, List.mem_append] at hl
    rw [ofKeys, ofKeys, ← ofKey_congr fun c i hm => hl c i (.inl hm)]
    cases hk : ofKey leaf connective depth chain.index k with
    | error fault => rfl
    | ok x =>
      obtain ⟨before, e, index⟩ := x
      refine ofKeys_congr fun c i hm => hl c i (.inr ?_)
      rwa [Chain.index_add, index_ofKey hk] at hm

end

lemma expression?_congr {keys : List Key} (hl : ∀ c i, (c, i) ∈ (Key.columnsOfAll keys).zipIdx → leaf i c = leaf' i c) :
    expression? leaf keys = expression? leaf' keys := by
  rw [expression?, expression?, ofKeys_congr hl]

end

/-! With leaves that never fail a keychain fails for its depth alone. -/

section

def Total (leaf : Nat → Column → Except Error Expression) : Prop := ∀ i c, ∃ e, leaf i c = .ok e

variable {leaf : Nat → Column → Except Error Expression}

mutual

lemma ofKey_of_shallow (hl : Total leaf) {connective : Connective} {depth index : Nat} {k : Key}
    (hd : depth + k.depth ≤ maxNesting) :
    ∃ x, ofKey leaf connective depth index k = .ok x := by
  cases k with
  | column c =>
    obtain ⟨e, he⟩ := hl index c
    exact ⟨_, by rw [ofKey, he]; rfl⟩
  | scope own items =>
    rw [Key.depth] at hd
    obtain ⟨c, hc⟩ : ∃ c, ofKeys leaf own (depth + 1) (.start index) items = .ok c := ofKeys_of_shallow hl (by omega)
    exact ⟨_, by rw [ofKey, if_neg (by omega), hc]; rfl⟩

lemma ofKeys_of_shallow (hl : Total leaf) {connective : Connective} {depth : Nat} {chain : Chain} {ks : List Key}
    (hd : depth + Key.depthOfAll ks ≤ maxNesting) : ∃ chain', ofKeys leaf connective depth chain ks = .ok chain' := by
  cases ks with
  | nil => exact ⟨chain, rfl⟩
  | cons k ks =>
    rw [Key.depthOfAll] at hd
    obtain ⟨⟨before, e, index⟩, hk⟩ : ∃ x, ofKey leaf connective depth chain.index k = .ok x :=
      ofKey_of_shallow hl (by omega)
    rw [ofKeys, hk]
    exact ofKeys_of_shallow hl (by omega)

end

mutual

lemma ofKey_of_deep (hl : Total leaf) {connective : Connective} {depth index : Nat} {k : Key} (h : depth ≤ maxNesting)
    (hd : maxNesting < depth + k.depth) : ofKey leaf connective depth index k = .error (.nesting maxNesting) := by
  cases k with
  | column c =>
    rw [Key.depth] at hd
    omega
  | scope own items =>
    rw [Key.depth] at hd
    rw [ofKey]
    split
    · rfl
    · rw [ofKeys_of_deep hl (by omega) (by omega)]
      rfl

lemma ofKeys_of_deep (hl : Total leaf) {connective : Connective} {depth : Nat} {chain : Chain} {ks : List Key}
    (h : depth ≤ maxNesting) (hd : maxNesting < depth + Key.depthOfAll ks) :
    ofKeys leaf connective depth chain ks = .error (.nesting maxNesting) := by
  cases ks with
  | nil =>
    rw [Key.depthOfAll] at hd
    omega
  | cons k ks =>
    rw [Key.depthOfAll] at hd
    rw [ofKeys]
    by_cases hk : depth + k.depth ≤ maxNesting
    · obtain ⟨⟨before, e, index⟩, hx⟩ : ∃ x, ofKey leaf connective depth chain.index k = .ok x :=
        ofKey_of_shallow hl hk
      rw [hx]
      exact ofKeys_of_deep hl h (by omega)
    · rw [ofKey_of_deep hl h (by omega)]
      rfl

end

end

section

variable {leaf : Nat → Column → Except Error Expression}

lemma expression?_of_shallow (hl : Total leaf) {keys : List Key} (hk : Key.columnsOfAll keys ≠ [])
    (hd : Key.depthOfAll keys ≤ maxNesting) : ∃ e, expression? leaf keys = .ok (some e) := by
  obtain ⟨chain, hc⟩ : ∃ c, ofKeys leaf .and 0 (.start 0) keys = .ok c := ofKeys_of_shallow hl (by omega)
  cases he : chain.expression? with
  | none => exact absurd ((isBare_ofKeys hc).mp (chain.expression?_eq_none_iff.mp he)).2 hk
  | some e => exact ⟨e, by rw [expression?, hc, Except.map, he]⟩

lemma expression?_of_deep (hl : Total leaf) {keys : List Key} (hd : maxNesting < Key.depthOfAll keys) :
    expression? leaf keys = .error (.nesting maxNesting) := by
  rw [expression?, ofKeys_of_deep hl (Nat.zero_le _) (by omega)]
  rfl

end

section

variable (keyword : Keyword) (share : Nat → List Operand)

def sharing (i : Nat) (c : Column) : Except Error Expression := .ok (.comparison keyword c (share i))

lemma total_sharing : Total (sharing keyword share) := fun _ _ => ⟨_, rfl⟩

variable {keyword share}

mutual

lemma comparisons_ofKey {connective before : Connective} {depth index after : Nat} {k : Key} {e : Option Expression}
    (h : ofKey (sharing keyword share) connective depth index k = .ok (before, e, after)) :
    comparisonsOfAll e.toList = (k.columns.zipIdx index).map fun x => (keyword, x.1, share x.2) := by
  cases k with
  | column c =>
    obtain ⟨e, he, hx⟩ := ofKey_column h
    cases he
    cases hx
    rfl
  | scope own items =>
    obtain ⟨c, hc, hx⟩ := ofKey_scope h
    cases hx
    rw [gathers_comparisons.expression?, comparisons_ofKeys hc]
    rfl

lemma comparisons_ofKeys {connective : Connective} {depth : Nat} {chain chain' : Chain} {ks : List Key}
    (h : ofKeys (sharing keyword share) connective depth chain ks = .ok chain') :
    comparisonsOfAll chain'.terms ++ comparisonsOfAll chain'.factors =
      comparisonsOfAll chain.terms ++ comparisonsOfAll chain.factors ++
        ((Key.columnsOfAll ks).zipIdx chain.index).map fun x => (keyword, x.1, share x.2) := by
  cases ks with
  | nil =>
    cases h
    exact (List.append_nil _).symm
  | cons k ks =>
    obtain ⟨before, e, index, hk, h⟩ := ofKeys_cons h
    rw [comparisons_ofKeys h, gathers_comparisons.add, comparisons_ofKey hk, Chain.index_add, index_ofKey hk,
      Key.columnsOfAll, List.zipIdx_append, List.map_append, List.append_assoc]

end

lemma comparisons_expression? {keys : List Key} {e : Expression}
    (h : expression? (sharing keyword share) keys = .ok (some e)) :
    e.comparisons = (Key.columnsOfAll keys).zipIdx.map fun x => (keyword, x.1, share x.2) := by
  obtain ⟨c, hc, he⟩ := Except.map_eq_ok h
  have hg := gathers_comparisons.expression? c
  rw [comparisons_ofKeys hc, he, Option.toList_some, comparisonsOfAll, comparisonsOfAll, List.append_nil] at hg
  exact hg

end

def portion (width : Nat) (operands : List Operand) (i : Nat) : List Operand :=
  (operands.drop (width * i)).take width

lemma flatMap_portion (width n : Nat) (operands : List Operand) :
    (List.range n).flatMap (portion width operands) = operands.take (width * n) := by
  induction n with
  | zero => simp
  | succ n ih => rw [List.range_succ, List.flatMap_append, ih, Nat.mul_succ, List.take_add, List.flatMap_singleton,
      portion]

def PairsMembers (count : Nat) (operands : List Operand) : Prop :=
  1 < count ∧ operands.length = count ∧ ∀ o ∈ operands, isList o = true

def PairsBounds (count : Nat) (operands : List Operand) : Prop :=
  operands.length ≠ 2 ∧ operands.length = 2 * count

lemma memberOperands_of_pairs {count : Nat} {operands : List Operand} (h : PairsMembers count operands) :
    memberOperands count operands = portion 1 operands := by
  obtain ⟨hc, hn, hl⟩ := h
  funext i
  rw [memberOperands, if_pos (by simpa [hc, hn] using hl), portion, List.take_one, List.head?_drop, Nat.one_mul]

lemma memberOperands_of_not_pairs {count : Nat} {operands : List Operand} (h : ¬ PairsMembers count operands) :
    memberOperands count operands = fun _ => operands := by
  funext i
  rw [memberOperands, if_neg]
  intro hp
  simp only [Bool.and_eq_true, decide_eq_true_eq, beq_iff_eq, List.all_eq_true] at hp
  exact h ⟨hp.1.1, hp.1.2, hp.2⟩

lemma bounds_of_pairs {count : Nat} {operands : List Operand} (h : PairsBounds count operands) :
    bounds operands = portion 2 operands := by
  funext i
  rw [bounds, if_neg h.1, portion]

end Keychain

namespace Builder

open Keychain

structure DealtOut (keyword : Keyword) (width : Nat) (columns : List Column) (operands : List Operand)
    (e : Expression) : Prop where
  comparisons : e.comparisons = columns.zipIdx.map fun x => (keyword, x.1, portion width operands x.2)
  once : e.comparisons.flatMap (·.2.2) = operands

lemma dealtOut {keyword : Keyword} {width : Nat} {keys : List Key} {operands : List Operand} {e : Expression}
    (h : expression? (sharing keyword (portion width operands)) keys = .ok (some e))
    (hn : operands.length = width * (Key.columnsOfAll keys).length) :
    DealtOut keyword width (Key.columnsOfAll keys) operands e := by
  have hc := comparisons_expression? h
  refine ⟨hc, ?_⟩
  calc e.comparisons.flatMap (·.2.2)
    _ = (((Key.columnsOfAll keys).zipIdx).map Prod.snd).flatMap (portion width operands) := by
      rw [hc, List.flatMap_map, List.flatMap_map]
    _ = (List.range (Key.columnsOfAll keys).length).flatMap (portion width operands) := by
      rw [List.zipIdx_map_snd, List.range_eq_range']
    _ = operands := by rw [flatMap_portion, ← hn, List.take_length]

section

variable {made : Results} {keyword : Keyword} {args : List Arg} {operands : List Operand} {b : Builder}

lemma run_pushLeaves_of_ok {keys : List Key} {leaf : Nat → Column → Except Error Expression} {e : Option Expression}
    (h : expression? leaf keys = .ok e) : (pushLeaves made keys leaf).run b = (pushExpression made e).run b := by
  rw [pushLeaves, h]
  rfl

lemma run_pushLeaves_of_error {keys : List Key} {leaf : Nat → Column → Except Error Expression} {fault : Error}
    (h : expression? leaf keys = .error fault) : (pushLeaves made keys leaf).run b = (.error fault, b) := by
  rw [pushLeaves, h]
  rfl

lemma pushExpression_ne_malformed (e : Option Expression) (fault : PlanFault) :
    ((pushExpression made e).run b).1 ≠ .error (.malformed fault) := by
  intro h
  cases e with
  | none => cases h
  | some e =>
    cases hp : b.target.push made e with
    | ok c =>
      have hr : ((pushExpression made (some e)).run b).1 = .ok () := by
        rw [pushExpression, run_bind_of_ok (m := get) rfl, hp]
        rfl
      rw [hr] at h
      cases h
    | error fault' =>
      have hr : ((pushExpression made (some e)).run b).1 = .error fault' := by
        rw [pushExpression, run_bind_of_ok (m := get) rfl, hp]
        rfl
      rw [hr] at h
      cases h
      rcases Expression.tokens_eq_error (Except.map_eq_error hp) with h | ⟨_, h⟩ <;> cases h

variable (made keyword args operands b)

/-- What an operation does that deals `width` operands to each column if `paired` holds, and gives all operands to all
columns if not. -/
structure Deals (width : Nat) (paired : Prop) : Prop where
  inside : paired → ∀ outside : Except Error Expression, (perform made keyword args).run b =
    (pushLeaves made b.keychain fun i c => if width * i + width ≤ operands.length then
      .ok (.comparison keyword c (portion width operands i)) else outside).run b
  pairs : paired → Key.depthOfAll b.keychain ≤ maxNesting → ∃ e,
    (perform made keyword args).run b = (pushExpression made (some e)).run b ∧
      DealtOut keyword width (Key.columnsOfAll b.keychain) operands e
  shares : ¬ paired → Key.depthOfAll b.keychain ≤ maxNesting → ∃ e,
    (perform made keyword args).run b = (pushExpression made (some e)).run b ∧
      e.comparisons = (Key.columnsOfAll b.keychain).map fun c => (keyword, c, operands)
  deep : maxNesting < Key.depthOfAll b.keychain →
    (perform made keyword args).run b = (.error (.nesting maxNesting), b)

variable {made keyword args operands b}

lemma deals {share : Nat → List Operand} {width : Nat} {paired : Prop} (hk : Key.columnsOfAll b.keychain ≠ [])
    (hr : (perform made keyword args).run b = (pushLeaves made b.keychain (sharing keyword share)).run b)
    (hp : paired → share = portion width operands ∧ operands.length = width * (Key.columnsOfAll b.keychain).length)
    (hs : ¬ paired → share = fun _ => operands) : Deals made keyword args operands b width paired where
  inside h outside := by
    obtain ⟨rfl, hn⟩ := hp h
    have hleaf : ∀ c i, (c, i) ∈ (Key.columnsOfAll b.keychain).zipIdx →
        sharing keyword (portion width operands) i c = if width * i + width ≤ operands.length then
          .ok (.comparison keyword c (portion width operands i)) else outside := by
      intro c i hm
      have hi : i < (Key.columnsOfAll b.keychain).length := List.snd_lt_of_mem_zipIdx hm
      have hw : width * i + width ≤ operands.length := by
        rw [hn, ← Nat.mul_succ]
        exact Nat.mul_le_mul_left width hi
      rw [if_pos hw, sharing]
    rw [hr, pushLeaves, pushLeaves, expression?_congr hleaf]
  pairs h hd := by
    obtain ⟨rfl, hn⟩ := hp h
    obtain ⟨e, he⟩ := expression?_of_shallow (total_sharing keyword (portion width operands)) hk hd
    exact ⟨e, hr.trans (run_pushLeaves_of_ok he), dealtOut he hn⟩
  shares h hd := by
    obtain rfl := hs h
    obtain ⟨e, he⟩ := expression?_of_shallow (total_sharing keyword fun _ => operands) hk hd
    refine ⟨e, hr.trans (run_pushLeaves_of_ok he), ?_⟩
    calc e.comparisons
      _ = ((Key.columnsOfAll b.keychain).zipIdx.map Prod.fst).map fun c => (keyword, c, operands) := by
        rw [comparisons_expression? he, List.map_map]
        rfl
      _ = (Key.columnsOfAll b.keychain).map fun c => (keyword, c, operands) := by rw [List.zipIdx_map_fst]
  deep hd := hr.trans (run_pushLeaves_of_error (expression?_of_deep (total_sharing keyword share) hd))

theorem run_members_and_bounds (hk : Key.columnsOfAll b.keychain ≠ []) (ho : Operand.ofArgs 0 args = .ok operands) :
    Deals made .isIn args operands b 1 (PairsMembers (Key.columnsOfAll b.keychain).length operands) ∧
    (operands.length = 2 ∨ operands.length = 2 * (Key.columnsOfAll b.keychain).length →
      Deals made .between args operands b 2 (PairsBounds (Key.columnsOfAll b.keychain).length operands)) ∧
    (operands.length ≠ 2 → operands.length ≠ 2 * (Key.columnsOfAll b.keychain).length →
      (perform made .between args).run b =
        (.error (.malformed (.betweenBounds (2 * (Key.columnsOfAll b.keychain).length) operands.length)), b)) ∧
    ((∃ fault, ((perform made .between args).run b).1 = .error (.malformed fault)) ↔
      operands.length ≠ 2 ∧ operands.length ≠ 2 * (Key.columnsOfAll b.keychain).length) := by
  have hne : b.keychain ≠ [] := fun h => hk (by rw [h]; rfl)
  have hin : (perform made .isIn args).run b = (pushLeaves made b.keychain
      (sharing .isIn (memberOperands (Key.columnsOfAll b.keychain).length operands))).run b :=
    run_comparison hne ho
  have hbetween : (perform made .between args).run b =
      (if operands.length = 2 ∨ operands.length = 2 * (Key.columnsOfAll b.keychain).length then
        pushLeaves made b.keychain (sharing .between (bounds operands))
      else malformed (.betweenBounds (2 * (Key.columnsOfAll b.keychain).length) operands.length)).run b :=
    run_comparison hne ho
  have hrefused (h2 : operands.length ≠ 2) (hn : operands.length ≠ 2 * (Key.columnsOfAll b.keychain).length) :
      (perform made .between args).run b =
        (.error (.malformed (.betweenBounds (2 * (Key.columnsOfAll b.keychain).length) operands.length)), b) := by
    rw [hbetween, if_neg (not_or.mpr ⟨h2, hn⟩)]
    rfl
  refine ⟨deals hk hin (fun h => ⟨memberOperands_of_pairs h, ?_⟩) memberOperands_of_not_pairs, fun h => ?_, hrefused,
    ⟨?_, fun h => ⟨_, congrArg Prod.fst (hrefused h.1 h.2)⟩⟩⟩
  · rw [Nat.one_mul]
    exact h.2.1
  · rw [if_pos h] at hbetween
    refine deals hk hbetween (fun hp => ⟨bounds_of_pairs hp, hp.2⟩) fun hp => ?_
    have h2 : operands.length = 2 := Decidable.byContradiction fun h2 => hp ⟨h2, h.resolve_left h2⟩
    funext i
    rw [bounds, if_pos h2]
  · rintro ⟨fault, hf⟩
    refine not_or.mp fun h => ?_
    rw [hbetween, if_pos h] at hf
    by_cases hd : maxNesting < Key.depthOfAll b.keychain
    · rw [run_pushLeaves_of_error (expression?_of_deep (total_sharing _ _) hd)] at hf
      cases hf
    · obtain ⟨e, he⟩ := expression?_of_shallow (total_sharing .between (bounds operands)) hk (Nat.le_of_not_lt hd)
      rw [run_pushLeaves_of_ok he] at hf
      exact pushExpression_ne_malformed _ fault hf

theorem run_members_and_bounds_scoped :
    let b : Builder := { empty with
      keychain := [.column (.named "low"), .scope .or [.scope .and [], .column (.named "high")]] }
    let operands : List Operand :=
      [.value (.string "a"), .value (.string "b"), .value (.string "c"), .value (.string "d")]
    Key.columnsOfAll b.keychain ≠ [] ∧
    Operand.ofArgs 0 [.value (.string "a"), .value (.string "b"), .value (.string "c"), .value (.string "d")] =
      .ok operands ∧
    ∃ e, (perform [] .between [.value (.string "a"), .value (.string "b"), .value (.string "c"),
        .value (.string "d")]).run b = (pushExpression [] (some e)).run b ∧
      e.comparisons = [(.between, .named "low", [.value (.string "a"), .value (.string "b")]),
        (.between, .named "high", [.value (.string "c"), .value (.string "d")])] := by
  intro b operands
  have hk : Key.columnsOfAll b.keychain ≠ [] := List.cons_ne_nil _ _
  have ho : Operand.ofArgs 0 [.value (.string "a"), .value (.string "b"), .value (.string "c"),
    .value (.string "d")] = .ok operands := rfl
  obtain ⟨-, hd, -, -⟩ := @run_members_and_bounds [] _ operands b hk ho
  obtain ⟨e, hr, he⟩ := (hd (.inr rfl)).pairs ⟨by decide, rfl⟩ (by decide)
  exact ⟨hk, ho, e, hr, he.comparisons⟩

end

end Builder

end DocQuery
