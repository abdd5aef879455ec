import DocQuery.Plan.Builder
import DocQuery.Proofs.Condition.Columns

namespace DocQuery

namespace Arg

def table? : Arg → Option Table
  | table t => some t
  | value v => v.string?.map Table.read
  | _ => none

mutual

def keyColumns : Arg → List Column
  | scope _ items => keyColumnsOfAll items
  | a => (a.column? .whereKeys).toOption.toList

def keyColumnsOfAll : List Arg → List Column
  | [] => []
  | a :: as => keyColumns a ++ keyColumnsOfAll as

end

def sortColumn? : Arg → Option Column
  | value v => v.string?.bind fun s => (Text.words s.toList).head?.map fun w => Column.read (String.ofList w)
  | column c => some c
  | _ => none

end Arg

namespace Key

mutual

lemma columns_ofArg {table : Option Table} {depth : Nat} {a : Arg} {k : Key} (h : ofArg table depth a = .ok k) :
    k.columns = a.keyColumns.map (·.inTable table) := by
  have hplain (h : (a.column? .whereKeys).map (fun c => column (c.inTable table)) = .ok k) :
      k.columns = (a.column? .whereKeys).toOption.toList.map (·.inTable table) := by
    obtain ⟨c, hc, rfl⟩ := Except.map_eq_ok h
    rw [hc]
    rfl
  cases a with
  | scope connective items =>
    rw [ofArg] at h
    split at h
    · cases h
    · obtain ⟨ks, hks, rfl⟩ := Except.map_eq_ok h
      rw [columns, columns_ofArgs hks, Arg.keyColumns]
  | _ =>
    simp only [ofArg] at h
    split at h
    · cases h
    · exact hplain h

lemma columns_ofArgs {table : Option Table} {depth : Nat} {args : List Arg} {ks : List Key}
    (h : ofArgs table depth args = .ok ks) :
    columnsOfAll ks = (Arg.keyColumnsOfAll args).map (·.inTable table) := by
  cases args with
  | nil =>
    cases h
    rfl
  | cons a args =>
    rw [ofArgs] at h
    obtain ⟨k, hk, h⟩ := Except.bind_eq_ok h
    obtain ⟨ks', hks, h⟩ := Except.bind_eq_ok h
    cases h
    rw [columnsOfAll, columns_ofArg hk, columns_ofArgs hks, Arg.keyColumnsOfAll, List.map_append]

end

lemma columnsOfAll_append (ks ls : List Key) : columnsOfAll (ks ++ ls) = columnsOfAll ks ++ columnsOfAll ls := by
  induction ks with
  | nil => rfl
  | cons k ks ih => rw [List.cons_append, columnsOfAll, columnsOfAll, ih, List.append_assoc]

end Key

lemma Builder.extendLast_concat (keys ks : List Key) (connective : Connective) (items : List Key) :
    extendLast keys (ks ++ [.scope connective items]) = some (ks ++ [.scope connective (items ++ keys)]) := by
  induction ks with
  | nil => rfl
  | cons k ks ih =>
    obtain ⟨l, ls, hl⟩ := List.exists_cons_of_ne_nil (l := ks ++ [Key.scope connective items]) (by simp)
    rw [List.cons_append, hl, extendLast, ← hl, ih]
    rfl

lemma Builder.columnsOfAll_extendLast {keys ks ks' : List Key} (h : extendLast keys ks = some ks') :
    Key.columnsOfAll ks' = Key.columnsOfAll ks ++ Key.columnsOfAll keys := by
  induction ks generalizing ks' with
  | nil => cases h
  | cons k ks ih =>
    cases ks with
    | nil =>
      cases k with
      | column c => cases h
      | scope connective items =>
        cases h
        simp only [Key.columnsOfAll, Key.columns, Key.columnsOfAll_append, List.append_nil]
    | cons l ks =>
      rw [extendLast] at h
      obtain ⟨ls, hls, rfl⟩ := Option.map_eq_some_iff.mp h
      rw [Key.columnsOfAll, ih hls, ← List.append_assoc]
      rfl

namespace Keychain

open Expression (columnsOfAll columnsOfAll_append)

structure Gathers {α : Type} (f : List Expression → List α) : Prop where
  append : ∀ es fs, f (es ++ fs) = f es ++ f fs
  scope : ∀ connective es, f [.scope connective es] = f es

lemma gathers_columns : Gathers columnsOfAll := ⟨columnsOfAll_append, fun _ _ => List.append_nil _⟩

section

variable {α : Type} {f : List Expression → List α} (hf : Gathers f)

include hf

lemma Gathers.nil : f [] = [] := List.self_eq_append_left.mp (hf.append [] [])

lemma Gathers.joined (connective : Connective) (es : List Expression) : f (joined connective es).toList = f es := by
  match es with
  | [] => rfl
  | [e] => rfl
  | e :: e' :: es => exact hf.scope connective _

lemma Gathers.add (c : Chain) (connective : Connective) (e : Option Expression) (index : Nat) :
    f (c.add connective e index).terms ++ f (c.add connective e index).factors =
      f c.terms ++ f c.factors ++ f e.toList := by
  cases e with
  | none =>
    rw [Option.toList_none, hf.nil, List.append_nil]
    rfl
  | some e =>
    unfold Chain.add
    dsimp only
    split
    · next h =>
      rw [hf.append, hf.joined, h]
      rfl
    · rw [hf.append, List.append_assoc]
      rfl

lemma Gathers.expression? (c : Chain) : f c.expression?.toList = f c.terms ++ f c.factors := by
  rw [Chain.expression?, hf.joined, hf.append, hf.joined]

end

def Chain.columns (c : Chain) : List Column := columnsOfAll c.terms ++ columnsOfAll c.factors

lemma Chain.columns_add (c : Chain) (connective : Connective) (e : Option Expression) (index : Nat) :
    (c.add connective e index).columns = c.columns ++ columnsOfAll e.toList :=
  gathers_columns.add c connective e index

lemma Chain.columns_expression? (c : Chain) : columnsOfAll c.expression?.toList = c.columns :=
  gathers_columns.expression? c

def Faithful (leaf : Nat → Column → Except Error Expression) : Prop :=
  ∀ {i c e}, leaf i c = .ok e → e.columns ⊆ [c]

variable {leaf : Nat → Column → Except Error Expression} {connective : Connective} {depth index : Nat}

lemma ofKey_column {c : Column} {x : Connective × Option Expression × Nat}
    (h : ofKey leaf connective depth index (.column c) = .ok x) :
    ∃ e, leaf index c = .ok e ∧ x = (connective, some e, index + 1) := by
  rw [ofKey] at h
  obtain ⟨e, he, rfl⟩ := Except.map_eq_ok h
  exact ⟨e, he, rfl⟩

lemma ofKey_scope {own : Connective} {items : List Key} {x : Connective × Option Expression × Nat}
    (h : ofKey leaf connective depth index (.scope own items) = .ok x) :
    ∃ c, ofKeys leaf own (depth + 1) (.start index) items = .ok c ∧ x = (own, c.expression?, c.index) := by
  rw [ofKey] at h
  split at h
  · cases h
  · obtain ⟨c, hc, rfl⟩ := Except.map_eq_ok h
    exact ⟨c, hc, rfl⟩

lemma ofKeys_cons {chain chain' : Chain} {k : Key} {ks : List Key}
    (h : ofKeys leaf connective depth chain (k :: ks) = .ok chain') :
    ∃ before e index, ofKey leaf connective depth chain.index k = .ok (before, e, index) ∧
      ofKeys leaf connective depth (chain.add before e index) ks = .ok chain' := by
  rw [ofKeys] at h
  obtain ⟨⟨before, e, index⟩, hk, h⟩ := Except.bind_eq_ok h
  exact ⟨before, e, index, hk, h⟩

mutual

lemma columns_ofKey (hl : Faithful leaf) {connective before : Connective} {depth index after : Nat} {k : Key}
    {e : Option Expression} (h : ofKey leaf connective depth index k = .ok (before, e, after)) :
    columnsOfAll e.toList ⊆ k.columns := by
  cases k with
  | column c =>
    obtain ⟨e, he, hx⟩ := ofKey_column h
    cases hx
    simpa [columnsOfAll, Key.columns] using hl he
  | scope own items =>
    obtain ⟨c, hc, hx⟩ := ofKey_scope h
    cases hx
    rw [Chain.columns_expression?, Key.columns]
    exact columns_ofKeys hl hc

lemma columns_ofKeys (hl : Faithful leaf) {connective : Connective} {depth : Nat} {chain chain' : Chain}
    {ks : List Key} (h : ofKeys leaf connective depth chain ks = .ok chain') :
    chain'.columns ⊆ chain.columns ++ Key.columnsOfAll ks := by
  cases ks with
  | nil =>
    cases h
    exact List.subset_append_left _ _
  | cons k ks =>
    obtain ⟨before, e, index, hk, h⟩ := ofKeys_cons h
    have hks := columns_ofKeys hl h
    rw [Chain.columns_add] at hks
    intro c hc
    rcases List.mem_append.mp (hks hc) with hc | hc
    · rcases List.mem_append.mp hc with hc | hc
      · exact List.mem_append_left _ hc
      · exact List.mem_append_right _ (List.mem_append_left _ (columns_ofKey hl hk hc))
    · exact List.mem_append_right _ (List.mem_append_right _ hc)

end

lemma columns_expression? (hl : Faithful leaf) {keys : List Key} {e : Option Expression}
    (h : expression? leaf keys = .ok e) : columnsOfAll e.toList ⊆ Key.columnsOfAll keys := by
  obtain ⟨c, hc, rfl⟩ := Except.map_eq_ok h
  rw [Chain.columns_expression?]
  exact columns_ofKeys hl hc

/-! A chain that has met a column makes an expression. -/

lemma joined_eq_none_iff (connective : Connective) (es : List Expression) : joined connective es = none ↔ es = [] := by
  match es with
  | [] => simp [joined]
  | [e] => simp [joined]
  | e :: f :: es => simp [joined]

namespace Chain

def isBare (c : Chain) : Prop := c.terms = [] ∧ c.factors = []

lemma expression?_eq_none_iff (c : Chain) : c.expression? = none ↔ c.isBare := by
  rw [expression?, joined_eq_none_iff, List.append_eq_nil_iff, Option.toList_eq_nil_iff, joined_eq_none_iff, isBare]

lemma isBare_add_iff (c : Chain) (connective : Connective) (e : Option Expression) (index : Nat) :
    (c.add connective e index).isBare ↔ c.isBare ∧ e = none := by
  cases e with
  | none => simp [add, isBare]
  | some e =>
    unfold add
    dsimp only
    split <;> simp [isBare]

end Chain

mutual

lemma ofKey_eq_none_iff {connective before : Connective} {depth index after : Nat} {k : Key} {e : Option Expression}
    (h : ofKey leaf connective depth index k = .ok (before, e, after)) : e = none ↔ k.columns = [] := by
  cases k with
  | column c =>
    obtain ⟨e, _, hx⟩ := ofKey_column h
    cases hx
    simp [Key.columns]
  | scope own items =>
    obtain ⟨c, hc, hx⟩ := ofKey_scope h
    cases hx
    rw [Chain.expression?_eq_none_iff, isBare_ofKeys hc, Key.columns]
    exact and_iff_right ⟨rfl, rfl⟩

lemma isBare_ofKeys {connective : Connective} {depth : Nat} {chain chain' : Chain} {ks : List Key}
    (h : ofKeys leaf connective depth chain ks = .ok chain') :
    chain'.isBare ↔ chain.isBare ∧ Key.columnsOfAll ks = [] := by
  cases ks with
  | nil =>
    cases h
    exact (and_iff_left rfl).symm
  | cons k ks =>
    obtain ⟨before, e, index, hk, h⟩ := ofKeys_cons h
    rw [isBare_ofKeys h, Chain.isBare_add_iff, ofKey_eq_none_iff hk, Key.columnsOfAll, List.append_eq_nil_iff,
      and_assoc]

end

mutual

lemma columns_comparison {keyword : Keyword} {c : Column} {depth : Nat} {o : Operand} {e : Expression}
    (h : comparison keyword c depth o = .ok e) : e.columns ⊆ [c] := by
  cases o with
  | scope connective items =>
    rw [comparison] at h
    obtain ⟨es, hes, rfl⟩ := Except.map_eq_ok h
    exact columns_comparisons hes
  | _ =>
    simp only [comparison] at h
    cases h
    exact Expression.columns_comparison _ _ _

lemma columns_comparisons {keyword : Keyword} {c : Column} {depth : Nat} {os : List Operand} {es : List Expression}
    (h : comparisons keyword c depth os = .ok es) : columnsOfAll es ⊆ [c] := by
  cases os with
  | nil =>
    cases h
    exact List.nil_subset _
  | cons o os =>
    rw [comparisons] at h
    split at h
    · cases h
    · obtain ⟨e, he, h⟩ := Except.bind_eq_ok h
      obtain ⟨es', hes, h⟩ := Except.bind_eq_ok h
      cases h
      exact List.append_subset.mpr ⟨columns_comparison he, columns_comparisons hes⟩

end

lemma faithful_comparison (keyword : Keyword) (operands : Nat → List Operand) :
    Faithful fun i c => .ok (.comparison keyword c (operands i)) := by
  intro i c e h
  cases h
  exact Expression.columns_comparison _ _ _

lemma faithful_anyOf (keyword : Keyword) (operands : List Operand) :
    Faithful fun _ c => anyOf keyword operands c := by
  intro i c e h
  obtain ⟨es, hes, rfl⟩ := Except.map_eq_ok h
  have hes := columns_comparisons hes
  rw [← gathers_columns.joined .or es] at hes
  cases hj : joined .or es with
  | none => exact Expression.columns_comparison _ _ _
  | some e =>
    rw [hj] at hes
    exact (List.append_subset.mp hes).1

end Keychain

end DocQuery
