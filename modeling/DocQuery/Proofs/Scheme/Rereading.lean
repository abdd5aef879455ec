import DocQuery.Proofs.Canonical
import DocQuery.Scheme.Reader
import DocQuery.Scheme.Writer

/-! A scheme is read back from its written form as it was, and all that is read has a written form: whatever the
spelling that a scheme was read from, writing it down and reading it again changes nothing. -/

namespace DocQuery

open Record

namespace Record

lemma list?_of_forall {α : Type} {read : Value → Option α} {write : α → Value} {as : List α}
    (h : ∀ a ∈ as, read (write a) = some a) : list? read (.array (as.map write)) = some as := by
  rw [list?]
  induction as with
  | nil => rfl
  | cons a as ih =>
    rw [List.map_cons, List.mapM_cons, h a List.mem_cons_self, ih fun a hm => h a (List.mem_cons_of_mem _ hm)]
    rfl

lemma forall_of_list? {α : Type} {read : Value → Option α} {motive : α → Prop}
    (h : ∀ v a, read v = some a → motive a) {v : Value} {as : List α} (hr : list? read v = some as) :
    ∀ a ∈ as, motive a := by
  cases v with
  | array items =>
    rw [list?] at hr
    induction items generalizing as with
    | nil =>
      cases hr
      exact fun _ hm => nomatch hm
    | cons v items ih =>
      rw [List.mapM_cons] at hr
      obtain ⟨a, ha, hr⟩ := Option.bind_eq_some_iff.mp hr
      obtain ⟨rest, hrest, hr⟩ := Option.bind_eq_some_iff.mp hr
      cases hr
      exact List.forall_mem_cons.mpr ⟨h v a ha, ih hrest⟩
  | _ => cases hr

lemma forall_of_defaulted {α : Type} {read : Value → Option (List α)} {motive : α → Prop}
    (h : ∀ v as, read v = some as → ∀ a ∈ as, motive a) {field : Option Value} {as : List α}
    (hr : defaulted read [] field = some as) : ∀ a ∈ as, motive a := by
  cases field with
  | none =>
    cases hr
    exact fun _ hm => nomatch hm
  | some v => exact h v as hr

lemma tagged?_ofKind {kinds : List String} {kind : String} {k : Nat} (hk : kinds.idxOf? kind = some k)
    {fields : List (String × Value)} (hf : ∀ f ∈ fields, f.1 ≠ "kind") (inner : Bool) :
    tagged? kinds inner (ofKind kind fields) = some (k, .object fields) := by
  have hnone : fields.filter (·.1 == "kind") = [] :=
    List.filter_eq_nil_iff.mpr fun f hm => by simpa using hf f hm
  have hall : fields.filter (·.1 != "kind") = fields :=
    List.filter_eq_self.mpr fun f hm => by simpa using hf f hm
  rw [ofKind, tagged?, List.filter_cons_of_pos (by rfl), hnone, List.filter_cons_of_neg (by simp), hall]
  exact congrArg (Option.map fun k => (k, Value.object fields)) hk

end Record

lemma Table.ofValue?_toValue (t : Table) : Table.ofValue? t.toValue = some t := by
  obtain ⟨name, _ | newName⟩ := t <;> rfl

lemma Column.ofValue?_fields (c : Column) : Column.ofValue? (.object c.fields) = some c := by
  obtain ⟨_ | ⟨table, _ | tableName⟩, name, _ | newName, temporary⟩ := c <;> rfl

lemma Column.fields_untagged (c : Column) : ∀ f ∈ c.fields, f.1 ≠ "kind" := by
  obtain ⟨_ | table, name, _ | newName, temporary⟩ := c <;> simp [fields, optionalField]

lemma canonical_of_payload? {v w : Value} (h : payload? v = some w) : w.canonical = w := by
  rw [payload?] at h
  split at h
  · obtain ⟨u, -, rfl⟩ := Option.map_eq_some_iff.mp h
    exact u.canonical_canonical
  · cases h

def Param.Written : Param → Prop
  | column _ => True
  | value v => v.canonical = v

def Call.Written (c : Call) : Prop := ∀ p ∈ c.params, p.Written

mutual

def Arg.Written : Arg → Prop
  | .value v => v.canonical = v
  | .scope _ items => Arg.WrittenAll items
  | .function c => c.Written
  | .output _ => False
  | _ => True

def Arg.WrittenAll : List Arg → Prop
  | [] => True
  | a :: as => a.Written ∧ Arg.WrittenAll as

end

def Scheme.Written (s : Scheme) : Prop := ∀ o ∈ s, Arg.WrittenAll o.args

lemma Param.ofValue?_toValue {p : Param} (h : p.Written) : Param.ofValue? p.toValue = some p := by
  cases p with
  | column c =>
    rw [toValue, ofValue?, tagged?_ofKind (k := 0) rfl c.fields_untagged]
    exact congrArg (Option.map Param.column) c.ofValue?_fields
  | value v =>
    rw [toValue, ofValue?, tagged?_ofKind (k := 1) rfl (by simp)]
    exact congrArg (fun v => some (Param.value v)) h

lemma Param.written_of_ofValue? {v : Value} {p : Param} (h : Param.ofValue? v = some p) : p.Written := by
  rw [ofValue?] at h
  split at h
  · obtain ⟨c, -, rfl⟩ := Option.map_eq_some_iff.mp h
    trivial
  · obtain ⟨w, hw, rfl⟩ := Option.map_eq_some_iff.mp h
    exact canonical_of_payload? hw
  · cases h

lemma Call.ofValue?_fields {c : Call} (h : c.Written) : Call.ofValue? (.object c.fields) = some c := by
  have hp : list? Param.ofValue? (.array (c.params.map Param.toValue)) = some c.params :=
    list?_of_forall fun p hm => Param.ofValue?_toValue (h p hm)
  have hf : fields? ["function", "alias", "params"] (.object c.fields) =
      some [some (.string c.function), some (.string c.target), some (.array (c.params.map Param.toValue))] := rfl
  rw [ofValue?, hf]
  simp only [required, defaulted, hp]
  rfl

lemma Call.written_of_ofValue? {v : Value} {c : Call} (h : Call.ofValue? v = some c) : c.Written := by
  rw [ofValue?] at h
  split at h
  · obtain ⟨function, -, h⟩ := Option.bind_eq_some_iff.mp h
    obtain ⟨target, -, h⟩ := Option.bind_eq_some_iff.mp h
    obtain ⟨params, hp, h⟩ := Option.bind_eq_some_iff.mp h
    cases h
    exact forall_of_defaulted (fun _ _ => forall_of_list? fun _ _ => Param.written_of_ofValue?) hp
  · cases h

lemma Connective.ofValue?_written (c : Connective) : Connective.ofValue? (.string c.written) = some c := by
  cases c <;> rfl

namespace Arg

lemma toValues_eq_map (as : List Arg) : toValues as = as.map toValue := by
  induction as with
  | nil => rfl
  | cons a as ih => rw [toValues, List.map_cons, ih]

lemma writtenAll_iff {as : List Arg} : WrittenAll as ↔ ∀ a ∈ as, a.Written := by
  induction as with
  | nil => simp [WrittenAll]
  | cons a as ih => rw [WrittenAll, List.forall_mem_cons, ih]

lemma ofValueAt?_scope {fuel : Nat} (connective : Connective) {items : List Arg}
    (h : ∀ a ∈ items, ofValueAt? fuel true a.toValue = some a) (inner : Bool) :
    ofValueAt? (fuel + 1) inner (scope connective items).toValue = some (scope connective items) := by
  have hl : list? (ofValueAt? fuel true) (.array (toValues items)) = some items := by
    rw [toValues_eq_map]
    exact list?_of_forall h
  have hf (v w : Value) : fields? ["operator", "properties"] (.object [("operator", v), ("properties", w)]) =
      some [some v, some w] := rfl
  rw [toValue, ofValueAt?, tagged?_ofKind (k := 3) rfl (by simp)]
  simp only [hf, required, defaulted, hl, Option.bind_some, Connective.ofValue?_written]
  rfl

lemma ofValueAt?_plain {a : Arg} (hw : a.Written) (hs : ∀ connective items, a ≠ scope connective items) (fuel : Nat)
    (inner : Bool) : ofValueAt? (fuel + 1) inner a.toValue = some a := by
  cases a with
  | value v =>
    rw [toValue, ofValueAt?, tagged?_ofKind (k := 0) rfl (by simp)]
    exact congrArg (fun v => some (value v)) hw
  | table t =>
    have hk : ∀ f ∈ t.fields, f.1 ≠ "kind" := by
      obtain ⟨name, _ | newName⟩ := t <;> simp [Table.fields, optionalField]
    rw [toValue, ofValueAt?, tagged?_ofKind (k := 1) rfl hk]
    exact congrArg (Option.map table) t.ofValue?_toValue
  | column c =>
    rw [toValue, ofValueAt?, tagged?_ofKind (k := 2) rfl c.fields_untagged]
    exact congrArg (Option.map column) c.ofValue?_fields
  | scope connective items => exact (hs connective items rfl).elim
  | function c =>
    rw [toValue, ofValueAt?, tagged?_ofKind (k := 4) rfl (by simp [Call.fields])]
    exact congrArg (Option.map function) (Call.ofValue?_fields hw)
  | reference query =>
    rw [toValue, ofValueAt?, tagged?_ofKind (k := 5) rfl (by simp)]
    have hn : nat? (.ofNat query) = some query := by simp [nat?, int?, Value.ofNat, Value.int]
    exact congrArg (Option.map reference) hn
  | output o => exact hw.elim

lemma depth_toValue_scope (connective : Connective) (items : List Arg) :
    depthOfItems (toValues items) < depth (scope connective items).toValue := by
  simp only [toValue, ofKind, depth, depthOfFields]
  omega

mutual

lemma ofValueAt?_toValue {a : Arg} (hw : a.Written) {fuel : Nat} (hd : depth a.toValue ≤ fuel) (inner : Bool) :
    ofValueAt? (fuel + 1) inner a.toValue = some a := by
  cases a with
  | scope connective items =>
    have hlt := depth_toValue_scope connective items
    obtain ⟨fuel, rfl⟩ : ∃ n, fuel = n + 1 := ⟨fuel - 1, by omega⟩
    exact ofValueAt?_scope connective (ofValueAt?_toValues hw (by omega)) inner
  | _ => exact ofValueAt?_plain hw (fun _ _ => nofun) fuel inner

lemma ofValueAt?_toValues {as : List Arg} (hw : WrittenAll as) {fuel : Nat} (hd : depthOfItems (toValues as) ≤ fuel) :
    ∀ a ∈ as, ofValueAt? (fuel + 1) true a.toValue = some a := by
  cases as with
  | nil => exact fun _ hm => nomatch hm
  | cons a as =>
    rw [toValues, depthOfItems] at hd
    exact List.forall_mem_cons.mpr ⟨ofValueAt?_toValue hw.1 (by omega) true, ofValueAt?_toValues hw.2 (by omega)⟩

end

lemma written_of_ofValueAt? {fuel : Nat} {inner : Bool} {v : Value} {a : Arg} (h : ofValueAt? fuel inner v = some a) :
    a.Written := by
  induction fuel generalizing inner v a with
  | zero => cases h
  | succ fuel ih =>
    rw [ofValueAt?] at h
    split at h
    · obtain ⟨w, hw, rfl⟩ := Option.map_eq_some_iff.mp h
      exact canonical_of_payload? hw
    · obtain ⟨t, -, rfl⟩ := Option.map_eq_some_iff.mp h
      trivial
    · obtain ⟨c, -, rfl⟩ := Option.map_eq_some_iff.mp h
      trivial
    · split at h
      · obtain ⟨connective, -, h⟩ := Option.bind_eq_some_iff.mp h
        obtain ⟨items, hi, h⟩ := Option.bind_eq_some_iff.mp h
        cases h
        exact writtenAll_iff.mpr (forall_of_defaulted (fun _ _ => forall_of_list? fun _ _ => ih) hi)
      · cases h
    · obtain ⟨c, hc, rfl⟩ := Option.map_eq_some_iff.mp h
      exact Call.written_of_ofValue? hc
    · split at h
      · obtain ⟨query, -, rfl⟩ := Option.map_eq_some_iff.mp h
        trivial
      · cases h
    · cases h

end Arg

namespace Operation

lemma ofValueWith?_toValue {o : Operation} (h : Arg.WrittenAll o.args) :
    ofValueWith? Arg.ofValue? o.toValue = some o := by
  have hl : list? Arg.ofValue? (.array (Arg.toValues o.args)) = some o.args := by
    rw [Arg.toValues_eq_map]
    exact list?_of_forall fun a hm =>
      Arg.ofValueAt?_toValue (Arg.writtenAll_iff.mp h a hm) (Nat.le_refl _) false
  have hf : fields? fieldNames o.toValue =
      some [some (.string o.keyword.written), some (.array (Arg.toValues o.args))] := rfl
  have hk : Keyword.ofValue? (.string o.keyword.written) = some o.keyword := Keyword.ofWritten?_written _
  rw [ofValueWith?, hf]
  simp only [required, defaulted, hl, Option.bind_some, hk]
  rfl

lemma written_of_ofValueWith? {v : Value} {o : Operation} (h : ofValueWith? Arg.ofValue? v = some o) :
    Arg.WrittenAll o.args := by
  rw [ofValueWith?] at h
  split at h
  · obtain ⟨keyword, -, h⟩ := Option.bind_eq_some_iff.mp h
    obtain ⟨args, ha, h⟩ := Option.bind_eq_some_iff.mp h
    cases h
    exact Arg.writtenAll_iff.mpr
      (forall_of_defaulted (fun _ _ => forall_of_list? fun _ _ => Arg.written_of_ofValueAt?) ha)
  · cases h

end Operation

namespace Scheme

lemma written_of_ofValue? {v : Value} {s : Scheme} (h : ofValue? v = some s) : s.Written :=
  forall_of_list? (fun _ _ => Operation.written_of_ofValueWith?) h

theorem ofValue?_toValue_iff : (∀ s : Scheme, ofValue? s.toValue = some s ↔ s.Written) ∧
    ∀ v s, ofValue? v = some s → ofValue? s.toValue = some s := by
  have hback (s : Scheme) (h : s.Written) : ofValue? s.toValue = some s :=
    list?_of_forall fun o hm => Operation.ofValueWith?_toValue (h o hm)
  exact ⟨fun s => ⟨written_of_ofValue?, hback s⟩, fun _ s h => hback s (written_of_ofValue? h)⟩

def spelledAsLists : Value := .array [
  .array [.string "SELECT", .array [
    .array [.string "function", .string "CONCAT", .string "label", .array [
      .array [.string "property", .array [.string "users"], .string "name"],
      .object [("kind", .ofNat 1), ("value", .object [("b", .int 2), ("a", .null)])]]]]],
  .array [.object [("FROM", .null)], .array [.array [.string "table", .string "users", .string "u"]]],
  .object [
    ("args", .array [.array [.string "scope", .object [("OR", .null)], .array [
      .array [.ofNat 5, .ofNat 0], .array [.string "scope", .string "AND"]]]]),
    ("syntax", .string "EQ")]]

theorem ofValue?_toValue_lists : ∃ s, ofValue? spelledAsLists = some s ∧ s.map (·.args.length) = [1, 1, 1] ∧
    ofValue? s.toValue = some s ∧ s.Written := by
  have h : ofValue? spelledAsLists = some _ := rfl
  exact ⟨_, h, rfl, ofValue?_toValue_iff.2 _ _ h, (ofValue?_toValue_iff.1 _).mp (ofValue?_toValue_iff.2 _ _ h)⟩

end Scheme

end DocQuery
