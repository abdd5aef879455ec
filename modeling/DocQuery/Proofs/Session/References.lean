import DocQuery.Batch
import DocQuery.Proofs.Outcomes

namespace DocQuery

namespace Arg

mutual

def references : Arg → List Nat
  | reference query => [query]
  | scope _ items => referencesOfAll items
  | _ => []

def referencesOfAll : List Arg → List Nat
  | [] => []
  | a :: as => references a ++ referencesOfAll as

end

mutual

def bind (outputs : List Value) : Arg → Arg
  | reference query => (outputs[query]?).elim (reference query) fun v => output (.known v)
  | scope connective items => scope connective (bindAll outputs items)
  | a => a

def bindAll (outputs : List Value) : List Arg → List Arg
  | [] => []
  | a :: as => bind outputs a :: bindAll outputs as

end

end Arg

namespace Scheme

def references (s : Scheme) : List Nat := s.flatMap fun o => Arg.referencesOfAll o.args

def bind (outputs : List Value) (s : Scheme) : Scheme :=
  s.map fun o => { o with args := Arg.bindAll outputs o.args }

end Scheme

namespace Batch

variable {α β γ : Type} (index count : Nat)

def reading (queries : List Nat) (a : α) : Except Error α :=
  (queries.find? (count ≤ ·)).elim (.ok a) fun query => .error (.reference index query)

lemma reading_map (f : α → β) (queries : List Nat) (a : α) :
    (reading index count queries a).map f = reading index count queries (f a) := by
  unfold reading
  cases queries.find? (count ≤ ·) <;> rfl

lemma reading_bind (f : α → β → γ) (queries more : List Nat) (a : α) (b : β) :
    (reading index count queries a >>= fun a => reading index count more b >>= fun b => .ok (f a b)) =
      reading index count (queries ++ more) (f a b) := by
  unfold reading
  rw [List.find?_append]
  cases queries.find? (count ≤ ·) with
  | some query => rfl
  | none => cases more.find? (count ≤ ·) <;> rfl

lemma reading_eq_ok {queries : List Nat} (h : ∀ q ∈ queries, q < count) (a : α) :
    reading index count queries a = .ok a := by
  have hn : queries.find? (count ≤ ·) = none :=
    List.find?_eq_none.mpr fun q hq => by simpa using h q hq
  rw [reading, hn]
  rfl

lemma reading_of_open {queries : List Nat} {query : Nat} (h : queries.find? (count ≤ ·) = some query) (a : α) :
    reading index count queries a = .error (.reference index query) := by
  rw [reading, h]
  rfl

variable (outputs : List Value)

mutual

lemma resolveArg_eq (a : Arg) :
    resolveArg index outputs a = reading index outputs.length a.references (a.bind outputs) := by
  cases a with
  | reference query =>
    rw [resolveArg, Arg.references, Arg.bind]
    by_cases h : query < outputs.length
    · rw [List.getElem?_eq_getElem h, reading_eq_ok _ _ (by simpa using h)]
      rfl
    · have ho : [query].find? (outputs.length ≤ ·) = some query := by simpa using h
      rw [List.getElem?_eq_none (by omega), reading_of_open _ _ ho]
  | scope connective items =>
    rw [resolveArg, resolveArgs_eq items, reading_map, Arg.references, Arg.bind]
  | _ => rfl

lemma resolveArgs_eq (as : List Arg) : resolveArgs index outputs as =
    reading index outputs.length (Arg.referencesOfAll as) (Arg.bindAll outputs as) := by
  cases as with
  | nil => rfl
  | cons a as =>
    rw [resolveArgs, resolveArg_eq a, resolveArgs_eq as, reading_bind _ _ List.cons, Arg.referencesOfAll,
      Arg.bindAll]

end

lemma resolve_eq (s : Scheme) : resolve index outputs s =
    reading index outputs.length (Scheme.references s) (Scheme.bind outputs s) := by
  unfold resolve
  induction s with
  | nil => rfl
  | cons o s ih =>
    rw [List.mapM_cons, ih, resolveArgs_eq, reading_map]
    exact reading_bind _ _ List.cons _ _ _ _

mutual

lemma references_bind (a : Arg) (h : ∀ q ∈ a.references, q < outputs.length) : (a.bind outputs).references = [] := by
  cases a with
  | reference query =>
    rw [Arg.references] at h
    rw [Arg.bind, List.getElem?_eq_getElem (h query List.mem_cons_self)]
    rfl
  | scope connective items =>
    rw [Arg.references] at h
    rw [Arg.bind, Arg.references, references_bindAll items h]
  | _ => rfl

lemma references_bindAll (as : List Arg) (h : ∀ q ∈ Arg.referencesOfAll as, q < outputs.length) :
    Arg.referencesOfAll (Arg.bindAll outputs as) = [] := by
  cases as with
  | nil => rfl
  | cons a as =>
    rw [Arg.referencesOfAll] at h
    rw [Arg.bindAll, Arg.referencesOfAll, references_bind a fun q hq => h q (List.mem_append_left _ hq),
      references_bindAll as fun q hq => h q (List.mem_append_right _ hq), List.append_nil]

end

mutual

lemma bind_of_closed {a : Arg} (h : a.references = []) : a.bind outputs = a := by
  cases a with
  | reference query => cases h
  | scope connective items =>
    rw [Arg.references] at h
    rw [Arg.bind, bindAll_of_closed h]
  | _ => rfl

lemma bindAll_of_closed {as : List Arg} (h : Arg.referencesOfAll as = []) : Arg.bindAll outputs as = as := by
  cases as with
  | nil => rfl
  | cons a as =>
    rw [Arg.referencesOfAll, List.append_eq_nil_iff] at h
    rw [Arg.bindAll, bind_of_closed h.1, bindAll_of_closed h.2]

end

lemma resolve_bind {s : Scheme} (h : ∀ q ∈ Scheme.references s, q < outputs.length) (others : List Value) :
    resolve index others (Scheme.bind outputs s) = .ok (Scheme.bind outputs s) := by
  have hclosed : ∀ o ∈ s, Arg.referencesOfAll (Arg.bindAll outputs o.args) = [] := fun o ho =>
    references_bindAll outputs o.args fun q hq => h q (List.mem_flatMap.mpr ⟨o, ho, hq⟩)
  have hreferences : Scheme.references (Scheme.bind outputs s) = [] := by
    refine List.flatMap_eq_nil_iff.mpr fun o ho => ?_
    obtain ⟨own, hown, rfl⟩ := List.mem_map.mp ho
    exact hclosed own hown
  have hbind : Scheme.bind others (Scheme.bind outputs s) = Scheme.bind outputs s := by
    refine (List.map_map ..).trans (List.map_congr_left fun o ho => ?_)
    rw [Function.comp_apply, bindAll_of_closed others (hclosed o ho)]
  rw [resolve_eq, hreferences, hbind]
  rfl

end Batch

end DocQuery
