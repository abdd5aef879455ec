import DocQuery.Proofs.Dictionaries
import DocQuery.Rows.Sorting

namespace DocQuery

namespace Column

def Same (c d : Column) : Prop := c.name = d.name ∧ c.tableName? = d.tableName?

instance (c d : Column) : Decidable (c.Same d) := inferInstanceAs (Decidable (_ ∧ _))

def lookups (c : Column) (label : String) : List String :=
  c.name :: label :: (c.tableName?.map (· ++ "." ++ c.name)).toList

/-- A column is one of those shown, under its name or as `label`, and of all the columns next to them no other
is shown under a name under which it is looked for. -/
structure Kept (c : Column) (label : String) (shown columns : List Column) : Prop where
  shown : ∃ d ∈ shown, d.Same c ∧ (d.label = c.name ∨ d.label = label)
  alone : ∀ d ∈ columns, d.label ∈ c.lookups label → d.Same c

instance (c : Column) (label : String) (shown columns : List Column) : Decidable (c.Kept label shown columns) :=
  decidable_of_iff ((∃ d ∈ shown, d.Same c ∧ (d.label = c.name ∨ d.label = label)) ∧
    ∀ d ∈ columns, d.label ∈ c.lookups label → d.Same c) ⟨fun h => ⟨h.1, h.2⟩, fun h => ⟨h.shown, h.alone⟩⟩

end Column

namespace Row

def entries (r : Row) (columns : List Column) : List (String × Value) :=
  (columns.filter r.coversColumn).map fun c => (c.label, r.read c)

lemma read_same (r : Row) {c d : Column} (h : c.Same d) : r.read c = r.read d := by
  obtain ⟨hn, ht⟩ := h
  rw [read, read, Column.isKey, Column.isKey, hn, ht]

lemma coversColumn_same (r : Row) {c d : Column} (h : c.Same d) : r.coversColumn c = r.coversColumn d := by
  rw [coversColumn, coversColumn, h.2]

@[simp] lemma project_table (r : Row) (columns : List Column) : (r.project columns).table = r.table := by
  rw [project]
  split <;> rfl

@[simp] lemma project_key (r : Row) (columns : List Column) : (r.project columns).key = r.key := by
  rw [project]
  split <;> rfl

@[simp] lemma project_joined (r : Row) (columns : List Column) : (r.project columns).joined = r.joined := by
  rw [project]
  split <;> rfl

variable {columns : List Column}

lemma content_project (hne : columns ≠ []) (hall : ∀ c ∈ columns, c.isAll = false) (r : Row) :
    (r.project columns).content = Dict.ofList (r.entries columns) := by
  rw [project, if_neg hne, entries, Dict.ofList, List.foldl_map, List.foldl_filter]
  have hfold : ∀ content, columns.foldl (fun content c => if !r.coversColumn c then content
      else if c.isAll then Dict.merge content r.content else Dict.insert c.label (r.read c) content) content =
      columns.foldl (fun content c =>
        if r.coversColumn c then Dict.insert c.label (r.read c) content else content) content := by
    clear hne
    induction columns with
    | nil => exact fun _ => rfl
    | cons c columns ih =>
      intro content
      rw [List.foldl_cons, List.foldl_cons, hall c List.mem_cons_self]
      cases r.coversColumn c <;> exact ih (fun d hd => hall d (List.mem_cons_of_mem _ hd)) _
  exact hfold []

lemma keys_entries_sublist (r : Row) (columns : List Column) :
    (Dict.keys (r.entries columns)).Sublist (columns.map Column.label) := by
  rw [Dict.keys, entries, List.map_map]
  exact List.filter_sublist.map _

lemma sorted_project {r : Row} (hall : ∀ c ∈ columns, c.isAll = false) (h : Dict.Sorted r.content) :
    Dict.Sorted (r.project columns).content := by
  by_cases hne : columns = []
  · rwa [project, if_pos hne]
  · rw [content_project hne hall]
    exact Dict.sorted_ofList _

lemma find?_entries {r : Row} {c : Column} {name : String} (h : ∀ d ∈ columns, d.label = name → d.Same c) :
    Dict.find? name (Dict.ofList (r.entries columns)) =
      if r.coversColumn c = true ∧ ∃ d ∈ columns, d.label = name then some (r.read c) else none := by
  have hv : ∀ e ∈ r.entries columns, e.1 = name → e.2 = r.read c := by
    intro e he hn
    obtain ⟨d, hd, rfl⟩ := List.mem_map.mp he
    exact r.read_same (h d (List.mem_filter.mp hd).1 hn)
  rw [Dict.find?_ofList_of_forall hv]
  congr 1
  simp only [Dict.keys, entries, List.map_map, List.mem_map, List.mem_filter, Function.comp_apply, eq_iff_iff]
  constructor
  · rintro ⟨d, ⟨hd, hc⟩, hl⟩
    exact ⟨(r.coversColumn_same (h d hd hl)).symm.trans hc, d, hd, hl⟩
  · rintro ⟨hc, d, hd, hl⟩
    exact ⟨d, ⟨hd, (r.coversColumn_same (h d hd hl)).trans hc⟩, hl⟩

lemma find?_project (hne : columns ≠ []) (hall : ∀ c ∈ columns, c.isAll = false) {r : Row} {c : Column}
    (hc : r.coversColumn c = true) {name : String} (h : ∀ d ∈ columns, d.label = name → d.Same c) :
    Dict.find? name (r.project columns).content =
      if ∃ d ∈ columns, d.label = name then some (r.read c) else none := by
  simp only [content_project hne hall, find?_entries h, hc, true_and]

structure Bears (r : Row) (c : Column) (label : String) (v : Value) : Prop where
  found : ∃ name, (name = c.name ∨ name = label) ∧ Dict.find? name r.content = some v
  alone : ∀ name ∈ c.lookups label, ∀ w, Dict.find? name r.content = some w → w = v

namespace Bears

variable {r r' : Row} {c : Column} {label : String} {v : Value}

lemma read_or (h : Bears r c label v) (hk : c.isKey = false) :
    r.read c = v ∨ r.read c = .null ∧ Dict.find? c.name r.content = none := by
  have hfield : r.field c.name = v ∨ r.field c.name = .null ∧ Dict.find? c.name r.content = none := by
    rw [field]
    rcases hf : Dict.find? c.name r.content with _ | w
    · exact .inr ⟨rfl, rfl⟩
    · exact .inl (h.alone _ List.mem_cons_self w hf)
  simp only [Row.read, hk, Bool.false_eq_true, if_false]
  split
  · exact hfield
  · split
    · next ht w hw =>
      refine .inl (h.alone _ ?_ w hw)
      cases hc : c.tableName? <;> simp_all [Column.lookups]
    · exact hfield

lemma read_eq (h : Bears r c c.name v) (hk : c.isKey = false) : r.read c = v := by
  rcases h.read_or hk with hr | ⟨-, hnone⟩
  · exact hr
  · obtain ⟨name, rfl | rfl, hf⟩ := h.found <;> simp [hnone] at hf

lemma sortValue_eq (h : Bears r c c.label v) (hk : c.isKey = false) : Rows.sortValue r c = v := by
  have hlabel : ∀ w, Dict.find? c.label r.content = some w → w = v :=
    h.alone c.label (List.mem_cons_of_mem _ List.mem_cons_self)
  rcases h.read_or hk with hr | ⟨hr, hnone⟩
  · rw [Rows.sortValue, hr, field]
    cases v with
    | null =>
      rcases hf : Dict.find? c.label r.content with _ | w
      · rfl
      · exact hlabel w hf
    | _ => rfl
  · obtain ⟨name, rfl | rfl, hf⟩ := h.found
    · simp [hnone] at hf
    · rw [Rows.sortValue, hr, field]
      simp [hf]

lemma mono (h : Bears r c label v) {name : String} (hn : name = c.name ∨ name = label)
    (hf : Dict.find? name r'.content = some v)
    (hsub : ∀ n ∈ c.lookups label, ∀ w, Dict.find? n r'.content = some w → Dict.find? n r.content = some w) :
    Bears r' c label v :=
  ⟨⟨name, hn, hf⟩, fun n hl w hw => h.alone n hl w (hsub n hl w hw)⟩

end Bears

section Kept

variable {r : Row} {c : Column} {label : String} {shown : List Column} (hall : ∀ c ∈ columns, c.isAll = false)
  (hc : r.coversColumn c = true) (h : c.Kept label shown columns)

include hall hc h

lemma find?_project_kept {d : Column} (hd : d ∈ columns) (hl : d.label = c.name ∨ d.label = label) :
    Dict.find? d.label (r.project columns).content = some (r.read c) := by
  have hm : d.label ∈ c.lookups label := by
    rcases hl with hl | hl <;> simp [Column.lookups, hl]
  rw [find?_project (List.ne_nil_of_mem hd) hall hc fun e he hel => h.alone e he (hel ▸ hm), if_pos ⟨d, hd, rfl⟩]

lemma bears_project (hsub : ∀ d ∈ shown, d ∈ columns) : Bears (r.project columns) c label (r.read c) := by
  obtain ⟨d, hd, -, hl⟩ := h.shown
  refine ⟨⟨d.label, hl, find?_project_kept hall hc h (hsub d hd) hl⟩, fun name hn w hw => ?_⟩
  rw [find?_project (List.ne_nil_of_mem (hsub d hd)) hall hc fun e he hel => h.alone e he (hel ▸ hn)] at hw
  split at hw
  · exact (Option.some_inj.mp hw).symm
  · cases hw

end Kept

end Row

end DocQuery
