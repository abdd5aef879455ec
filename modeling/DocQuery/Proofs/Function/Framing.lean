import DocQuery.Proofs.Run.Listing
import Mathlib.Data.List.Nodup

/-! What calls of functions leave of a list of rows. A call changes the field that it is for and no other, so
aggregates, all of them results of the rows as they came, may stand anywhere among the calls. -/

namespace DocQuery

namespace Row

structure ChangedAt (names : String → Prop) (r r' : Row) : Prop where
  table : r'.table = r.table
  key : r'.key = r.key
  joined : r'.joined = r.joined
  content : ∀ name, ¬ names name → Dict.find? name r'.content = Dict.find? name r.content
  fields : ∃ added, r'.fields = r.fields ++ added ∧ ∀ name ∈ added, names name

structure SameValues (r r' : Row) : Prop where
  table : r.table = r'.table
  key : r.key = r'.key
  joined : r.joined = r'.joined
  content : ∀ name, Dict.find? name r.content = Dict.find? name r'.content
  fields : r.fields.Perm r'.fields

variable {names : String → Prop} {r r' r'' : Row} {name : String}

namespace ChangedAt

lemma refl (names : String → Prop) (r : Row) : ChangedAt names r r := ⟨rfl, rfl, rfl, fun _ _ => rfl, [], by simp⟩

lemma trans (h : ChangedAt names r r') (h' : ChangedAt names r' r'') : ChangedAt names r r'' := by
  obtain ⟨added, hadded, hnames⟩ := h.fields
  obtain ⟨added', hadded', hnames'⟩ := h'.fields
  refine ⟨h'.table.trans h.table, h'.key.trans h.key, h'.joined.trans h.joined,
    fun name hn => (h'.content name hn).trans (h.content name hn), added ++ added', ?_, ?_⟩
  · rw [hadded', hadded, List.append_assoc]
  · intro name hn
    rcases List.mem_append.mp hn with hn | hn
    · exact hnames name hn
    · exact hnames' name hn

lemma addField (h : names name) (r : Row) (v : Value) : ChangedAt names r (r.addField name v) := by
  refine ⟨rfl, rfl, rfl, fun other hn => Dict.find?_insert_of_ne ?_ v _, ?_⟩
  · rintro rfl
    exact hn h
  simp only [Row.addField]
  split
  · exact ⟨[], by simp⟩
  · exact ⟨[name], rfl, by simpa using h⟩

lemma foldl {step : Row → Call → Row} {calls : List Call}
    (h : ∀ c ∈ calls, ∀ r, ChangedAt names r (step r c)) (r : Row) : ChangedAt names r (calls.foldl step r) := by
  induction calls generalizing r with
  | nil => exact refl names r
  | cons c calls ih =>
    exact (h c List.mem_cons_self r).trans (ih (fun d hd => h d (List.mem_cons_of_mem _ hd)) _)

lemma mem_keys (h : ChangedAt names r r') {x : String} (hx : x ∈ Dict.keys r'.content) :
    names x ∨ x ∈ Dict.keys r.content := by
  by_cases hn : names x
  · exact .inl hn
  · rw [← Dict.contains_iff, Dict.contains, h.content x hn] at hx
    exact .inr (Dict.contains_iff.mp hx)

end ChangedAt

namespace SameValues

lemma refl (r : Row) : SameValues r r := ⟨rfl, rfl, rfl, fun _ => rfl, .refl _⟩

lemma trans (h : SameValues r r') (h' : SameValues r' r'') : SameValues r r'' :=
  ⟨h.table.trans h'.table, h.key.trans h'.key, h.joined.trans h'.joined,
    fun name => (h.content name).trans (h'.content name), h.fields.trans h'.fields⟩

lemma addField (h : SameValues r r') (name : String) (v : Value) :
    SameValues (r.addField name v) (r'.addField name v) where
  table := h.table
  key := h.key
  joined := h.joined
  content other := by simp only [Row.addField, Dict.find?_insert, h.content]
  fields := by
    simp only [Row.addField, h.fields.contains_eq]
    split
    · exact h.fields
    · exact h.fields.append_right [name]

lemma addField_comm (r : Row) {other : String} (h : name ≠ other) (v w : Value) :
    SameValues ((r.addField name v).addField other w) ((r.addField other w).addField name v) where
  table := rfl
  key := rfl
  joined := rfl
  content x := by
    simp only [Row.addField, Dict.find?_insert]
    split
    · next hx => rw [if_neg (by rintro rfl; exact h hx)]
    · rfl
  fields := by
    simp only [Row.addField]
    by_cases hn : name ∈ r.fields
    · by_cases ho : other ∈ r.fields <;> simp [hn, ho]
    · by_cases ho : other ∈ r.fields
      · simp [hn, ho]
      · simpa [hn, ho, h, Ne.symm h] using List.Perm.append_left r.fields (.swap other name [])

lemma eval (h : SameValues r r') (q : Param) : q.eval r = q.eval r' := by
  cases q with
  | value v => rfl
  | column c => rw [Param.eval, Param.eval, read_congr h.table h.key fun name _ => h.content name]

lemma foldl {step : Row → Call → Row} (hs : ∀ {r r'}, SameValues r r' → ∀ c, SameValues (step r c) (step r' c))
    (h : SameValues r r') (calls : List Call) : SameValues (calls.foldl step r) (calls.foldl step r') := by
  induction calls generalizing r r' with
  | nil => exact h
  | cons c calls ih => exact ih (hs h c)

end SameValues

end Row

namespace Call

open Row (ChangedAt SameValues)

def Sets (calls : List Call) (name : String) : Prop :=
  ∃ c ∈ calls, Function.isKnown c.function = true ∧ c.target = name

variable {calls calls' : List Call} {rows : List Row} {r r' : Row}

lemma changedAt_scalar [Source] {c : Call} (hc : c ∈ calls) (r : Row) : ChangedAt (Sets calls) r (c.scalar r) := by
  rw [scalar]
  split
  · next f hf =>
    have hscalar : c.isScalar = true := by rw [← isSome_scalar? c r, hf, Option.isSome_some]
    refine ChangedAt.addField ⟨c, hc, ?_, rfl⟩ r _
    rw [Function.isKnown, (Bool.and_eq_true_iff.mp hscalar).2, Bool.or_true]
  · exact .refl _ r

lemma changedAt_aggregate {c : Call} (hc : c ∈ calls) (rows : List Row) (r : Row) :
    ChangedAt (Sets calls) r (aggregate rows r c) := by
  rw [aggregate]
  split
  · next a ha =>
    refine ChangedAt.addField ⟨c, hc, ?_, rfl⟩ r _
    rw [aggregate?] at ha
    simp [Function.isKnown, ha]
  · exact .refl _ r

lemma changedAt_scalarAll [Source] (calls : List Call) (r : Row) : ChangedAt (Sets calls) r (scalarAll calls r) :=
  ChangedAt.foldl (fun _ hc => changedAt_scalar hc) r

lemma changedAt_aggregateAll (calls : List Call) (rows : List Row) (r : Row) :
    ChangedAt (Sets calls) r (aggregateAll calls rows r) :=
  ChangedAt.foldl (fun _ hc => changedAt_aggregate hc rows) r

lemma exists_base [Source] {table : Table} (h : r ∈ applyAll table calls rows) :
    ∃ base, (base ∈ rows ∨ base.content = []) ∧ ChangedAt (Sets calls) base r := by
  cases hany : calls.any (·.aggregate?.isSome) with
  | false =>
    rw [applyAll_scalars hany] at h
    obtain ⟨base, hb, rfl⟩ := List.mem_map.mp h
    exact ⟨base, .inl hb, changedAt_scalarAll calls base⟩
  | true =>
    rw [applyAll_aggregates hany] at h
    obtain rfl := List.mem_singleton.mp h
    refine ⟨_, ?_, (changedAt_aggregateAll calls rows _).trans (changedAt_scalarAll calls _)⟩
    cases rows with
    | nil => exact .inr rfl
    | cons r rows => exact .inl List.mem_cons_self

lemma sameValues_scalar [Source] (h : SameValues r r') (c : Call) : SameValues (c.scalar r) (c.scalar r') := by
  have hargs : c.params.map (·.eval r) = c.params.map (·.eval r') := List.map_congr_left fun q _ => h.eval q
  rw [scalar, scalar, hargs, scalar?_congr h.key]
  split
  · exact h.addField _ _
  · exact h

lemma sameValues_aggregate (h : SameValues r r') (rows : List Row) (c : Call) :
    SameValues (aggregate rows r c) (aggregate rows r' c) := by
  rw [aggregate, aggregate]
  split
  · exact h.addField _ _
  · exact h

lemma aggregate_comm {c d : Call} (h : c.target ≠ d.target) (rows : List Row) (r : Row) :
    SameValues (aggregate rows (aggregate rows r c) d) (aggregate rows (aggregate rows r d) c) := by
  simp only [aggregate]
  cases c.aggregate? <;> cases d.aggregate?
  · exact .refl _
  · exact .refl _
  · exact .refl _
  · exact .addField_comm r h _ _

lemma aggregateAll_perm (hp : calls.Perm calls') (hd : (calls.map (·.target)).Nodup) (h : SameValues r r') :
    SameValues (aggregateAll calls rows r) (aggregateAll calls' rows r') := by
  induction hp generalizing r r' with
  | nil => exact h
  | cons c _ ih => exact ih (List.nodup_cons.mp hd).2 (sameValues_aggregate h rows c)
  | swap c d calls =>
    -- the two results come in another order, and the other calls go on from the same values
    have hne : d.target ≠ c.target := by
      rintro he
      exact (List.nodup_cons.mp hd).1 (by simp [he])
    refine SameValues.foldl (fun h c => sameValues_aggregate h rows c) ?_ calls
    exact (aggregate_comm hne rows r).trans
      (sameValues_aggregate (sameValues_aggregate h rows c) rows d)
  | trans hp _ ih ih' => exact (ih hd h).trans (ih' ((hp.map _).nodup hd) (.refl _))

lemma scalarAll_filter [Source] (calls : List Call) (r : Row) :
    scalarAll (calls.filter (·.isScalar)) r = scalarAll calls r := by
  rw [scalarAll, List.foldl_filter, scalarAll]
  congr 1
  funext r c
  split
  · rfl
  · next h => simp [scalar, scalar?_eq_none (Bool.not_eq_true _ ▸ h)]

theorem applyAll_framed [Source] {calls : List Call} (hd : (calls.map (·.target)).Nodup) :
    ((∀ c ∈ calls, c.aggregate? = none) → ∃ f : Row → Row, (∀ r, ChangedAt (Sets calls) r (f r)) ∧
      ∀ table rows, applyAll table calls rows = rows.map f) ∧
    ((∃ c ∈ calls, c.aggregate? ≠ none) → ∀ table rows, ∃ r, applyAll table calls rows = [r] ∧
      ChangedAt (Sets calls) (rows.head?.getD (Row.ofValue table "" .null)) r ∧
      (∀ c ∈ calls, ∀ a, c.aggregate? = some a →
        Dict.find? c.target r.content = some (a.apply c.ofAllRows (c.inputs rows))) ∧
      ∀ calls' : List Call, calls.Perm calls' →
        calls'.filter (·.isScalar) = calls.filter (·.isScalar) →
        ∃ r', applyAll table calls' rows = [r'] ∧ SameValues r r') := by
  constructor
  · intro hnone
    have hany : calls.any (·.aggregate?.isSome) = false := by simp_all
    exact ⟨scalarAll calls, changedAt_scalarAll calls, applyAll_scalars hany⟩
  · rintro ⟨c, hc, hsome⟩ table rows
    have hany : calls.any (·.aggregate?.isSome) = true :=
      List.any_eq_true.mpr ⟨c, hc, Option.isSome_iff_ne_none.mpr hsome⟩
    refine ⟨_, applyAll_aggregates hany table rows, ?_, fun c hc a ha => ?_, fun calls' hp hscalars => ?_⟩
    · exact (changedAt_aggregateAll calls rows _).trans (changedAt_scalarAll calls _)
    · exact find?_aggregated hc ha (fun d hd' he => List.inj_on_of_nodup_map hd hd' hc he) rows _
    · have hany' : calls'.any (·.aggregate?.isSome) = true := hp.any_eq.symm.trans hany
      refine ⟨_, applyAll_aggregates hany' table rows, ?_⟩
      rw [← scalarAll_filter calls', hscalars, scalarAll_filter]
      exact SameValues.foldl sameValues_scalar (aggregateAll_perm hp hd (.refl _)) calls

def member (name : String) (age : Int) : Row :=
  .ofValue (.named "users") name (.object [("age", .int age), ("name", .string name)])

def numbers : List Call := [⟨"COUNT", "age", []⟩, ⟨"MAX", "top", [.column (.named "age")]⟩]

def labels : List Call :=
  [⟨"MEDIAN", "mid", [.column (.named "age")]⟩,
    ⟨"CONCAT", "tag", [.column (.named "age"), .value (.string "/"), .column (.named "top")]⟩,
    ⟨"UPPER", "name", [.column (.named "name")]⟩]

theorem applyAll_framed_members :
    ((numbers ++ labels).map (·.target)).Nodup ∧ (∃ c ∈ numbers ++ labels, c.aggregate? ≠ none) ∧
    ∃ r, applyAll (.named "users") (numbers ++ labels) [member "Ann" 30, member "Bob" 17] = [r] ∧
      r.content = [("age", .int 2), ("name", .string "ANN"), ("tag", .string "2/30"), ("top", .int 30)] ∧
      Dict.find? "top" r.content = some (.int 30) ∧
      ∃ r', applyAll (.named "users") (labels ++ numbers.reverse) [member "Ann" 30, member "Bob" 17] = [r'] ∧
        SameValues r r' := by
  have hd : ((numbers ++ labels).map (·.target)).Nodup := by decide
  have hsome : ∃ c ∈ numbers ++ labels, c.aggregate? ≠ none := ⟨_, List.mem_cons_self, by decide⟩
  have hp : (numbers ++ labels).Perm (labels ++ numbers.reverse) :=
    List.perm_append_comm.trans ((List.reverse_perm numbers).symm.append_left labels)
  obtain ⟨r, hr, -, haggregates, hperm⟩ :=
    (applyAll_framed hd).2 hsome (.named "users") [member "Ann" 30, member "Bob" 17]
  refine ⟨hd, hsome, r, hr, ?_, haggregates ⟨"MAX", "top", [.column (.named "age")]⟩ (by simp [numbers]) .max rfl,
    hperm _ hp rfl⟩
  rw [← List.singleton_inj, ← List.map_singleton (f := Row.content), ← hr]
  rfl

end Call

end DocQuery
