import DocQuery.Proofs.Rows.Joining
import DocQuery.Proofs.Run.Matching
import Mathlib.Data.Set.Function

namespace DocQuery

structure Row.Of (t : Table) (tables : List String) (r : Row) : Prop where
  own : r.table = t
  covers : ∀ name ∈ tables, r.covers name = true
  sorted : Dict.Sorted r.content

lemma Row.mem_fields_addField {r : Row} {name : String} {v : Value} {x : String} :
    x ∈ (r.addField name v).fields ↔ x ∈ r.fields ∨ x = name := by
  simp only [addField]
  split
  · next h =>
    refine ⟨.inl, ?_⟩
    rintro (h' | rfl)
    · exact h'
    · simpa using h
  · simp

lemma Row.keys_subset_fields_addField {r : Row} (h : Dict.keys r.content ⊆ r.fields) (name : String) (v : Value) :
    Dict.keys (r.addField name v).content ⊆ (r.addField name v).fields := by
  intro x hx
  rw [mem_fields_addField]
  rcases Dict.mem_keys_insert.mp hx with rfl | hx
  · exact .inr rfl
  · exact .inl (h hx)

namespace Rows

lemma covers_joinTable (r : Row) (table name : String) :
    (joinTable r table).covers name = (r.covers name || table == name) := by
  rw [joinTable]
  split
  · next h =>
    by_cases hn : table = name
    · simp [← hn, h]
    · simp [hn]
  · simp [Row.covers, Bool.or_assoc, Bool.beq_eq_decide_eq, eq_comm]

lemma covers_joinTables (tables : List String) (r : Row) (name : String) :
    (tables.foldl joinTable r).covers name = (r.covers name || tables.contains name) := by
  induction tables generalizing r with
  | nil => simp
  | cons table tables ih =>
    rw [List.foldl_cons, ih, covers_joinTable, List.contains_cons, Bool.or_assoc]
    congr 2
    exact Bool.beq_comm

variable {a b : Row}

lemma covers_combine (name : String) : (combine a b).covers name =
    (a.covers name || (b.table.name :: b.joined).contains name) := by
  have hadd : ∀ (fields : Dict Value) (r : Row), (fields.foldl (fun r f =>
      r.addField (freeName r.content b.table.name f.1) f.2) r).covers name = r.covers name := by
    intro fields
    induction fields with
    | nil => exact fun _ => rfl
    | cons f fields ih => exact fun r => ih _
  rw [combine, covers_joinTables, hadd]

lemma sorted_combine (h : Dict.Sorted a.content) : Dict.Sorted (combine a b).content := by
  have hadd : ∀ (fields d : Dict Value), Dict.Sorted d →
      Dict.Sorted (fields.foldl (fun d f => Dict.insert (freeName d b.table.name f.1) f.2 d) d) := by
    intro fields
    induction fields with
    | nil => exact fun _ hd => hd
    | cons f fields ih => exact fun d hd => ih _ (Dict.sorted_insert hd _ _)
  rw [combine, (joinTables_eq _ _).1, (addFields_eq _ _ _).1]
  exact hadd _ _ h

section Lossless

def placed (a b : Row) (f : String) : String :=
  if f ∈ Dict.keys a.content then b.table.name ++ "." ++ f else f

lemma placed_eq (a b : Row) : placed a b = freeName a.content b.table.name := by
  funext f
  simp only [placed, freeName, Dict.contains_iff]

lemma joinTables_fields (tables : List String) (r : Row) : (tables.foldl joinTable r).fields = r.fields := by
  induction tables generalizing r with
  | nil => rfl
  | cons table tables ih =>
    refine (ih _).trans ?_
    unfold joinTable
    split <;> rfl

lemma keys_subset_fields_combine (h : Dict.keys a.content ⊆ a.fields) :
    Dict.keys (combine a b).content ⊆ (combine a b).fields := by
  have hadd : ∀ (fields : Dict Value) (r : Row), Dict.keys r.content ⊆ r.fields →
      let s := fields.foldl (fun r f => r.addField (freeName r.content b.table.name f.1) f.2) r
      Dict.keys s.content ⊆ s.fields := by
    intro fields
    induction fields with
    | nil => exact fun _ hr => hr
    | cons f fields ih => exact fun r hr => ih _ (Row.keys_subset_fields_addField hr _ _)
  rw [combine, (joinTables_eq _ _).1, joinTables_fields]
  exact hadd b.content a h

lemma unqualified_iff {table : String} {d : Dict Value} :
    Unqualified table d ↔ ∀ name ∈ Dict.keys d, ¬ (table ++ ".").toList <+: name.toList := by
  constructor
  · rintro h name hn ⟨rest, he⟩
    have hname : name = table ++ "." ++ String.ofList rest := by
      rw [← String.toList_inj, ← he]
      simp
    exact h _ (hname ▸ hn)
  · intro h name hn
    exact h _ hn ⟨name.toList, String.toList_append.symm⟩

variable (ha : Unqualified b.table.name a.content) (hb : Unqualified b.table.name b.content)
  (hd : (Dict.keys b.content).Nodup)

include hb hd

lemma find?_combine_freeName {f : String} (hf : f ∈ Dict.keys b.content) :
    Dict.find? (freeName a.content b.table.name f) (combine a b).content = Dict.find? f b.content := by
  obtain ⟨v, hv⟩ := Option.isSome_iff_exists.mp (Dict.contains_iff.mpr hf)
  rw [find?_combine hb hd, (find?_renamed hb hd).mpr ⟨f, hv, rfl⟩, hv, Option.some_or]

include ha

lemma bijOn_freeName : Set.BijOn (freeName a.content b.table.name) {f | f ∈ Dict.keys b.content}
    {x | x ∈ Dict.keys (combine a b).content ∧ x ∉ Dict.keys a.content} := by
  refine ⟨fun f hf => ⟨?_, freeName_not_mem ha⟩, fun f hf g hg he => freeName_inj hb hf hg he, ?_⟩
  · rw [← Dict.contains_iff, Dict.contains, find?_combine_freeName hb hd hf]
    exact Dict.contains_iff.mpr hf
  · rintro x ⟨hx, hxa⟩
    obtain ⟨v, hv⟩ := Option.isSome_iff_exists.mp (Dict.contains_iff.mpr hx)
    rw [find?_combine hb hd, Dict.find?_eq_none_iff.mpr hxa, Option.or_none] at hv
    obtain ⟨f, hf, rfl⟩ := (find?_renamed hb hd).mp hv
    exact ⟨f, Dict.contains_iff.mp (Option.isSome_iff_exists.mpr ⟨v, hf⟩), rfl⟩

theorem combine_lossless :
    (combine a b).table = a.table ∧ (combine a b).key = a.key ∧
    (∀ x ∈ Dict.keys a.content, Dict.find? x (combine a b).content = Dict.find? x a.content) ∧
    (∀ f ∈ Dict.keys b.content, Dict.find? (placed a b f) (combine a b).content = Dict.find? f b.content) ∧
    Set.BijOn (placed a b) {f | f ∈ Dict.keys b.content}
      {x | x ∈ Dict.keys (combine a b).content ∧ x ∉ Dict.keys a.content} ∧
    (Dict.keys a.content ⊆ a.fields → Dict.keys (combine a b).content ⊆ (combine a b).fields) ∧
    ∀ table, (combine a b).covers table = true ↔
      a.covers table = true ∨ table = b.table.name ∨ table ∈ b.joined := by
  rw [placed_eq]
  refine ⟨combine_table, combine_key, fun x => find?_combine_of_mem ha hb hd,
    fun f => find?_combine_freeName hb hd, bijOn_freeName ha hb hd, keys_subset_fields_combine, fun table => ?_⟩
  rw [covers_combine, Bool.or_eq_true, List.contains_iff_mem, List.mem_cons]

end Lossless

def buyer : Row :=
  { Row.ofValue (.named "users") "u1" (.object [("id", .int 1), ("orders.id", .int 7), ("total", .int 5)]) with
    joined := ["orders"] }

def parcel : Row :=
  { Row.ofValue (.named "parcels") "p1" (.object [("id", .int 9), ("orders.id", .int 8), ("weight", .null)]) with
    joined := ["orders", "senders"] }

theorem combine_lossless_parcel :
    Unqualified "parcels" buyer.content ∧ Unqualified "parcels" parcel.content ∧
    (Dict.keys parcel.content).Nodup ∧ Dict.keys buyer.content ⊆ buyer.fields ∧
    Dict.find? "parcels.orders.id" (combine buyer parcel).content = some (.int 8) ∧
    (combine buyer parcel).content = [("id", .int 1), ("orders.id", .int 7), ("parcels.id", .int 9),
      ("parcels.orders.id", .int 8), ("total", .int 5), ("weight", .null)] ∧
    Dict.keys (combine buyer parcel).content ⊆ (combine buyer parcel).fields ∧
    (combine buyer parcel).covers "senders" = true := by
  have ha : Unqualified "parcels" buyer.content := unqualified_iff.mpr (by decide)
  have hb : Unqualified "parcels" parcel.content := unqualified_iff.mpr (by decide)
  have hd : (Dict.keys parcel.content).Nodup := by decide
  have hlisted : Dict.keys buyer.content ⊆ buyer.fields := List.Subset.refl _
  obtain ⟨-, -, -, hplaced, -, hfields, hcovers⟩ := combine_lossless (a := buyer) ha hb hd
  refine ⟨ha, hb, hd, hlisted, hplaced "orders.id" (by decide), rfl, hfields hlisted, ?_⟩
  exact (hcovers "senders").mpr (.inr (.inr (by decide)))

lemma combine_of {t u : Table} {tables : List String} (ha : a.Of t tables) (hb : b.table = u) :
    (combine a b).Of t (tables ++ [u.name]) := by
  refine ⟨combine_table.trans ha.own, fun name hn => ?_, sorted_combine ha.sorted⟩
  rw [covers_combine, hb]
  rcases List.mem_append.mp hn with hn | hn
  · simp [ha.covers name hn]
  · simp [List.mem_singleton.mp hn]

lemma join_of {j : Join} (hj : j.kind = .inner ∨ j.kind = .left) {t u : Table} (hu : j.other.table = some u)
    {tables : List String} {as bs : List Row} (ha : ∀ r ∈ as, r.Of t tables) (hb : ∀ r ∈ bs, r.table = u) :
    ∀ r ∈ join j as bs, r.Of t (tables ++ [u.name]) := by
  have hmissing : (standIn bs (sideTable j.other bs)).table = u := by
    rw [standIn_table, sideTable, hu]
    cases bs with
    | nil => rfl
    | cons b bs => exact hb b List.mem_cons_self
  intro r hr
  rcases hj with hj | hj
  · rw [join, hj] at hr
    obtain ⟨a, ham, hr⟩ := List.mem_flatMap.mp hr
    obtain ⟨b, hbm, rfl⟩ := List.mem_map.mp hr
    exact combine_of (ha a ham) (hb b (List.mem_filter.mp hbm).1)
  · rw [join, hj] at hr
    obtain ⟨a, ham, hr⟩ := List.mem_flatMap.mp hr
    split at hr
    · obtain rfl := List.mem_singleton.mp hr
      exact combine_of (ha a ham) hmissing
    · obtain ⟨b, hbm, rfl⟩ := List.mem_map.mp hr
      exact combine_of (ha a ham) (hb b (List.mem_filter.mp hbm).1)

end Rows

namespace Tables

def Canonical (ts : Tables) : Prop :=
  ∀ {name key fields}, (key, Value.object fields) ∈ ts.rows name → Dict.Sorted fields

lemma canonical_ofObjects {objects : Dict (Dict (Dict Value))} (h : ∀ e ∈ objects, ∀ d ∈ e.2, Dict.Sorted d.2) :
    (ofObjects objects).Canonical := by
  intro name key fields hm
  rw [rows_ofObjects] at hm
  rcases hf : Dict.find? name objects with _ | rows
  · rw [hf] at hm
    cases hm
  · rw [hf] at hm
    obtain ⟨d, hd, he⟩ := List.mem_map.mp hm
    cases he
    exact h _ (Dict.mem_of_find? hf) d hd

lemma Canonical.of_mem_rowsOf {ts : Tables} (hts : ts.Canonical) {bound : Option Bound} {t : Table} {r : Row}
    (h : r ∈ ts.rowsOf bound t) : r.Of t [t.name] := by
  obtain ⟨⟨key, v⟩, he, rfl⟩ := List.mem_map.mp h
  refine ⟨rfl, fun name hn => ?_, ?_⟩
  · obtain rfl := List.mem_singleton.mp hn
    simp [Row.covers, Row.ofValue]
  · cases v with
    | object fields => exact hts ((ts.fetch_sublist t.name bound).subset he)
    | null => exact .nil
    | _ => exact List.pairwise_singleton _ _

end Tables

namespace Query

variable {t : Table}

lemma applyJoins_of {js : List Join} (hk : ∀ j ∈ js, j.kind = .inner ∨ j.kind = .left) {rows : List Row}
    {sets : RowSets} {tables : List String} {s s' : Store} (hr : ∀ r ∈ rows, r.Of t tables)
    (h : (applyJoins t [(t.name, rows)] js).run s = (.ok sets, s')) :
    ∃ joined, sets = [(t.name, joined)] ∧
      ∀ r ∈ joined, r.Of t (tables ++ js.filterMap fun j => j.other.tableName?) := by
  refine applyJoins_invariant (motive := fun done joined =>
    ∀ r ∈ joined, r.Of t (tables ++ done.filterMap fun j => j.other.tableName?)) []
    (by simpa using hr) (fun j _ done joined hn hrows => ?_) (fun j hm done joined others u hu hothers hrows => ?_) h
  · have hj : j.other.tableName? = none := by rw [Column.tableName?, hn]; rfl
    simpa [List.filterMap_append, hj] using hrows
  · have hj : j.other.tableName? = some u.name := by rw [Column.tableName?, hu]; rfl
    simpa [List.filterMap_append, hj] using Rows.join_of (hk j hm) hu hrows hothers

end Query

end DocQuery
