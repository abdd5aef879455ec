import DocQuery.Proofs.Rows.Joining

/-! What the columns of either table read in the rows of a join. A missing field is read from the other
table if that one has it, so that a column is certain to read what it reads in a row of its own table only
if the other row has nothing under its name. -/

namespace DocQuery

structure Row.Plain (r : Row) : Prop where
  nodup : (Dict.keys r.content).Nodup
  fields : ∀ {name}, name ∈ r.fields ↔ name ∈ Dict.keys r.content
  noDot : ∀ {name}, name ∈ Dict.keys r.content → '.' ∉ name.toList

lemma Row.plain_ofValue {table : Table} {key : String} {fields : Dict Value} (hd : (Dict.keys fields).Nodup)
    (h : ∀ name ∈ Dict.keys fields, '.' ∉ name.toList) : (ofValue table key (.object fields)).Plain :=
  ⟨hd, Iff.rfl, fun {name} => h name⟩

lemma Row.field_of_not_mem {r : Row} {x : String} (h : x ∉ Dict.keys r.content) : r.field x = .null := by
  rw [field, Dict.find?_eq_none_iff.mpr h, Option.getD_none]

lemma Row.read_own {r : Row} {c : Column} (h : c.tableName? = some r.table.name) (hk : c.isKey = false) :
    r.read c = r.field c.name := by
  rw [read, if_neg (ne_true_of_eq_false hk), h]
  exact if_pos rfl

lemma Row.read_other {r : Row} {c : Column} {table : String} (h : c.tableName? = some table)
    (hne : table ≠ r.table.name) (hk : c.isKey = false) :
    r.read c = (Dict.find? (table ++ "." ++ c.name) r.content).getD (r.field c.name) := by
  rw [read, if_neg (ne_true_of_eq_false hk), h, Option.getD_some, if_neg hne]
  cases Dict.find? (table ++ "." ++ c.name) r.content <;> rfl

lemma Row.read_key {r : Row} {c : Column} (hk : c.isKey = true) : r.read c = .string r.key := if_pos hk

namespace Rows

lemma dotted (table name : String) : '.' ∈ (table ++ "." ++ name).toList := by
  rw [String.toList_append, String.toList_append]
  exact List.mem_append_left _ (List.mem_append_right _ List.mem_cons_self)

lemma unqualified_of_noDot {d : Dict Value} (h : ∀ name ∈ Dict.keys d, '.' ∉ name.toList) (table : String) :
    Unqualified table d :=
  fun name hm => h _ hm (dotted table name)

section Pair

variable {a b : Row} {c : Column}

lemma read_combine_own (ha : Unqualified b.table.name a.content) (hf : Unqualified b.table.name b.content)
    (hd : (Dict.keys b.content).Nodup) (hc : c.tableName? = some a.table.name) :
    (combine a b).read c = a.read c ↔ c.isKey = true ∨ Vacant a.content b c.name := by
  cases hk : c.isKey with
  | true => simp [Row.read_key hk]
  | false =>
    have hr : (combine a b).read c = (combine a b).field c.name := Row.read_own (by simpa using hc) hk
    rw [hr, Row.read_own hc hk]
    by_cases hm : c.name ∈ Dict.keys a.content
    · rw [field_combine_of_mem ha hf hd hm]
      refine ⟨fun _ => .inr ?_, fun _ => rfl⟩
      rintro name he
      exact (freeName_not_mem ha (he ▸ hm)).elim
    · rw [Row.field_of_not_mem hm, field_combine_eq_null ha hf hd, Row.field_of_not_mem hm]
      simp

lemma read_combine_other (ha : Unqualified b.table.name a.content) (hf : Unqualified b.table.name b.content)
    (hd : (Dict.keys b.content).Nodup) (hne : b.table.name ≠ a.table.name)
    (hc : c.tableName? = some b.table.name) (hk : c.isKey = false) :
    (combine a b).read c = if c.name ∈ Dict.keys b.content then b.field c.name else (combine a b).field c.name := by
  rw [Row.read_other hc (by simpa using hne) hk, find?_combine_qualified ha hf hd]
  by_cases hb : c.name ∈ Dict.keys b.content
  · obtain ⟨v, hv⟩ : ∃ v, Dict.find? c.name b.content = some v := by
      rw [← Option.isSome_iff_exists]
      exact Dict.contains_iff.mpr hb
    rw [if_pos hb]
    split
    · simp only [Row.field, hv, Option.getD_some]
    · next hm =>
      have hr := (find?_renamed hf hd).mpr ⟨c.name, hv, freeName_of_not_mem hm⟩
      rw [Option.getD_none, Row.field, find?_combine hf hd, hr, Option.some_or, Row.field, hv]
  · rw [if_neg hb, Dict.find?_eq_none_iff.mpr hb, ite_self, Option.getD_none]

lemma read_combine_other_iff (ha : Unqualified b.table.name a.content)
    (hf : Unqualified b.table.name b.content) (hd : (Dict.keys b.content).Nodup)
    (hne : b.table.name ≠ a.table.name) (hc : c.tableName? = some b.table.name) :
    (combine a b).read c = b.read c ↔
      if c.isKey = true then a.key = b.key
      else c.name ∈ Dict.keys b.content ∨ a.field c.name = .null ∧ Vacant a.content b c.name := by
  cases hk : c.isKey with
  | true => simp [Row.read_key hk]
  | false =>
    rw [read_combine_other ha hf hd hne hc hk, Row.read_own hc hk, if_neg Bool.false_ne_true]
    split
    · next hm => simp [hm]
    · next hm =>
      rw [Row.field_of_not_mem hm, field_combine_eq_null ha hf hd]
      simp [hm]

end Pair

structure Sided (j : Join) (as bs : List Row) (A B : String) : Prop where
  ne : A ≠ B
  own : ∀ a ∈ as, a.table.name = A ∧ a.Plain
  other : ∀ b ∈ bs, b.table.name = B ∧ b.Plain
  ownTable : as = [] → j.own.tableName? = some A
  otherTable : bs = [] → j.other.tableName? = some B

def noOther (j : Join) (bs : List Row) : Row := standIn bs (sideTable j.other bs)

def noOwn (j : Join) (as : List Row) : Row := standIn as (sideTable j.own as)

inductive Origin (j : Join) (as bs : List Row) : Row → Prop
  | pair {a b : Row} : a ∈ as → b ∈ bs → isMatch j a b = true → Origin j as bs (combine a b)
  | alone {a : Row} : a ∈ as → (∀ b ∈ bs, isMatch j a b = false) → Origin j as bs (combine a (noOther j bs))
  | orphan {b : Row} : b ∈ bs → (∀ a ∈ as, isMatch j a b = false) →
    Origin j as bs { combine (noOwn j as) b with key := b.key }

section Origins

variable {j : Join} {as bs : List Row} {r : Row}

lemma origin_of_mem_inner (h : r ∈ inner j as bs) : Origin j as bs r := by
  obtain ⟨a, ha, h⟩ := List.mem_flatMap.mp h
  obtain ⟨b, hb, rfl⟩ := List.mem_map.mp h
  obtain ⟨hb, hm⟩ := List.mem_filter.mp hb
  exact .pair ha hb hm

lemma origin_of_mem_left (h : r ∈ left j as bs) : Origin j as bs r := by
  obtain ⟨a, ha, h⟩ := List.mem_flatMap.mp h
  split at h
  · next hnone =>
    obtain rfl := List.mem_singleton.mp h
    exact .alone ha fun b hb => Bool.eq_false_iff.mpr (List.filter_eq_nil_iff.mp hnone b hb)
  · obtain ⟨b, hb, rfl⟩ := List.mem_map.mp h
    obtain ⟨hb, hm⟩ := List.mem_filter.mp hb
    exact .pair ha hb hm

lemma origin_of_mem_right (h : r ∈ right j as bs) : Origin j as bs r := by
  obtain ⟨b, hb, h⟩ := List.mem_flatMap.mp h
  split at h
  · next hnone =>
    obtain rfl := List.mem_singleton.mp h
    exact .orphan hb fun a ha => Bool.eq_false_iff.mpr (List.filter_eq_nil_iff.mp hnone a ha)
  · obtain ⟨a, ha, rfl⟩ := List.mem_map.mp h
    obtain ⟨ha, hm⟩ := List.mem_filter.mp ha
    exact .pair ha hb hm

lemma origin_of_mem_join (h : r ∈ join j as bs) : Origin j as bs r := by
  unfold join at h
  split at h
  · exact origin_of_mem_inner h
  · exact origin_of_mem_left h
  · exact origin_of_mem_right h
  · rcases List.mem_append.mp h with h | h
    · exact origin_of_mem_left h
    · exact origin_of_mem_right h

end Origins

section Sides

variable {j : Join} {as bs : List Row} {A B : String} (h : Sided j as bs A B)

include h

lemma Sided.noOther_table : (noOther j bs).table.name = B := by
  rw [noOther, standIn_table]
  cases bs with
  | nil =>
    obtain ⟨t, ht, hn⟩ := Option.map_eq_some_iff.mp (h.otherTable rfl)
    simp [sideTable, ht, hn]
  | cons b bs => exact (h.other b List.mem_cons_self).1

lemma Sided.noOwn_table : (noOwn j as).table.name = A := by
  rw [noOwn, standIn_table]
  cases as with
  | nil =>
    obtain ⟨t, ht, hn⟩ := Option.map_eq_some_iff.mp (h.ownTable rfl)
    simp [sideTable, ht, hn]
  | cons a as => exact (h.own a List.mem_cons_self).1

lemma Sided.unqualified_own {a : Row} (ha : a ∈ as) (table : String) : Unqualified table a.content :=
  unqualified_of_noDot (fun _ => (h.own a ha).2.noDot) table

lemma Sided.unqualified_other {b : Row} (hb : b ∈ bs) (table : String) : Unqualified table b.content :=
  unqualified_of_noDot (fun _ => (h.other b hb).2.noDot) table

lemma Sided.unqualified_noOther (table : String) : Unqualified table (noOther j bs).content := by
  refine unqualified_of_noDot (fun name hm => ?_) table
  obtain ⟨b, hb, hf⟩ := mem_keys_standIn.mp hm
  exact (h.other b hb).2.noDot ((h.other b hb).2.fields.mp hf)

lemma Sided.unqualified_noOwn (table : String) : Unqualified table (noOwn j as).content := by
  refine unqualified_of_noDot (fun name hm => ?_) table
  obtain ⟨a, ha, hf⟩ := mem_keys_standIn.mp hm
  exact (h.own a ha).2.noDot ((h.own a ha).2.fields.mp hf)

lemma Sided.read_alone {a : Row} (ha : a ∈ as) {c : Column} (hc : c.tableName? = some B) :
    (combine a (noOther j bs)).read c = .null ↔
      c.isKey = false ∧ ((∃ b ∈ bs, c.name ∈ b.fields) ∨ a.field c.name = .null) := by
  cases hk : c.isKey with
  | true => simp [Row.read_key hk]
  | false =>
    have hua := h.unqualified_own ha (noOther j bs).table.name
    have hum := h.unqualified_noOther (noOther j bs).table.name
    have hne : (noOther j bs).table.name ≠ a.table.name := by
      rw [h.noOther_table, (h.own a ha).1]
      exact h.ne.symm
    have hvacant : Vacant a.content (noOther j bs) c.name := fun name _ => field_standIn bs _ name
    rw [read_combine_other hua hum (nodup_standIn bs _) hne (hc.trans (congrArg some h.noOther_table.symm)) hk]
    split
    · next hm => simp [noOther, field_standIn, mem_keys_standIn.mp hm]
    · next hm =>
      have hnone : ¬ ∃ b ∈ bs, c.name ∈ b.fields := fun hf => hm (mem_keys_standIn.mpr hf)
      simp [field_combine_eq_null hua hum (nodup_standIn bs _), hvacant, hnone]

lemma Sided.read_orphan {b : Row} (hb : b ∈ bs) {c : Column} (hc : c.tableName? = some A) :
    ({ combine (noOwn j as) b with key := b.key } : Row).read c = .null ↔
      c.isKey = false ∧ Vacant (noOwn j as).content b c.name := by
  cases hk : c.isKey with
  | true => simp [Row.read_key hk]
  | false =>
    have hu := h.unqualified_noOwn b.table.name
    have hub := h.unqualified_other hb b.table.name
    have ht : c.tableName? = some (combine (noOwn j as) b).table.name := by
      rw [combine_table, h.noOwn_table, hc]
    have hr : ({ combine (noOwn j as) b with key := b.key } : Row).read c =
        (combine (noOwn j as) b).field c.name := Row.read_own ht hk
    rw [hr, field_combine_eq_null hu hub (h.other b hb).2.nodup]
    simp [noOwn, field_standIn]

end Sides

theorem read_join_iff {j : Join} {as bs : List Row} {A B : String} (h : Sided j as bs A B) (c : Column) :
    (∀ r ∈ join j as bs, Origin j as bs r) ∧
    (∀ a ∈ as, ∀ b ∈ bs,
      (c.tableName? = some A →
        ((combine a b).read c = a.read c ↔ c.isKey = true ∨ Vacant a.content b c.name)) ∧
      (c.tableName? = some B →
        ((combine a b).read c = b.read c ↔
          if c.isKey = true then a.key = b.key
          else c.name ∈ Dict.keys b.content ∨ a.field c.name = .null ∧ Vacant a.content b c.name))) ∧
    (∀ a ∈ as, c.tableName? = some B →
      ((combine a (noOther j bs)).read c = .null ↔
        c.isKey = false ∧ ((∃ b ∈ bs, c.name ∈ b.fields) ∨ a.field c.name = .null))) ∧
    (∀ b ∈ bs, c.tableName? = some A →
      (({ combine (noOwn j as) b with key := b.key } : Row).read c = .null ↔
        c.isKey = false ∧ Vacant (noOwn j as).content b c.name)) := by
  refine ⟨fun _ => origin_of_mem_join, fun a ha b hb => ?_, fun a ha hc => h.read_alone ha hc,
    fun b hb hc => h.read_orphan hb hc⟩
  have hua := h.unqualified_own ha b.table.name
  have hub := h.unqualified_other hb b.table.name
  have hd := (h.other b hb).2.nodup
  refine ⟨fun hc => ?_, fun hc => ?_⟩
  · exact read_combine_own hua hub hd (hc.trans (congrArg some (h.own a ha).1.symm))
  · have hne : b.table.name ≠ a.table.name := by
      rw [(h.own a ha).1, (h.other b hb).1]
      exact h.ne.symm
    exact read_combine_other_iff hua hub hd hne (hc.trans (congrArg some (h.other b hb).1.symm))

def userAnn : Row := .ofValue (.named "users") "u1" (.object [("id", .string "ann"), ("name", .string "Ann")])

def orderOfAnn : Row := .ofValue (.named "orders") "o1" (.object [("note", .string "Mug"), ("userId", .string "ann")])

def toOrders (kind : JoinKind) : Join := ⟨kind, .ofTable (.named "users") "id", .ofTable (.named "orders") "userId"⟩

lemma sided_ann (kind : JoinKind) : Sided (toOrders kind) [userAnn] [orderOfAnn] "users" "orders" where
  ne := by decide
  own := List.forall_mem_singleton.mpr ⟨rfl, Row.plain_ofValue (by decide) (by decide)⟩
  other := List.forall_mem_singleton.mpr ⟨rfl, Row.plain_ofValue (by decide) (by decide)⟩
  ownTable := nofun
  otherTable := nofun

theorem read_join_iff_ann :
    Sided (toOrders .full) [userAnn] [orderOfAnn] "users" "orders" ∧
      (∀ r ∈ join (toOrders .full) [userAnn] [orderOfAnn], Origin (toOrders .full) [userAnn] [orderOfAnn] r) ∧
      ((combine userAnn orderOfAnn).read (.ofTable (.named "orders") "name") =
          orderOfAnn.read (.ofTable (.named "orders") "name") ↔
        "name" ∈ Dict.keys orderOfAnn.content ∨
          userAnn.field "name" = .null ∧ Vacant userAnn.content orderOfAnn "name") := by
  have h := sided_ann .full
  have hr := read_join_iff h (.ofTable (.named "orders") "name")
  have hm : userAnn ∈ [userAnn] ∧ orderOfAnn ∈ [orderOfAnn] := ⟨List.mem_cons_self, List.mem_cons_self⟩
  exact ⟨h, hr.1, (hr.2.1 userAnn hm.1 orderOfAnn hm.2).2 rfl⟩

/-- A column that a user lacks is read from the order, and one of a missing order from the user; the key
of an order is that of the user. -/
theorem read_join_from_other :
    Sided (toOrders .inner) [userAnn] [orderOfAnn] "users" "orders" ∧
      join (toOrders .inner) [userAnn] [orderOfAnn] = [combine userAnn orderOfAnn] ∧
      userAnn.read (.ofTable (.named "users") "note") = .null ∧
      (combine userAnn orderOfAnn).read (.ofTable (.named "users") "note") = .string "Mug" ∧
      orderOfAnn.read (.ofTable (.named "orders") "_key") = .string "o1" ∧
      (combine userAnn orderOfAnn).read (.ofTable (.named "orders") "_key") = .string "u1" ∧
      Sided (toOrders .left) [userAnn] [] "users" "orders" ∧
      join (toOrders .left) [userAnn] [] = [combine userAnn (noOther (toOrders .left) [])] ∧
      (combine userAnn (noOther (toOrders .left) [])).read (.ofTable (.named "orders") "name") =
        .string "Ann" := by
  have hl : Sided (toOrders .left) [userAnn] [] "users" "orders" :=
    { sided_ann .left with other := nofun, otherTable := fun _ => rfl }
  exact ⟨sided_ann .inner, rfl, rfl, rfl, rfl, rfl, hl, rfl, rfl⟩

end Rows

end DocQuery
