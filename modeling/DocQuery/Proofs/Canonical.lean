import DocQuery.Proofs.Dictionaries
import DocQuery.Value

namespace DocQuery

lemma Dict.ofList_eq_self {α : Type} {d : Dict α} (h : Sorted d) : ofList d = d :=
  ext_of_sorted (sorted_ofList d) h (find?_ofList_of_nodup h.nodup)

namespace Value

lemma canonicalItems_eq_map (vs : List Value) : canonicalItems vs = vs.map canonical := by
  induction vs with
  | nil => rfl
  | cons v vs ih => rw [canonicalItems, List.map_cons, ih]

lemma canonicalFields_eq_mapValues (fields : List (String × Value)) :
    canonicalFields fields = Dict.mapValues canonical fields := by
  induction fields with
  | nil => rfl
  | cons e fields ih => rw [canonicalFields, Dict.mapValues, List.map_cons, ih, Dict.mapValues]

lemma canonical_array (items : List Value) : (array items).canonical = array (items.map canonical) := by
  rw [canonical, canonicalItems_eq_map]

lemma canonical_object (fields : List (String × Value)) :
    (object fields).canonical = object (Dict.ofList (Dict.mapValues canonical fields)) := by
  rw [canonical, canonicalFields_eq_mapValues]

lemma canonical_object_eq_self {fields : List (String × Value)} (hs : Dict.Sorted fields)
    (hf : ∀ e ∈ fields, e.2.canonical = e.2) : (object fields).canonical = object fields := by
  have hm : Dict.mapValues canonical fields = fields := by
    refine (List.map_congr_left fun e he => ?_).trans (List.map_id _)
    exact Prod.ext rfl (hf e he)
  rw [canonical_object, hm, Dict.ofList_eq_self hs]

lemma canonical_object_spec (fields : List (String × Value)) : ∃ fields', (object fields).canonical = object fields' ∧
    Dict.Sorted fields' ∧ ∀ e ∈ fields', ∃ d ∈ fields, e.2 = d.2.canonical := by
  refine ⟨_, canonical_object fields, Dict.sorted_ofList _, fun e he => ?_⟩
  obtain ⟨d, hd, rfl⟩ := List.mem_map.mp (Dict.mem_ofList he)
  exact ⟨d, hd, rfl⟩

mutual

lemma canonical_canonical (v : Value) : v.canonical.canonical = v.canonical := by
  cases v with
  | array items =>
    rw [canonical_array, canonical_array, List.map_map]
    exact congrArg array (List.map_congr_left fun v hv => canonical_canonical_of_mem items v hv)
  | object fields =>
    obtain ⟨fields', he, hs, hf⟩ := canonical_object_spec fields
    rw [he]
    refine canonical_object_eq_self hs fun e hm => ?_
    obtain ⟨d, hd, hv⟩ := hf e hm
    rw [hv]
    exact canonical_canonical_of_mem_fields fields d hd
  | _ => rfl

lemma canonical_canonical_of_mem (vs : List Value) : ∀ v ∈ vs, v.canonical.canonical = v.canonical := by
  cases vs with
  | nil => exact fun _ hm => nomatch hm
  | cons v vs => exact List.forall_mem_cons.mpr ⟨canonical_canonical v, canonical_canonical_of_mem vs⟩

lemma canonical_canonical_of_mem_fields (fields : List (String × Value)) :
    ∀ e ∈ fields, e.2.canonical.canonical = e.2.canonical := by
  match fields with
  | [] => exact fun _ hm => nomatch hm
  | (_, v) :: fields =>
    exact List.forall_mem_cons.mpr ⟨canonical_canonical v, canonical_canonical_of_mem_fields fields⟩

end

lemma sorted_of_canonical {fields : List (String × Value)} (h : (object fields).canonical = object fields) :
    Dict.Sorted fields ∧ ∀ e ∈ fields, e.2.canonical = e.2 := by
  obtain ⟨fields', he, hs, hf⟩ := canonical_object_spec fields
  obtain rfl : fields' = fields := object.inj (he.symm.trans h)
  refine ⟨hs, fun e hm => ?_⟩
  obtain ⟨d, _, hv⟩ := hf e hm
  rw [hv]
  exact canonical_canonical d.2

end Value

end DocQuery
