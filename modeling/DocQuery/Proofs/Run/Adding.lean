import DocQuery.Plan.Builder
import DocQuery.Proofs.Run.PartialFailures

/-! Insertion into a store in memory that refuses nothing: which rows there are afterwards, and when none that was
there, and none of the data, is lost to another one with its key. -/

namespace DocQuery

namespace Insert

/-- The keys of data: each that it brings, or else the next of the new ones. -/
def keysFrom [Source] : Nat → List (String × Value) → List String
  | _, [] => []
  | issued, (_, v) :: jobs =>
    (splitKey v).2.getD (Source.key (issued + 1)) ::
      keysFrom (issued + if (splitKey v).2.isSome then 0 else 1) jobs

def rowsFor (name : String) (jobs : List (String × Value)) (keys : List String) : Dict Value :=
  ((jobs.zip keys).filter (·.1.1 == name)).map fun x => (x.2, (splitKey x.1.2).1)

def ownKeys (vs : List Value) : List String := vs.filterMap fun v => (splitKey v).2

section Rows

variable {issued : Nat} {name name' key : String} {v : Value} {jobs : List (String × Value)} {keys : List String}

lemma rowsFor_cons_self :
    rowsFor name ((name, v) :: jobs) (key :: keys) = (key, (splitKey v).1) :: rowsFor name jobs keys := by
  simp [rowsFor]

lemma rowsFor_cons_of_ne (h : name ≠ name') :
    rowsFor name' ((name, v) :: jobs) (key :: keys) = rowsFor name' jobs keys := by
  simp [rowsFor, h]

lemma mem_rowsFor {job : String × Value} (h : (job, key) ∈ jobs.zip keys) :
    (key, (splitKey job.2).1) ∈ rowsFor job.1 jobs keys :=
  List.mem_map_of_mem (List.mem_filter.mpr ⟨h, beq_self_eq_true job.1⟩)

lemma rowsFor_of_not_mem (h : name ∉ jobs.map (·.1)) : rowsFor name jobs keys = [] := by
  rw [rowsFor, List.map_eq_nil_iff, List.filter_eq_nil_iff]
  rintro ⟨job, key⟩ hm he
  exact h (beq_iff_eq.mp he ▸ List.mem_map_of_mem (List.of_mem_zip hm).1)

lemma ownKeys_cons_of_some {vs : List Value} (h : (splitKey v).2 = some key) :
    ownKeys (v :: vs) = key :: ownKeys vs :=
  List.filterMap_cons_some h

lemma ownKeys_cons_of_none {vs : List Value} (h : (splitKey v).2 = none) : ownKeys (v :: vs) = ownKeys vs :=
  List.filterMap_cons_none h

lemma forall₂_keysFrom [Source] (issued : Nat) (jobs : List (String × Value)) :
    List.Forall₂ (fun job key => ∀ own, (splitKey job.2).2 = some own → key = own) jobs (keysFrom issued jobs) := by
  induction jobs generalizing issued with
  | nil => exact .nil
  | cons job jobs ih =>
    refine .cons (fun own hown => ?_) (ih _)
    rw [hown, Option.getD_some]

lemma length_keysFrom [Source] (issued : Nat) (jobs : List (String × Value)) :
    (keysFrom issued jobs).length = jobs.length :=
  (forall₂_keysFrom issued jobs).length_eq.symm

end Rows

inductive Keyed [Source] : Nat → List Value → List String → Prop where
  | nil {issued : Nat} : Keyed issued [] []
  | own {issued : Nat} {v : Value} {vs : List Value} {key : String} {keys : List String} :
      (splitKey v).2 = some key → Keyed issued vs keys → Keyed issued (v :: vs) (key :: keys)
  | fresh {issued n : Nat} {v : Value} {vs : List Value} {keys : List String} :
      (splitKey v).2 = none → issued < n → Keyed n vs keys → Keyed issued (v :: vs) (Source.key n :: keys)

namespace Keyed

variable [Source] {issued : Nat} {vs : List Value} {keys : List String} {key : String}

lemma mono (h : Keyed issued vs keys) {earlier : Nat} (hle : earlier ≤ issued) : Keyed earlier vs keys := by
  induction h with
  | nil => exact .nil
  | own hk _ ih => exact .own hk (ih hle)
  | fresh hk hlt h _ => exact .fresh hk (Nat.lt_of_le_of_lt hle hlt) h

lemma length_eq (h : Keyed issued vs keys) : keys.length = vs.length := by
  induction h with
  | nil => rfl
  | own _ _ ih | fresh _ _ _ ih => rw [List.length_cons, List.length_cons, ih]

lemma origin (h : Keyed issued vs keys) (hm : key ∈ keys) :
    key ∈ ownKeys vs ∨ ∃ n, issued < n ∧ key = Source.key n := by
  induction h with
  | nil => cases hm
  | own hk _ ih =>
    rw [ownKeys_cons_of_some hk]
    rcases List.mem_cons.mp hm with rfl | hm
    · exact .inl List.mem_cons_self
    · exact (ih hm).imp_left (List.mem_cons_of_mem _)
  | fresh hk hlt _ ih =>
    rw [ownKeys_cons_of_none hk]
    rcases List.mem_cons.mp hm with rfl | hm
    · exact .inr ⟨_, hlt, rfl⟩
    · exact (ih hm).imp_right fun ⟨n, hn, he⟩ => ⟨n, Nat.lt_trans hlt hn, he⟩

lemma own_mem (h : Keyed issued vs keys) (hm : key ∈ ownKeys vs) : key ∈ keys := by
  induction h with
  | nil => cases hm
  | own hk _ ih =>
    rw [ownKeys_cons_of_some hk] at hm
    rcases List.mem_cons.mp hm with rfl | hm
    · exact List.mem_cons_self
    · exact List.mem_cons_of_mem _ (ih hm)
  | fresh hk _ _ ih =>
    rw [ownKeys_cons_of_none hk] at hm
    exact List.mem_cons_of_mem _ (ih hm)

lemma nodup_iff (h : Keyed issued vs keys) (hb : ∀ n > issued, Source.key n ∉ ownKeys vs) :
    keys.Nodup ↔ (ownKeys vs).Nodup := by
  induction h with
  | nil => exact Iff.rfl
  | own hk h ih =>
    rw [ownKeys_cons_of_some hk] at hb ⊢
    rw [List.nodup_cons, List.nodup_cons, ih fun n hn hin => hb n hn (List.mem_cons_of_mem _ hin)]
    refine and_congr_left fun _ => not_congr ⟨fun hin => ?_, h.own_mem⟩
    rcases h.origin hin with hown | ⟨n, hn, rfl⟩
    · exact hown
    · exact absurd List.mem_cons_self (hb n hn)
  | @fresh issued m v vs keys hk hlt h ih =>
    rw [ownKeys_cons_of_none hk] at hb ⊢
    rw [List.nodup_cons, ih fun n hn => hb n (Nat.lt_trans hlt hn), and_iff_right]
    -- the new key is of no later datum: those that are brought are not new, those that are new come after it
    intro hin
    rcases h.origin hin with hown | ⟨n, hn, he⟩
    · exact hb m hlt hown
    · exact absurd (Source.key_injective he) (Nat.ne_of_lt hn)

end Keyed

lemma keyed_rowsFor [Source] (issued : Nat) (name : String) (jobs : List (String × Value)) :
    Keyed issued (dataFor name jobs) (Dict.keys (rowsFor name jobs (keysFrom issued jobs))) := by
  induction jobs generalizing issued with
  | nil => exact .nil
  | cons job jobs ih =>
    obtain ⟨name', v⟩ := job
    rw [keysFrom]
    by_cases hn : name' = name
    · subst hn
      rw [rowsFor_cons_self, dataFor_cons_self]
      rcases hk : (splitKey v).2 with _ | key
      · exact .fresh hk (Nat.lt_succ_self issued) (ih _)
      · exact .own hk (ih _)
    · rw [rowsFor_cons_of_ne hn, dataFor_cons_of_ne hn]
      exact (ih _).mono (Nat.le_add_right _ _)

section Run

variable {s : Store}

lemma rows_adding [Source] (s : Store) (name name' : String) (content : Value) (key : Option String) :
    (s.adding name content key).tables.rows name' =
      if name' = name then Dict.insert (s.keyFor key) content (s.tables.rows name) else s.tables.rows name' := by
  rw [Tables.rows, Store.find?_adding]
  split <;> rfl

lemma failures_accepted (added : List (String × String)) : failures (added.map fun e => (e.1, .ok e.2)) = [] := by
  rw [failures, List.foldl_map]
  exact List.foldl_fixed added

lemma keys_accepted (added : List (String × String)) :
    keys (added.map fun e => (e.1, .ok e.2)) = added.map (·.2) := by
  rw [keys, List.filterMap_map, ← List.filterMap_eq_map]
  rfl

lemma run_tryAll_keysFrom [Source] (hm : s.medium = .memory) (hr : s.readOnly = []) (jobs : List (String × Value)) :
    ∃ s', (tryAll jobs).run s =
        (.ok (((jobs.map (·.1)).zip (keysFrom s.issued jobs)).map fun e => (e.1, .ok e.2)), s') ∧
      ∀ name, s'.tables.rows name = Dict.merge (s.tables.rows name) (rowsFor name jobs (keysFrom s.issued jobs)) := by
  induction jobs generalizing s with
  | nil => exact ⟨s, rfl, fun _ => rfl⟩
  | cons job jobs ih =>
    obtain ⟨name, v⟩ := job
    have hnone : s.readOnly.contains name = false := by
      rw [hr]
      rfl
    obtain ⟨s', hrun, hrows⟩ := ih (s := s.adding name (splitKey v).1 (splitKey v).2) hm hr
    refine ⟨s', (run_tryAll_accepted hm hnone v jobs).trans (run_bind_of_ok hrun _), fun name' => ?_⟩
    rw [hrows, rows_adding, keysFrom]
    by_cases hn : name' = name
    · subst hn
      rw [if_pos rfl, rowsFor_cons_self]
      rfl
    · rw [if_neg hn, rowsFor_cons_of_ne (Ne.symm hn)]
      rfl

end Run

end Insert

namespace Plan

/-- The keys that a store would make up next are of no row of a table of the plan, and no datum brings one of them. -/
structure NewKeys [Source] (p : Plan) (s : Store) : Prop where
  stored : ∀ n > s.issued, ∀ t ∈ p.tables, s.tables.get? t.name (Source.key n) = none
  brought : ∀ n > s.issued, Source.key n ∉ Insert.ownKeys p.data

/-- Insertion that only adds: rows stay as they were, tables grow by all data, and each key leads to its datum. -/
structure OnlyAdds (p : Plan) (keys : List String) (ts ts' : Tables) : Prop where
  kept {name key content} : ts.get? name key = some content → ts'.get? name key = some content
  grown : ∀ t ∈ p.tables, (ts'.rows t.name).length = (ts.rows t.name).length + p.data.length
  placed : List.Forall₂ (fun job key => ts'.get? job.1 key = some (Insert.splitKey job.2).1) (Insert.jobs p) keys

variable {rs : Results} {p : Plan} {s s' : Store} {v : Value}

lemma filter_table {tables : List Table} (ht : (tables.map (·.name)).Nodup) {t : Table} (hm : t ∈ tables) :
    tables.filter (·.name == t.name) = [t] := by
  induction tables with
  | nil => cases hm
  | cons t' tables ih =>
    obtain ⟨hnot, ht⟩ := List.nodup_cons.mp ht
    rcases List.mem_cons.mp hm with rfl | hm
    · have hnone : tables.filter (·.name == t.name) = [] :=
        List.filter_eq_nil_iff.mpr fun t' hm he => hnot (List.mem_map.mpr ⟨t', hm, beq_iff_eq.mp he⟩)
      rw [List.filter_cons, hnone, if_pos (beq_self_eq_true t.name)]
    · have hne : ¬ (t'.name == t.name) = true :=
        fun he => hnot (List.mem_map.mpr ⟨t, hm, (beq_iff_eq.mp he).symm⟩)
      rw [List.filter_cons, if_neg hne, ih ht hm]

lemma dataFor_of_mem (ht : (p.tables.map (·.name)).Nodup) {t : Table} (hm : t ∈ p.tables) :
    Insert.dataFor t.name (Insert.jobs p) = p.data := by
  rw [Insert.jobs, dataFor_jobs, filter_table ht hm]
  exact List.append_nil _

lemma mem_jobs {job : String × Value} (h : job ∈ Insert.jobs p) : ∃ t ∈ p.tables, t.name = job.1 := by
  obtain ⟨t, ht, hjob⟩ := List.mem_flatMap.mp h
  obtain ⟨v, -, rfl⟩ := List.mem_map.mp hjob
  exact ⟨t, ht, rfl⟩

section Adding

variable [Source] (ht : (p.tables.map (·.name)).Nodup) (hs : ∀ name, Dict.Sorted (s.tables.rows name))
  {rows : String → Dict Value}
  (hrows : ∀ name, rows name = Insert.rowsFor name (Insert.jobs p) (Insert.keysFrom s.issued (Insert.jobs p)))
  (hmerge : ∀ name, s'.tables.rows name = Dict.merge (s.tables.rows name) (rows name))

include ht hs hrows hmerge

lemma grown_iff_free {t : Table} (hm : t ∈ p.tables) :
    (s'.tables.rows t.name).length = (s.tables.rows t.name).length + p.data.length ↔
      (Dict.keys (rows t.name)).Nodup ∧ ∀ key ∈ Dict.keys (rows t.name), key ∉ Dict.keys (s.tables.rows t.name) := by
  have hlength : (rows t.name).length = p.data.length := by
    have hkeys := (Insert.keyed_rowsFor s.issued t.name (Insert.jobs p)).length_eq
    rwa [dataFor_of_mem ht hm, ← hrows, Dict.keys, List.length_map] at hkeys
  rw [hmerge, ← hlength, Dict.length_merge_iff (hs t.name)]

lemma grown_iff (hk : p.NewKeys s) {t : Table} (hm : t ∈ p.tables) :
    (s'.tables.rows t.name).length = (s.tables.rows t.name).length + p.data.length ↔
      (Insert.ownKeys p.data).Nodup ∧ ∀ key ∈ Insert.ownKeys p.data, s.tables.get? t.name key = none := by
  have hkeyed := Insert.keyed_rowsFor s.issued t.name (Insert.jobs p)
  rw [dataFor_of_mem ht hm, ← hrows] at hkeyed
  rw [grown_iff_free ht hs hrows hmerge hm]
  refine and_congr (hkeyed.nodup_iff hk.brought) ⟨fun h key hkey => ?_, fun h key hkey => ?_⟩
  · exact Dict.find?_eq_none_iff.mpr (h key (hkeyed.own_mem hkey))
  · refine Dict.find?_eq_none_iff.mp ?_
    rcases hkeyed.origin hkey with hown | ⟨n, hlt, rfl⟩
    · exact h key hown
    · exact hk.stored n hlt t hm

lemma onlyAdds_of_grown (hgrown : ∀ t ∈ p.tables,
      (s'.tables.rows t.name).length = (s.tables.rows t.name).length + p.data.length) :
    p.OnlyAdds (Insert.keysFrom s.issued (Insert.jobs p)) s.tables s'.tables := by
  have hfree : ∀ job ∈ Insert.jobs p, (Dict.keys (rows job.1)).Nodup ∧
      ∀ key ∈ Dict.keys (rows job.1), key ∉ Dict.keys (s.tables.rows job.1) := by
    intro job hjob
    obtain ⟨t, hm, hname⟩ := mem_jobs hjob
    rw [← hname]
    exact (grown_iff_free ht hs hrows hmerge hm).mp (hgrown t hm)
  refine ⟨fun {name key content} hget => ?_, hgrown, List.forall₂_iff_zip.mpr
    ⟨(Insert.length_keysFrom _ _).symm, fun {job key} hzip => ?_⟩⟩
  · by_cases hname : name ∈ (Insert.jobs p).map (·.1)
    · obtain ⟨job, hjob, rfl⟩ := List.mem_map.mp hname
      obtain ⟨hnodup, hnew⟩ := hfree job hjob
      have hkey : key ∈ Dict.keys (s.tables.rows job.1) := List.mem_map_of_mem (Dict.mem_of_find? hget)
      rw [Tables.get?, hmerge, Dict.find?_merge, Dict.find?_reverse hnodup,
        Dict.find?_eq_none_iff.mpr fun hin => hnew key hin hkey]
      exact hget
    · rw [Tables.get?, hmerge, hrows, Insert.rowsFor_of_not_mem hname]
      exact hget
  · have hnodup := (hfree job (List.of_mem_zip hzip).1).1
    have hmem : (key, (Insert.splitKey job.2).1) ∈ rows job.1 := hrows job.1 ▸ Insert.mem_rowsFor hzip
    rw [Tables.get?, hmerge, Dict.find?_merge, Dict.find?_reverse hnodup, Dict.find?_of_mem hnodup hmem]
    rfl

end Adding

theorem onlyAdds_iff [Source] (hc : p.command = some .insert) (hm : s.medium = .memory) (hr : s.readOnly = [])
    (hs : ∀ name, Dict.Sorted (s.tables.rows name)) (ht : (p.tables.map (·.name)).Nodup) (hk : p.NewKeys s)
    (h : (p.run rs).run s = (.ok v, s')) :
    ∃ keys, v = .array (keys.map .string) ∧
      List.Forall₂ (fun job key => ∀ own, (Insert.splitKey job.2).2 = some own → key = own) (Insert.jobs p) keys ∧
      (∀ name, s'.tables.rows name =
        Dict.merge (s.tables.rows name) (Insert.rowsFor name (Insert.jobs p) keys)) ∧
      (p.OnlyAdds keys s.tables s'.tables ↔ (Insert.ownKeys p.data).Nodup ∧
        ∀ t ∈ p.tables, ∀ key ∈ Insert.ownKeys p.data, s.tables.get? t.name key = none) := by
  rw [run, hc] at h
  obtain ⟨first, hfirst, hprimary⟩ := primary_of_run h
  obtain ⟨s₁, hrun, hmerge⟩ := Insert.run_tryAll_keysFrom hm hr (Insert.jobs p)
  have hkeys : (Insert.keysFrom s.issued (Insert.jobs p)).length ≤ ((Insert.jobs p).map (·.1)).length := by
    simp [Insert.length_keysFrom]
  rw [Insert.run, Insert.insertAll_eq, hprimary, pure_bind, run_bind_of_ok hrun, Insert.failures_accepted,
    Insert.keys_accepted, List.map_snd_zip hkeys] at h
  cases h
  have hgrown := fun t (hm : t ∈ p.tables) => grown_iff ht hs (fun _ => rfl) hmerge hk hm
  refine ⟨_, rfl, Insert.forall₂_keysFrom _ _, hmerge, fun hadds => ?_, fun hfree => ?_⟩
  · have hapart := fun t hm => (hgrown t hm).mp (hadds.grown t hm)
    exact ⟨(hapart first (List.mem_of_mem_head? hfirst)).1, fun t hm => (hapart t hm).2⟩
  · exact onlyAdds_of_grown ht hs (fun _ => rfl) hmerge fun t hm => (hgrown t hm).mpr ⟨hfree.1, hfree.2 t hm⟩

def oneUser : Store := .ofTables (.ofObjects [("users", [("u1", [("name", .string "Ann")])])])

def person (name : String) : Value := .object [("name", .string name)]

def personAt (key name : String) : Value := .object [(Column.keyName, .string key), ("name", .string name)]

def addUsers (people : List Value) : Scheme :=
  [⟨.insert, [.value (.array people)]⟩, ⟨.toTables, [.value (.string "users")]⟩]

lemma sorted_oneUser (name : String) : Dict.Sorted (oneUser.tables.rows name) :=
  (Tables.wellFormed_ofObjects (by decide)).sorted name

lemma numberedKey_ne {key : String} (h : key.toList.head? ≠ some '~') (n : Nat) : Source.numberedKey n ≠ key := by
  rintro rfl
  exact h (by rw [Source.toList_numberedKey]; rfl)

lemma newKeys_oneUser (ht : p.tables = [.named "users"])
    (hk : ∀ key ∈ Insert.ownKeys p.data, key.toList.head? ≠ some '~') : p.NewKeys oneUser where
  stored n _ t hm := by
    have hne : Source.key n ≠ "u1" := numberedKey_ne (by decide) n
    rw [ht, List.mem_singleton] at hm
    have hrows : oneUser.tables.rows t.name = [("u1", person "Ann")] := hm ▸ rfl
    rw [Tables.get?, hrows, Dict.find?_cons, if_neg hne, Dict.find?_nil]
  brought n _ hin := numberedKey_ne (hk _ hin) n rfl

theorem onlyAdds_iff_two :
    ∃ p s', ofScheme [] (addUsers [personAt "u2" "Bob", person "Cem"]) = .ok p ∧
      (p.run []).run oneUser = (.ok (.array [.string "u2", .string "~gen-0001"]), s') ∧
      p.OnlyAdds ["u2", "~gen-0001"] oneUser.tables s'.tables := by
  obtain ⟨p, s', hp, hc, ht, hd, hrun⟩ : ∃ p s',
      ofScheme [] (addUsers [personAt "u2" "Bob", person "Cem"]) = .ok p ∧
      p.command = some .insert ∧ p.tables = [.named "users"] ∧ Insert.ownKeys p.data = ["u2"] ∧
      (p.run []).run oneUser = (.ok (.array [.string "u2", .string "~gen-0001"]), s') :=
    ⟨_, _, rfl, rfl, rfl, rfl, rfl⟩
  have hnew : p.NewKeys oneUser := newKeys_oneUser ht (by rw [hd]; decide)
  obtain ⟨keys, hkeys, -, -, hiff⟩ :=
    onlyAdds_iff hc rfl rfl sorted_oneUser (by rw [ht]; decide) hnew hrun
  obtain rfl : ["u2", "~gen-0001"] = keys :=
    List.map_injective_iff.mpr (fun _ _ he => Value.string.inj he) (Value.array.inj hkeys)
  refine ⟨p, s', hp, hrun, hiff.mpr ?_⟩
  rw [hd, ht]
  decide

/-- Bob takes the key of Ann and so her place. -/
theorem not_onlyAdds_bob :
    ∃ p s', ofScheme [] (addUsers [personAt "u1" "Bob"]) = .ok p ∧ p.NewKeys oneUser ∧
      (p.run []).run oneUser = (.ok (.array [.string "u1"]), s') ∧
      (s'.tables.rows "users").length = (oneUser.tables.rows "users").length ∧
      oneUser.tables.get? "users" "u1" = some (person "Ann") ∧ s'.tables.get? "users" "u1" = some (person "Bob") ∧
      ∀ keys, ¬ p.OnlyAdds keys oneUser.tables s'.tables := by
  obtain ⟨p, s', hp, ht, hd, hrun, hlength, hbob⟩ : ∃ p s',
      ofScheme [] (addUsers [personAt "u1" "Bob"]) = .ok p ∧
      p.tables = [.named "users"] ∧ Insert.ownKeys p.data = ["u1"] ∧
      (p.run []).run oneUser = (.ok (.array [.string "u1"]), s') ∧
      (s'.tables.rows "users").length = (oneUser.tables.rows "users").length ∧
      s'.tables.get? "users" "u1" = some (person "Bob") := ⟨_, _, rfl, rfl, rfl, rfl, rfl, rfl⟩
  have hann : oneUser.tables.get? "users" "u1" = some (person "Ann") := rfl
  refine ⟨p, s', hp, newKeys_oneUser ht (by rw [hd]; decide), hrun, hlength, hann, hbob, fun keys hadds => ?_⟩
  have hsame := hbob.symm.trans (hadds.kept hann)
  simp [person] at hsame

end Plan

end DocQuery
