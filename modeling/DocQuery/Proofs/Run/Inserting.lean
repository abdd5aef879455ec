import DocQuery.Proofs.Json.Integers
import DocQuery.Proofs.Run.Changing
import DocQuery.Proofs.Run.Refusals
import Mathlib.Data.List.Induction

namespace DocQuery

namespace Store

def keyFor [Source] (s : Store) (key : Option String) : String := key.getD (Source.key (s.issued + 1))

def adding [Source] (name : String) (content : Value) (key : Option String) (s : Store) : Store :=
  { s.noting [.insert name content key] with
    tables := s.tables.insert name (s.keyFor key) content
    issued := s.issued + if key.isSome then 0 else 1 }

lemma find?_adding [Source] (s : Store) (name name' : String) (content : Value) (key : Option String) :
    Dict.find? name' (s.adding name content key).tables =
      if name' = name then some (Dict.insert (s.keyFor key) content ((Dict.find? name s.tables).getD []))
      else Dict.find? name' s.tables :=
  Dict.find?_insert name name' _ s.tables

lemma run_insert_memory [Source] {s : Store} (hm : s.medium = .memory) (name : String) (content : Value)
    (key : Option String) :
    (insert name content key).run s =
      if s.readOnly.contains name then (.error .readOnly, s.noting [.insert name content key])
      else (.ok (s.keyFor key), s.adding name content key) := by
  unfold insert
  rw [run_bind_of_ok (m := log _) rfl, run_bind_of_ok (m := get) rfl]
  dsimp only
  by_cases hr : s.readOnly.contains name = true
  · rw [if_pos hr, if_pos hr]
    rfl
  · rw [if_neg hr, if_neg hr]
    cases key with
    | none =>
      have hc := run_change_memory (s := { s.noting [.insert name content none] with issued := s.issued + 1 }) hm
        (s.tables.insert name (Source.key (s.issued + 1)) content)
      exact (run_bind_of_ok (m := set _) rfl _).trans (run_bind_of_ok hc _)
    | some key =>
      have hc := run_change_memory (s := s.noting [.insert name content (some key)]) hm
        (s.tables.insert name key content)
      exact (run_bind_of_ok (m := set _) rfl _).trans (run_bind_of_ok hc _)

end Store

namespace Insert

def fill : List Value → List String → Option (Dict Value) → Option (Dict Value)
  | [], _, rows => rows
  | v :: vs, keys, rows =>
    match (splitKey v).2, keys with
    | some key, keys => fill vs keys (some (Dict.insert key (splitKey v).1 (rows.getD [])))
    | none, key :: keys => fill vs keys (some (Dict.insert key (splitKey v).1 (rows.getD [])))
    | none, [] => rows

lemma fill_of_some {v : Value} {key : String} (hk : (splitKey v).2 = some key) (vs : List Value) (keys : List String)
    (rows : Option (Dict Value)) :
    fill (v :: vs) keys rows = fill vs keys (some (Dict.insert key (splitKey v).1 (rows.getD []))) := by
  simp only [fill, hk]

lemma fill_of_none {v : Value} (hk : (splitKey v).2 = none) (vs : List Value) (key : String) (keys : List String)
    (rows : Option (Dict Value)) :
    fill (v :: vs) (key :: keys) rows = fill vs keys (some (Dict.insert key (splitKey v).1 (rows.getD []))) := by
  simp only [fill, hk]

def keyless (vs : List Value) : Nat := vs.countP fun v => (splitKey v).2.isNone

def dataFor (name : String) (jobs : List (String × Value)) : List Value := (jobs.filter (·.1 == name)).map (·.2)

def request (job : String × Value) : Request := .insert job.1 (splitKey job.2).1 (splitKey job.2).2

structure Numbers (issued : Nat) (vs : List Value) (ns : List Nat) : Prop where
  length_eq : ns.length = keyless vs
  increasing : ns.Pairwise (· < ·)
  novel : ∀ n ∈ ns, issued < n

namespace Numbers

variable {issued : Nat} {v : Value} {vs : List Value} {ns : List Nat}

lemma nil : Numbers issued [] [] := ⟨rfl, .nil, nofun⟩

lemma mono {later : Nat} (h : Numbers later vs ns) (hle : issued ≤ later) : Numbers issued vs ns :=
  ⟨h.length_eq, h.increasing, fun n hn => Nat.lt_of_le_of_lt hle (h.novel n hn)⟩

lemma brought (h : Numbers issued vs ns) {key : String} (hk : (splitKey v).2 = some key) :
    Numbers issued (v :: vs) ns where
  length_eq := by rw [h.length_eq, keyless, keyless, List.countP_cons, hk]; rfl
  increasing := h.increasing
  novel := h.novel

lemma issue (h : Numbers (issued + 1) vs ns) (hk : (splitKey v).2 = none) :
    Numbers issued (v :: vs) ((issued + 1) :: ns) where
  length_eq := by rw [List.length_cons, h.length_eq, keyless, keyless, List.countP_cons, hk]; rfl
  increasing := List.pairwise_cons.mpr ⟨h.novel, h.increasing⟩
  novel n hn := by
    rcases List.mem_cons.mp hn with rfl | hn
    · exact Nat.lt_succ_self issued
    · exact Nat.lt_of_succ_lt (h.novel n hn)

lemma nodup_keys [Source] (h : Numbers issued vs ns) : (ns.map Source.key).Nodup :=
  List.Pairwise.map _ (fun _ _ hlt he => absurd (Source.key_injective he) (Nat.ne_of_lt hlt)) h.increasing

end Numbers

structure Inserted [Source] (jobs : List (String × Value)) (s : Store)
    (answers : List (String × Except StoreFault String)) (s' : Store) : Prop where
  names : answers.map (·.1) = jobs.map (·.1)
  refused : ∀ a ∈ answers, s.readOnly.contains a.1 = true → a.2 = .error .readOnly
  accepted : ∀ a ∈ answers, s.readOnly.contains a.1 = false → ∃ key, a.2 = .ok key
  journal : s'.journal = s.journal ++ jobs.map request
  kept : ∀ name, s.readOnly.contains name = true → Dict.find? name s'.tables = Dict.find? name s.tables
  filled : ∀ name, s.readOnly.contains name = false → ∃ ns, Numbers s.issued (dataFor name jobs) ns ∧
    Dict.find? name s'.tables = fill (dataFor name jobs) (ns.map Source.key) (Dict.find? name s.tables)

section Step

variable {jobs : List (String × Value)} {s s' : Store} {answers : List (String × Except StoreFault String)}
  {name : String} {v : Value}

lemma dataFor_cons_self : dataFor name ((name, v) :: jobs) = v :: dataFor name jobs := by
  rw [dataFor, List.filter_cons, if_pos (beq_self_eq_true name)]
  rfl

lemma dataFor_cons_of_ne {name' : String} (h : name ≠ name') :
    dataFor name' ((name, v) :: jobs) = dataFor name' jobs := by
  rw [dataFor, List.filter_cons, if_neg fun he => h (beq_iff_eq.mp he)]
  rfl

lemma Inserted.refuse [Source] (hr : s.readOnly.contains name = true)
    (h : Inserted jobs (s.noting [request (name, v)]) answers s') :
    Inserted ((name, v) :: jobs) s ((name, .error .readOnly) :: answers) s' where
  names := congrArg (name :: ·) h.names
  refused := List.forall_mem_cons.mpr ⟨fun _ => rfl, h.refused⟩
  accepted := List.forall_mem_cons.mpr ⟨fun hf => absurd (hr.symm.trans hf) nofun, h.accepted⟩
  journal := by
    rw [h.journal, Store.noting, List.append_assoc]
    rfl
  kept := h.kept
  filled name' hf := by
    have hne : name ≠ name' := by
      rintro rfl
      cases hr.symm.trans hf
    rw [dataFor_cons_of_ne hne]
    exact h.filled name' hf

lemma Inserted.accept [Source] {key : String} (hr : s.readOnly.contains name = false)
    (h : Inserted jobs (s.adding name (splitKey v).1 (splitKey v).2) answers s') :
    Inserted ((name, v) :: jobs) s ((name, .ok key) :: answers) s' where
  names := congrArg (name :: ·) h.names
  refused := List.forall_mem_cons.mpr ⟨fun hf => absurd (hr.symm.trans hf) nofun, h.refused⟩
  accepted := List.forall_mem_cons.mpr ⟨fun _ => ⟨key, rfl⟩, h.accepted⟩
  journal := by
    rw [h.journal, Store.adding, Store.noting, List.append_assoc]
    rfl
  kept name' hf := by
    have hne : name' ≠ name := by
      rintro rfl
      cases hr.symm.trans hf
    rw [h.kept name' hf, Store.find?_adding, if_neg hne]
  filled name' hf := by
    obtain ⟨ns, hns, hfind⟩ := h.filled name' hf
    rw [hfind, Store.find?_adding]
    by_cases hn : name' = name
    · subst hn
      rw [if_pos rfl, dataFor_cons_self]
      rcases hk : (splitKey v).2 with _ | key
      · rw [hk] at hns
        exact ⟨(s.issued + 1) :: ns, hns.issue hk, (fill_of_none hk _ _ _ _).symm⟩
      · rw [hk] at hns
        exact ⟨ns, hns.brought hk, (fill_of_some hk _ _ _).symm⟩
    · rw [if_neg hn, dataFor_cons_of_ne (Ne.symm hn)]
      exact ⟨ns, hns.mono (Nat.le_add_right _ _), rfl⟩

end Step

def jobs (p : Plan) : List (String × Value) := p.tables.flatMap fun t => p.data.map fun v => (t.name, v)

def tryAll [Source] (jobs : List (String × Value)) : Query (List (String × Except StoreFault String)) :=
  jobs.mapM fun (table, v) => do
    let (content, key) := splitKey v
    return (table, ← Query.attempt (Store.insert table content key))

lemma insertAll_eq [Source] (p : Plan) : insertAll p = tryAll (jobs p) := rfl

section Run

variable {s s' : Store} {answers : List (String × Except StoreFault String)} (hm : s.medium = .memory)

include hm

lemma run_tryAll_refused [Source] {name : String} (hr : s.readOnly.contains name = true) (v : Value)
    (jobs : List (String × Value)) :
    (tryAll ((name, v) :: jobs)).run s =
      (do return (name, .error .readOnly) :: (← tryAll jobs) : Query _).run (s.noting [request (name, v)]) := by
  rw [tryAll, List.mapM_cons]
  dsimp only
  rw [bind_assoc, run_bind_of_ok (Query.run_attempt _ s), Store.run_insert_memory hm, if_pos hr, pure_bind]
  rfl

lemma run_tryAll_accepted [Source] {name : String} (hr : s.readOnly.contains name = false) (v : Value)
    (jobs : List (String × Value)) :
    (tryAll ((name, v) :: jobs)).run s =
      (do return (name, .ok (s.keyFor (splitKey v).2)) :: (← tryAll jobs) : Query _).run
        (s.adding name (splitKey v).1 (splitKey v).2) := by
  rw [tryAll, List.mapM_cons]
  dsimp only
  rw [bind_assoc, run_bind_of_ok (Query.run_attempt _ s), Store.run_insert_memory hm,
    if_neg (Bool.eq_false_iff.mp hr), pure_bind]
  rfl

lemma run_tryAll [Source] (jobs : List (String × Value)) :
    ∃ answers s', (tryAll jobs).run s = (.ok answers, s') ∧ Inserted jobs s answers s' := by
  induction jobs generalizing s with
  | nil =>
    refine ⟨[], s, rfl, ⟨rfl, nofun, nofun, (List.append_nil _).symm, fun _ _ => rfl, fun name _ => ?_⟩⟩
    exact ⟨[], .nil, rfl⟩
  | cons job jobs ih =>
    obtain ⟨name, v⟩ := job
    cases hr : s.readOnly.contains name with
    | true =>
      obtain ⟨answers, s', h, hi⟩ := ih (s := s.noting [request (name, v)]) hm
      exact ⟨_, s', (run_tryAll_refused hm hr v jobs).trans (run_bind_of_ok h _), hi.refuse hr⟩
    | false =>
      obtain ⟨answers, s', h, hi⟩ := ih (s := s.adding name (splitKey v).1 (splitKey v).2) hm
      exact ⟨_, s', (run_tryAll_accepted hm hr v jobs).trans (run_bind_of_ok h _), hi.accept hr⟩

lemma run_tryAll_unrefused [Source] (hr : s.readOnly = []) {refused : List String} {jobs : List (String × Value)}
    (hn : ∀ job ∈ jobs, job.1 ∉ refused) (h : (tryAll jobs).run s = (.ok answers, s')) :
    (tryAll jobs).run (s.refusing refused) = (.ok answers, s'.refusing refused) := by
  induction jobs generalizing s answers with
  | nil =>
    cases h
    rfl
  | cons job jobs ih =>
    obtain ⟨name, v⟩ := job
    have hnone : s.readOnly.contains name = false := by
      rw [hr]
      rfl
    have hnot : (s.refusing refused).readOnly.contains name = false :=
      Bool.eq_false_iff.mpr fun hc => hn _ List.mem_cons_self (List.contains_iff_mem.mp hc)
    rw [run_tryAll_accepted hm hnone] at h
    rw [run_tryAll_accepted (s := s.refusing refused) hm hnot]
    obtain ⟨rest, t, hrest, h⟩ := run_bind_eq_ok h
    cases h
    exact run_bind_of_ok (ih (s := s.adding name (splitKey v).1 (splitKey v).2) hm hr
      (fun job hj => hn job (List.mem_cons_of_mem _ hj)) hrest) _

end Run

section Failures

variable {refused : String → Bool} {answers : List (String × Except StoreFault String)}

lemma failures_concat (answers : List (String × Except StoreFault String)) (a : String × Except StoreFault String) :
    failures (answers ++ [a]) = match a.2 with
      | .error fault => if Dict.contains a.1 (failures answers) then failures answers
        else Dict.insert a.1 fault (failures answers)
      | .ok _ => failures answers := by
  rw [failures, List.foldl_append]
  rfl

lemma failures_eq (hr : ∀ a ∈ answers, refused a.1 = true → a.2 = .error .readOnly)
    (ha : ∀ a ∈ answers, refused a.1 = false → ∃ key, a.2 = .ok key) :
    ∃ names : List String, failures answers = names.map (fun name => (name, .readOnly)) ∧ names.Pairwise (· < ·) ∧
      ∀ name, name ∈ names ↔ refused name = true ∧ name ∈ answers.map (·.1) := by
  -- by induction from the end, since the failures are collected by a left fold
  suffices h : Dict.Sorted (failures answers) ∧ (∀ e ∈ failures answers, e.2 = .readOnly) ∧
      ∀ name, name ∈ Dict.keys (failures answers) ↔ refused name = true ∧ name ∈ answers.map (·.1) by
    obtain ⟨hsorted, hfaults, hkeys⟩ := h
    refine ⟨Dict.keys (failures answers), ?_, List.pairwise_map.mpr hsorted, hkeys⟩
    rw [Dict.keys, List.map_map]
    exact (List.map_id _).symm.trans (List.map_congr_left fun e he => Prod.ext rfl (hfaults e he))
  induction answers using List.reverseRecOn with
  | nil => exact ⟨.nil, fun e he => absurd he List.not_mem_nil, fun name => by simp [failures, Dict.keys]⟩
  | append_singleton answers a ih =>
    obtain ⟨hsorted, hfaults, hkeys⟩ := ih (fun a hm => hr a (List.mem_append_left _ hm))
      (fun a hm => ha a (List.mem_append_left _ hm))
    have hmem : a ∈ answers ++ [a] := List.mem_append_right _ List.mem_cons_self
    rw [failures_concat]
    simp only [List.map_append, List.map_cons, List.map_nil, List.mem_append, List.mem_singleton]
    cases href : refused a.1 with
    | false =>
      obtain ⟨key, hok⟩ := ha a hmem href
      rw [hok]
      refine ⟨hsorted, hfaults, fun name => ?_⟩
      rw [hkeys name]
      grind
    | true =>
      rw [hr a hmem href]
      dsimp only
      split
      · next hc =>
        have hin := (hkeys a.1).mp (Dict.contains_iff.mp hc)
        refine ⟨hsorted, hfaults, fun name => ?_⟩
        rw [hkeys name]
        grind
      · refine ⟨Dict.sorted_insert hsorted _ _, fun e he => ?_, fun name => ?_⟩
        · rcases Dict.mem_insert he with rfl | he
          · rfl
          · exact hfaults e he
        · rw [Dict.mem_keys_insert, hkeys name]
          grind

end Failures

end Insert

end DocQuery
