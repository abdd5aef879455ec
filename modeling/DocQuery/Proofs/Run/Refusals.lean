import DocQuery.Proofs.Run.Matching
import DocQuery.Proofs.Run.Writing

namespace DocQuery

namespace Tables

def rewrite (rows : Option (Dict Value)) (changes : Dict Value) : Option (Dict Value) :=
  match changes.foldl (fun rows c => change rows c.1 c.2) (rows.getD []) with
  | [] => none
  | rows => some rows

lemma find?_write (ts : Tables) (name name' : String) (changes : Dict Value) :
    Dict.find? name' (ts.write name changes) =
      if name' = name then rewrite (Dict.find? name ts) changes else Dict.find? name' ts := by
  rw [write, rewrite, rows]
  generalize changes.foldl (fun rows c => change rows c.1 c.2) ((Dict.find? name ts).getD []) = left
  cases left with
  | nil => exact Dict.find?_erase name name' ts
  | cons row rows => exact Dict.find?_insert name name' (row :: rows) ts

lemma find?_writeAll (ts : Tables) (changes : Dict (Dict Value)) (name : String) :
    Dict.find? name (ts.writeAll changes) =
      ((changes.filter (·.1 == name)).map (·.2)).foldl rewrite (Dict.find? name ts) := by
  induction changes generalizing ts with
  | nil => rfl
  | cons c changes ih =>
    rw [writeAll, List.foldl_cons, ← writeAll, ih, find?_write, List.filter_cons]
    by_cases hn : name = c.1
    · rw [if_pos hn, if_pos (beq_iff_eq.mpr hn.symm), List.map_cons, List.foldl_cons, hn]
    · rw [if_neg hn, if_neg fun h => hn (beq_iff_eq.mp h).symm]

section Filter

variable (ts : Tables) (changes : Dict (Dict Value)) (keep : String → Bool) {name : String}

lemma find?_writeAll_kept (h : keep name = true) :
    Dict.find? name (ts.writeAll (changes.filter fun c => keep c.1)) = Dict.find? name (ts.writeAll changes) := by
  rw [find?_writeAll, find?_writeAll, List.filter_filter]
  congr 2
  refine List.filter_congr fun c _ => ?_
  by_cases hc : c.1 = name
  · rw [hc, h, Bool.and_true]
  · rw [beq_eq_false_iff_ne.mpr hc, Bool.false_and]

lemma find?_writeAll_dropped (h : keep name = false) :
    Dict.find? name (ts.writeAll (changes.filter fun c => keep c.1)) = Dict.find? name ts := by
  have hnone : (changes.filter fun c => keep c.1).filter (·.1 == name) = [] := by
    refine List.filter_eq_nil_iff.mpr fun c hc hn => ?_
    have hk := (List.mem_filter.mp hc).2
    rw [beq_iff_eq.mp hn, h] at hk
    cases hk
  rw [find?_writeAll, hnone]
  rfl

end Filter

end Tables

def Request.target? : Request → Option String
  | fetch _ _ => none
  | write table _ => some table
  | insert table _ _ => some table

namespace Store

def refusing (refused : List String) (s : Store) : Store := { s with readOnly := refused }

def noting (requests : List Request) (s : Store) : Store := { s with journal := s.journal ++ requests }

def trying (changes : Dict (Dict Value)) (s : Store) : Store :=
  { s.noting (changes.map fun c => .write c.1 c.2) with
    tables := s.tables.writeAll (changes.filter fun c => !s.readOnly.contains c.1) }

section Trying

variable {s : Store} {name : String} (changes : Dict (Dict Value))

lemma find?_trying_of_mem (h : name ∈ s.readOnly) :
    Dict.find? name (s.trying changes).tables = Dict.find? name s.tables :=
  s.tables.find?_writeAll_dropped changes (fun name => !s.readOnly.contains name)
    (by rw [List.contains_iff_mem.mpr h]; rfl)

lemma find?_trying_of_not_mem (h : name ∉ s.readOnly) :
    Dict.find? name (s.trying changes).tables = Dict.find? name (s.tables.writeAll changes) :=
  s.tables.find?_writeAll_kept changes (fun name => !s.readOnly.contains name)
    (by rw [Bool.eq_false_iff.mpr fun hc => h (List.contains_iff_mem.mp hc)]; rfl)

lemma trying_unrefused {changes : Dict (Dict Value)} (h : ∀ c ∈ changes, c.1 ∉ s.readOnly) :
    s.trying changes =
      { s.noting (changes.map fun c => .write c.1 c.2) with tables := s.tables.writeAll changes } := by
  have hall : (changes.filter fun c => !s.readOnly.contains c.1) = changes := by
    refine List.filter_eq_self.mpr fun c hc => ?_
    rw [Bool.eq_false_iff.mpr fun hm => h c hc (List.contains_iff_mem.mp hm)]
    rfl
  rw [trying, hall]

end Trying

section Memory

variable {s : Store} (hm : s.medium = .memory)

include hm

lemma run_change_memory (tables : Tables) :
    (change tables).run s = (.ok ⟨⟩, { s with tables := tables }) := by
  obtain ⟨_, medium, _, _, _, _⟩ := s
  obtain rfl : medium = .memory := hm
  rfl

lemma run_write_memory (name : String) (changes : Dict Value) :
    (write name changes).run s =
      if s.readOnly.contains name then (.error .readOnly, s.noting [.write name changes])
      else (.ok ⟨⟩, { s.noting [.write name changes] with tables := s.tables.write name changes }) := by
  unfold write
  rw [run_bind_of_ok (m := log _) rfl, run_bind_of_ok (m := get) rfl]
  dsimp only
  by_cases hr : s.readOnly.contains name = true
  · rw [if_pos hr, if_pos hr]
    rfl
  · rw [if_neg hr, if_neg hr]
    exact run_change_memory (s := s.noting [.write name changes]) hm _

end Memory

end Store

namespace Query

structure Reads {α : Type} (m : Query α) : Prop where
  asks : ∀ s, ∃ asked : List Request, (∀ r ∈ asked, r.target? = none) ∧ (m.run s).2 = s.noting asked
  regardless : ∀ s refused, m.run (s.refusing refused) = ((m.run s).1, (m.run s).2.refusing refused)

namespace Reads

variable {α β : Type}

lemma pure (a : α) : Reads (Pure.pure a) where
  asks s := ⟨[], nofun, by rw [Store.noting, List.append_nil]; rfl⟩
  regardless _ _ := rfl

lemma bind {m : Query α} {f : α → Query β} (hm : Reads m) (hf : ∀ a, Reads (f a)) : Reads (m >>= f) where
  asks s := by
    obtain ⟨asked, ha, hs⟩ := hm.asks s
    rcases h : m.run s with ⟨e | a, t⟩
    · rw [h] at hs
      rw [run_bind_of_error h]
      exact ⟨asked, ha, hs⟩
    · rw [h] at hs
      obtain rfl : t = s.noting asked := hs
      obtain ⟨more, hmore, ht⟩ := (hf a).asks (s.noting asked)
      rw [run_bind_of_ok h]
      refine ⟨asked ++ more, fun r hr => (List.mem_append.mp hr).elim (ha r) (hmore r), ?_⟩
      rw [ht, Store.noting, Store.noting, Store.noting, List.append_assoc]
  regardless s refused := by
    have hr := hm.regardless s refused
    rcases h : m.run s with ⟨e | a, t⟩
    · rw [h] at hr
      rw [run_bind_of_error h, run_bind_of_error hr]
    · rw [h] at hr
      rw [run_bind_of_ok h, run_bind_of_ok hr]
      exact (hf a).regardless t refused

lemma fetchRows (t : Table) (bound : Option Bound) : Reads (fetchRows t bound) := by
  refine .bind ⟨fun s => ?_, fun s refused => ?_⟩ fun rows => .pure _
  · rw [run_ofStore, Store.run_fetch]
    exact ⟨[.fetch t.name bound], by simp [Request.target?], rfl⟩
  · rw [run_ofStore, run_ofStore, Store.run_fetch, Store.run_fetch]
    rfl

lemma fetchTables (bound : Option Bound) (sets : RowSets) (ts : List Table) : Reads (fetchTables bound sets ts) := by
  induction ts generalizing sets with
  | nil => exact .pure _
  | cons t ts ih =>
    rw [Query.fetchTables]
    split
    · exact ih _
    · exact .bind (.fetchRows t bound) fun rows => ih _

lemma matchedRows (rs : Results) (p : Plan) : Reads (matchedRows rs p) :=
  .bind (.fetchTables _ _ _) fun _ => .pure _

end Reads

lemma run_fetchRows_cases (t : Table) (bound : Option Bound) (s : Store) :
    (∃ rows, (fetchRows t bound).run s = (.ok rows, s.noting [.fetch t.name bound]) ∧ t.name ∉ s.offline) ∨
      (fetchRows t bound).run s = (.error (.store .offline), s.noting [.fetch t.name bound]) := by
  rw [fetchRows, run_bind, run_ofStore, Store.run_fetch]
  split
  · exact .inr rfl
  · next h => exact .inl ⟨_, rfl, fun hc => h (List.contains_iff_mem.mpr hc)⟩

lemma run_fetchTables_cases (bound : Option Bound) (sets : RowSets) (ts : List Table) (s : Store) :
    (∃ all s', (fetchTables bound sets ts).run s = (.ok all, s') ∧
      ∀ t ∈ ts, t.name ∉ Dict.keys sets → t.name ∉ s.offline) ∨
    ∃ s', (fetchTables bound sets ts).run s = (.error (.store .offline), s') := by
  induction ts generalizing sets s with
  | nil => exact .inl ⟨sets, s, rfl, nofun⟩
  | cons t ts ih =>
    rw [fetchTables]
    split
    · next hc =>
      rcases ih sets s with ⟨all, s', h, ho⟩ | h
      · refine .inl ⟨all, s', h, fun t' ht' hk => ?_⟩
        rcases List.mem_cons.mp ht' with rfl | ht'
        · exact absurd (Dict.contains_iff.mp hc) hk
        · exact ho t' ht' hk
      · exact .inr h
    · rcases run_fetchRows_cases t bound s with ⟨rows, h, hon⟩ | h
      · rw [run_bind_of_ok h]
        rcases ih (Dict.insert t.name rows sets) (s.noting [.fetch t.name bound]) with ⟨all, s', h, ho⟩ | h
        · refine .inl ⟨all, s', h, fun t' ht' hk => ?_⟩
          -- a table that is listed twice is read once
          by_cases hn : t'.name = t.name
          · rwa [hn]
          · refine ho t' ((List.mem_cons.mp ht').resolve_left fun h => hn (congrArg Table.name h)) ?_
            rwa [← Dict.find?_eq_none_iff, Dict.find?_insert_of_ne hn, Dict.find?_eq_none_iff]
        · exact .inr h
      · exact .inr ⟨_, run_bind_of_error h _⟩

lemma run_matchedRows_refused (rs : Results) {p : Plan} {s : Store} (h : ∃ t ∈ p.tables, t.name ∈ s.offline) :
    ∃ s', (matchedRows rs p).run s = (.error (.store .offline), s') := by
  obtain ⟨t, ht, ho⟩ := h
  rcases run_fetchTables_cases p.bound? [] p.tables s with ⟨all, s', -, hon⟩ | ⟨s', hf⟩
  · exact absurd ho (hon t ht List.not_mem_nil)
  · exact ⟨s', run_bind_of_error hf _⟩

lemma filterMap_answers {fault? : String × Except StoreFault Unit → Option (String × StoreFault)}
    (hr : ∀ name fault, fault? (name, .error fault) = some (name, fault)) (ho : ∀ name, fault? (name, .ok ()) = none)
    (refused : List String) (changes : Dict (Dict Value)) :
    (changes.map fun c => (c.1, if refused.contains c.1 then .error .readOnly else .ok ())).filterMap fault? =
      ((changes.filter fun c => refused.contains c.1).map (·.1)).map fun name => (name, .readOnly) := by
  induction changes with
  | nil => rfl
  | cons c changes ih =>
    rw [List.map_cons, List.filterMap_cons, List.filter_cons, ih]
    cases refused.contains c.1
    · rw [if_neg Bool.false_ne_true, ho]
      rfl
    · rw [if_pos rfl, hr]
      rfl

section Memory

variable {s : Store} (hm : s.medium = .memory)

include hm

lemma run_answers_memory (changes : Dict (Dict Value)) :
    (changes.mapM fun (table, rows) => do
      return (table, ← attempt (Store.write table rows)) : Query _).run s =
      (.ok (changes.map fun c => (c.1, if s.readOnly.contains c.1 then .error .readOnly else .ok ())),
        s.trying changes) := by
  induction changes generalizing s with
  | nil =>
    rw [List.mapM_nil, List.map_nil, Store.trying, List.map_nil, Store.noting, List.append_nil]
    rfl
  | cons c changes ih =>
    rw [List.mapM_cons, bind_assoc, run_bind_of_ok (run_attempt _ s), Store.run_write_memory hm]
    by_cases hr : s.readOnly.contains c.1 = true
    · rw [if_pos hr, pure_bind, run_bind_of_ok (ih (s := s.noting [.write c.1 c.2]) hm)]
      simp only [Store.trying, Store.noting, List.map_cons, List.filter_cons, hr, List.append_assoc]
      rfl
    · rw [if_neg hr, pure_bind, run_bind_of_ok (ih (s := { s.noting [.write c.1 c.2] with
        tables := s.tables.write c.1 c.2 }) hm)]
      simp only [Store.trying, Store.noting, List.map_cons, List.filter_cons, hr, List.append_assoc]
      rfl

lemma run_writeAll_memory (changes : Dict (Dict Value)) :
    (writeAll changes).run s =
      (match ((changes.filter (!·.2.isEmpty)).filter fun c => s.readOnly.contains c.1).map (·.1) with
        | [] => .ok ⟨⟩
        | refused => .error (.updates (refused.map fun name => (name, .readOnly))),
      s.trying (changes.filter (!·.2.isEmpty))) := by
  rw [writeAll, run_bind_of_ok (run_answers_memory hm _)]
  dsimp only
  rw [filterMap_answers (fun _ _ => rfl) (fun _ => rfl)]
  generalize ((changes.filter (!·.2.isEmpty)).filter fun c => s.readOnly.contains c.1).map (·.1) = refused
  cases refused <;> rfl

end Memory

end Query

end DocQuery
