import DocQuery.Proofs.Outcomes
import DocQuery.Proofs.Tables
import DocQuery.Run.Fetch

namespace DocQuery

namespace Store

lemma run_change (tables : Tables) (s : Store) :
    ((Store.change tables).run s).2.tables = tables := by
  unfold Store.change
  rw [run_bind_of_ok (m := modify _) rfl, run_bind_of_ok (m := get) rfl]
  cases hm : (s.setTables tables).medium with
  | memory => rfl
  | file text => rfl
  | nowhere obstacle => rfl

lemma run_write {name : String} {changes : Dict Value} {s s' : Store}
    (h : (Store.write name changes).run s = (.ok ⟨⟩, s')) : s'.tables = s.tables.write name changes := by
  unfold Store.write at h
  rw [run_bind_of_ok (m := log _) rfl, run_bind_of_ok (m := get) rfl] at h
  split at h
  · cases h
  · have ht := run_change (s.tables.write name changes)
      { s with journal := s.journal ++ [.write name changes] }
    exact (congrArg (·.2.tables) h).symm.trans ht

end Store

namespace Query

lemma run_attempt {α : Type} (a : StoreAction α) (s : Store) :
    (attempt a).run s = (.ok (a.run s).1, (a.run s).2) := rfl

lemma run_answers {changes : Dict (Dict Value)} {s s' : Store}
    {answers : List (String × Except StoreFault Unit)}
    (h : (changes.mapM fun (table, rows) => do
      return (table, ← attempt (Store.write table rows)) : Query _).run s = (.ok answers, s'))
    (hok : (answers.filterMap fun
      | (table, .error fault) => some (table, fault)
      | _ => none) = []) : s'.tables = s.tables.writeAll changes := by
  induction changes generalizing s answers with
  | nil =>
    cases h
    rfl
  | cons c changes ih =>
    rw [List.mapM_cons] at h
    obtain ⟨answer, t, hc, h⟩ := run_bind_eq_ok h
    obtain ⟨rest, u, hr, h⟩ := run_bind_eq_ok h
    cases h
    obtain ⟨a, t', ha, hc⟩ := run_bind_eq_ok hc
    cases hc
    cases a with
    | error fault => cases hok
    | ok a =>
      have hw : (Store.write c.1 c.2).run s = (.ok a, t) := by
        rw [run_attempt] at ha
        obtain ⟨hok, ht⟩ := Prod.mk.inj ha
        exact Prod.ext (Except.ok.inj hok) ht
      rw [ih hr hok, Store.run_write hw]
      rfl

lemma writeAll_run {changes : Dict (Dict Value)} {s s' : Store}
    (h : (writeAll changes).run s = (.ok ⟨⟩, s')) :
    s'.tables = s.tables.writeAll (changes.filter (!·.2.isEmpty)) := by
  obtain ⟨answers, t, ha, h⟩ := run_bind_eq_ok h
  dsimp only at h
  split at h
  · next hf =>
    cases h
    exact run_answers ha (List.isEmpty_iff.mp hf)
  · cases h

end Query

end DocQuery
