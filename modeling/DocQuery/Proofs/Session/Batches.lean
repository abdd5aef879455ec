import DocQuery.Proofs.Session.References
import DocQuery.Proofs.Tables
import DocQuery.Session

/-! A batch is its schemes one after the other: each gives what it gives alone, once its references are bound to
the outputs before it, on the store that these have left. The first that fails ends the batch. -/

namespace DocQuery

namespace Batch

variable [Source]

lemma runFrom_append (outputs : List Value) (pre rest : List Scheme) :
    runFrom outputs (pre ++ rest) = runFrom outputs pre >>= fun made => runFrom made rest := by
  induction pre generalizing outputs with
  | nil => exact (pure_bind ..).symm
  | cons scheme pre ih =>
    rw [List.cons_append, runFrom, runFrom, bind_assoc]
    exact bind_congr fun v => ih _

lemma run_runFrom {outputs made : List Value} {schemes : List Scheme} {s s' : Store}
    (h : (runFrom outputs schemes).run s = (.ok made, s')) :
    ∃ vs, made = outputs ++ vs ∧ vs.length = schemes.length := by
  induction schemes generalizing outputs s with
  | nil =>
    cases h
    exact ⟨[], (List.append_nil _).symm, rfl⟩
  | cons scheme schemes ih =>
    obtain ⟨v, t, -, h⟩ := run_bind_eq_ok h
    obtain ⟨vs, rfl, hl⟩ := ih h
    exact ⟨v :: vs, by simp, by simp [hl]⟩

lemma run_of_error {pre : List Scheme} {s s' : Store} {e : Error} (h : (run pre).run s = (.error e, s'))
    (rest : List Scheme) : (run (pre ++ rest)).run s = (.error e, s') := by
  rw [run, runFrom_append]
  exact run_bind_of_error h _

lemma run_of_ok {pre : List Scheme} {s s' : Store} {outputs : List Value}
    (h : (run pre).run s = (.ok outputs, s')) (rest : List Scheme) :
    (run (pre ++ rest)).run s = (runFrom outputs rest).run s' := by
  rw [run, runFrom_append]
  exact run_bind_of_ok h _

lemma exists_stop {made : List Value} {schemes : List Scheme} {s s' : Store} {e : Error}
    (h : (runFrom made schemes).run s = (.error e, s')) :
    ∃ pre scheme rest outputs t, schemes = pre ++ scheme :: rest ∧
      (runFrom made pre).run s = (.ok outputs, t) ∧ (runScheme outputs scheme).run t = (.error e, s') := by
  induction schemes generalizing made s with
  | nil => cases h
  | cons scheme schemes ih =>
    rcases hr : (runScheme made scheme).run s with ⟨e' | v, t⟩
    · rw [runFrom, run_bind_of_error hr] at h
      cases h
      exact ⟨[], scheme, schemes, made, s, rfl, rfl, hr⟩
    · rw [runFrom, run_bind_of_ok hr] at h
      obtain ⟨pre, scheme', rest, outputs, u, rfl, hp, hs⟩ := ih h
      exact ⟨scheme :: pre, scheme', rest, outputs, u, rfl, (run_bind_of_ok hr _).trans hp, hs⟩

lemma run_singleton (scheme : Scheme) (s : Store) : (run [scheme]).run s =
    (((runScheme [] scheme).run s).1.map fun v => [v], ((runScheme [] scheme).run s).2) := by
  rcases h : (runScheme [] scheme).run s with ⟨e | v, t⟩
  · exact run_bind_of_error h _
  · exact run_bind_of_ok h _

lemma runScheme_bind {outputs : List Value} {scheme : Scheme}
    (h : ∀ q ∈ Scheme.references scheme, q < outputs.length) :
    runScheme [] (Scheme.bind outputs scheme) = runScheme outputs scheme := by
  rw [runScheme, runScheme, resolve_bind _ _ h, resolve_eq, reading_eq_ok _ _ h]

lemma run_runScheme_of_open {outputs : List Value} {scheme : Scheme} {query : Nat}
    (h : (Scheme.references scheme).find? (outputs.length ≤ ·) = some query) (s : Store) :
    (runScheme outputs scheme).run s = (.error (.reference outputs.length query), s) := by
  rw [runScheme, resolve_eq, reading_of_open _ _ h]
  rfl

lemma closed_of_ok {outputs : List Value} {scheme : Scheme} {s s' : Store} {v : Value}
    (h : (runScheme outputs scheme).run s = (.ok v, s')) : ∀ q ∈ Scheme.references scheme, q < outputs.length := by
  rcases hf : (Scheme.references scheme).find? (outputs.length ≤ ·) with _ | query
  · simpa using hf
  · rw [run_runScheme_of_open hf] at h
    cases h

end Batch

namespace Session

/-- A batch that succeeds, cut in two: the first part is a batch that succeeds, and the scheme after it does what it
does alone, each reference bound to the output it names. -/
structure Completes [Source] (s : Session) (pre rest : List Scheme) (outputs : List Value) : Prop where
  length_eq : outputs.length = pre.length + rest.length
  start : (s.execute pre).1 = .ok (outputs.take pre.length)
  closed : ∀ scheme ∈ rest.head?, ∀ q ∈ Scheme.references scheme, q < pre.length
  next : ∀ scheme ∈ rest.head?, ∃ v ∈ outputs[pre.length]?,
    (s.execute pre).2.execute [Scheme.bind (outputs.take pre.length) scheme] =
      (.ok [v], (s.execute (pre ++ [scheme])).2)

/-- A batch that fails at the scheme after `pre`: with the error of this scheme alone, or of its first open reference,
on the session that `pre` has left, whatever comes after it. -/
structure StopsAt [Source] (s : Session) (pre : List Scheme) (scheme : Scheme) (e : Error) (s' : Session) : Prop where
  start : ∃ outputs, (s.execute pre).1 = .ok outputs ∧ outputs.length = pre.length ∧
    ((∀ q ∈ Scheme.references scheme, q < pre.length) →
      (s.execute pre).2.execute [Scheme.bind outputs scheme] = (.error e, s'))
  reference : ∀ query ∈ (Scheme.references scheme).find? (pre.length ≤ ·),
    e = .reference pre.length query ∧ s' = (s.execute pre).2
  stop : ∀ rest, s.execute (pre ++ scheme :: rest) = (.error e, s')

variable {s : Session} {pre : List Scheme} {scheme : Scheme} {outputs : List Value} {e : Error}

section Connected

variable [Source] {u u' : Store}

lemma execute_eq (u : Store) (schemes : List Scheme) : execute ⟨u, true⟩ schemes =
    (((Batch.run schemes).run u).1, ⟨((Batch.run schemes).run u).2, true⟩) := rfl

lemma execute_of_run {answer : Except Error (List Value)} {schemes : List Scheme}
    (h : (Batch.run schemes).run u = (answer, u')) : execute ⟨u, true⟩ schemes = (answer, ⟨u', true⟩) := by
  rw [execute_eq, h]

lemma execute_bind (h : ∀ q ∈ Scheme.references scheme, q < outputs.length) {answer : Except Error Value}
    (hr : (Batch.runScheme outputs scheme).run u = (answer, u')) :
    execute ⟨u, true⟩ [Scheme.bind outputs scheme] = (answer.map fun v => [v], ⟨u', true⟩) := by
  rw [execute_eq, Batch.run_singleton, Batch.runScheme_bind h, hr]

lemma execute_concat (hp : (Batch.run pre).run u = (.ok outputs, u')) {v : Value} {u'' : Store}
    (hr : (Batch.runScheme outputs scheme).run u' = (.ok v, u'')) :
    execute ⟨u, true⟩ (pre ++ [scheme]) = (.ok (outputs ++ [v]), ⟨u'', true⟩) :=
  execute_of_run ((Batch.run_of_ok hp _).trans (run_bind_of_ok hr _))

lemma execute_stop (hp : (Batch.run pre).run u = (.ok outputs, u')) {u'' : Store}
    (hr : (Batch.runScheme outputs scheme).run u' = (.error e, u'')) (rest : List Scheme) :
    execute ⟨u, true⟩ (pre ++ scheme :: rest) = (.error e, ⟨u'', true⟩) :=
  execute_of_run ((Batch.run_of_ok hp _).trans (run_bind_of_error hr _))

lemma completes {rest : List Scheme} {s' : Session}
    (h : execute ⟨u, true⟩ (pre ++ rest) = (.ok outputs, s')) : Completes ⟨u, true⟩ pre rest outputs := by
  rcases hp : (Batch.run pre).run u with ⟨e | made, w⟩
  · rw [execute_eq, Batch.run_of_error hp] at h
    cases h
  have hrest : (Batch.runFrom made rest).run w = (.ok outputs, s'.store) := by
    rw [execute_eq, Batch.run_of_ok hp] at h
    exact Prod.ext (congrArg (·.1) h) (congrArg (·.2.store) h)
  obtain ⟨vs, rfl, hlength⟩ := Batch.run_runFrom hrest
  obtain ⟨_, hmade, hl⟩ := Batch.run_runFrom hp
  rw [List.nil_append] at hmade
  subst hmade
  have htake : (made ++ vs).take pre.length = made := by rw [← hl, List.take_left]
  have hnext : ∀ scheme ∈ rest.head?, (∀ q ∈ Scheme.references scheme, q < pre.length) ∧
      ∃ v ∈ (made ++ vs)[pre.length]?, execute ⟨w, true⟩ [Scheme.bind made scheme] =
        (.ok [v], (execute ⟨u, true⟩ (pre ++ [scheme])).2) := by
    intro scheme hhead
    obtain ⟨rest, rfl⟩ := List.head?_eq_some_iff.mp hhead
    obtain ⟨v, x, hv, hrun⟩ := run_bind_eq_ok hrest
    obtain ⟨vs', hvs, -⟩ := Batch.run_runFrom hrun
    have hclosed := Batch.closed_of_ok hv
    refine ⟨hl ▸ hclosed, v, ?_, ?_⟩
    · rw [hvs, ← hl]
      simp
    · rw [execute_bind hclosed hv, execute_concat hp hv]
      rfl
  have hpre : execute ⟨u, true⟩ pre = (.ok made, ⟨w, true⟩) := execute_of_run hp
  constructor
  · rw [List.length_append, hl, hlength]
  · rw [hpre, htake]
  · exact fun scheme hhead => (hnext scheme hhead).1
  · rw [hpre, htake]
    exact fun scheme hhead => (hnext scheme hhead).2

lemma stopsAt (hp : (Batch.run pre).run u = (.ok outputs, u')) {u'' : Store}
    (hr : (Batch.runScheme outputs scheme).run u' = (.error e, u'')) :
    StopsAt ⟨u, true⟩ pre scheme e ⟨u'', true⟩ := by
  obtain ⟨_, hmade, hl⟩ := Batch.run_runFrom hp
  rw [List.nil_append] at hmade
  subst hmade
  have hpre : execute ⟨u, true⟩ pre = (.ok outputs, ⟨u', true⟩) := execute_of_run hp
  constructor
  · refine ⟨outputs, by rw [hpre], hl, fun hclosed => ?_⟩
    rw [hpre]
    exact execute_bind (hl.symm ▸ hclosed) hr
  · intro query hq
    rw [← hl, Option.mem_def] at hq
    rw [Batch.run_runScheme_of_open hq] at hr
    cases hr
    rw [hpre, hl]
    exact ⟨rfl, rfl⟩
  · exact execute_stop hp hr

end Connected

theorem execute_stepwise [Source] (connected : s.connected = true) :
    (∀ pre rest outputs s', s.execute (pre ++ rest) = (.ok outputs, s') → Completes s pre rest outputs) ∧
    (∀ schemes e s', s.execute schemes = (.error e, s') →
      ∃ pre scheme rest, schemes = pre ++ scheme :: rest ∧ StopsAt s pre scheme e s') ∧
    (∀ pre scheme rest outputs query, (s.execute pre).1 = .ok outputs → query ∈ Scheme.references scheme →
      pre.length ≤ query → ∃ first ∈ Scheme.references scheme, pre.length ≤ first ∧
        s.execute (pre ++ scheme :: rest) = (.error (.reference pre.length first), (s.execute pre).2)) := by
  obtain ⟨u, connected⟩ := s
  subst connected
  refine ⟨fun pre rest outputs s' h => completes h, ?_, ?_⟩
  · intro schemes e s' h
    rcases hr : (Batch.run schemes).run u with ⟨e' | outputs, u'⟩
    · rw [execute_of_run hr] at h
      cases h
      obtain ⟨pre, scheme, rest, outputs, w, rfl, hp, hs⟩ := Batch.exists_stop hr
      exact ⟨pre, scheme, rest, rfl, stopsAt hp hs⟩
    · rw [execute_of_run hr] at h
      cases h
  · intro pre scheme rest outputs query hp hq hle
    obtain ⟨first, hf⟩ : ∃ first, (Scheme.references scheme).find? (pre.length ≤ ·) = some first :=
      Option.isSome_iff_exists.mp (List.find?_isSome.mpr ⟨query, hq, decide_eq_true hle⟩)
    rcases hr : (Batch.run pre).run u with ⟨e | made, w⟩
    · rw [execute_of_run hr] at hp
      cases hp
    obtain ⟨_, hmade, hl⟩ := Batch.run_runFrom hr
    rw [List.nil_append] at hmade
    subst hmade
    have hopen : (Batch.runScheme made scheme).run w = (.error (.reference made.length first), w) :=
      Batch.run_runScheme_of_open (hl.symm ▸ hf) w
    refine ⟨first, List.mem_of_find?_eq_some hf, by simpa using List.find?_some hf, ?_⟩
    rw [execute_stop hr hopen, execute_of_run hr, hl]

def oneUser : Session :=
  (ofStore (.ofTables (.ofObjects [("users", [("u1", [("name", .string "Ann")])])]))).connect

def arrival : Scheme :=
  [⟨.insert, [.value (.object [("name", .string "Eve")])]⟩, ⟨.toTables, [.value (.string "users")]⟩]

def departure : Scheme :=
  [⟨.delete, []⟩, ⟨.fromTables, [.value (.string "users")]⟩, ⟨.whereKeys, [.value (.string "_key")]⟩,
    ⟨.isIn, [.scope .or [.reference 0]]⟩]

def untargeted : Scheme := [⟨.delete, []⟩]

def keysOf (keys : List String) : Value := .array (keys.map .string)

theorem execute_stepwise_departure :
    ∃ s' s'', oneUser.connected = true ∧
      oneUser.execute ([arrival, arrival] ++ [departure]) =
        (.ok [keysOf ["~gen-0001"], keysOf ["~gen-0002"], .bool true], s') ∧
      Completes oneUser [arrival, arrival] [departure]
        [keysOf ["~gen-0001"], keysOf ["~gen-0002"], .bool true] ∧
      (s'.store.tables.rows "users").map (·.1) = ["u1", "~gen-0002"] ∧
      oneUser.execute [arrival, arrival, departure, untargeted, arrival] =
        (.error (.malformed (.noTarget .delete)), s'') ∧
      s''.store.tables.rows "users" = s'.store.tables.rows "users" ∧
      (∃ pre scheme rest, [arrival, arrival, departure, untargeted, arrival] = pre ++ scheme :: rest ∧
        StopsAt oneUser pre scheme (.malformed (.noTarget .delete)) s'') ∧
      0 ∈ Scheme.references departure ∧
      ∃ first ∈ Scheme.references departure, 0 ≤ first ∧
        oneUser.execute [departure, arrival] = (.error (.reference 0 first), oneUser) := by
  obtain ⟨hcompletes, hstops, hreference⟩ := execute_stepwise (s := oneUser) rfl
  have hrun : oneUser.execute ([arrival, arrival] ++ [departure]) =
      (.ok [keysOf ["~gen-0001"], keysOf ["~gen-0002"], .bool true],
        (oneUser.execute ([arrival, arrival] ++ [departure])).2) := Prod.ext rfl rfl
  have hstop : oneUser.execute [arrival, arrival, departure, untargeted, arrival] =
      (.error (.malformed (.noTarget .delete)),
        (oneUser.execute [arrival, arrival, departure, untargeted, arrival]).2) := Prod.ext rfl rfl
  have hopen : 0 ∈ Scheme.references departure := List.mem_cons_self
  exact ⟨_, _, rfl, hrun, hcompletes _ _ _ _ hrun, by decide +kernel, hstop, rfl, hstops _ _ _ hstop, hopen,
    hreference [] departure [arrival] [] 0 rfl hopen (Nat.le_refl 0)⟩

end Session

end DocQuery
