import DocQuery.Proofs.Run.Inserting

/-! A change of several tables some of which refuse it. Every table is tried, the others end as if none had refused,
and the refusals are reported together; if a table cannot even be read, nothing is tried. -/

namespace DocQuery

def Command.refusal (command : Command) (name : String) : String :=
  match command with
  | .insert => "Adding an entry to the \"" ++ name ++ "\" failed: " ++ "Store error: read-only"
  | .select | .update | .delete => "\"" ++ name ++ "\" table update failed: " ++ "Store error: read-only"

def Command.writeFailed (command : Command) (names : List String) : Error :=
  match command with
  | .insert => .inserts (names.map fun name => (name, .readOnly))
  | .select | .update | .delete => .updates (names.map fun name => (name, .readOnly))

def Command.answer (command : Command) (v : Value) (names : List String) : Except Error Value :=
  if names.isEmpty then .ok v else .error (command.writeFailed names)

lemma Error.message_updates (failures : List (String × StoreFault)) : (updates failures).message =
    "\n".intercalate (failures.map fun f => "\"" ++ f.1 ++ "\" table update failed: " ++ f.2.message) := rfl

lemma Error.message_inserts (failures : List (String × StoreFault)) : (inserts failures).message =
    "\n".intercalate (failures.map fun f => "Adding an entry to the \"" ++ f.1 ++ "\" failed: " ++ f.2.message) := rfl

lemma Command.message_writeFailed (command : Command) (names : List String) :
    (command.writeFailed names).message = "\n".intercalate (names.map command.refusal) := by
  cases command with
  | insert =>
    rw [writeFailed, Error.message_inserts, List.map_map]
    congr 2
  | select | update | delete =>
    rw [writeFailed, Error.message_updates, List.map_map]
    congr 2

namespace Plan

def Targets (requests : List Request) (name : String) : Prop := ∃ r ∈ requests, r.target? = some name

structure Refused (refused : List String) (requests : List Request) (names : List String) : Prop where
  ordered : names.Pairwise (· < ·)
  mem_iff : ∀ name, name ∈ names ↔ name ∈ refused ∧ Targets requests name

/-- Data for a table and the keys that are generated for it: one for every datum that brings none. -/
structure Generated [Source] (issued : Nat) (vs : List Value) (keys : List String) : Prop where
  length_eq : keys.length = Insert.keyless vs
  distinct : keys.Nodup
  novel : ∀ key ∈ keys, ∃ n, issued < n ∧ key = Source.key n

def dataFor (p : Plan) (name : String) : List Value := (p.tables.filter (·.name == name)).flatMap fun _ => p.data

/-- The store `s'` that a change of `s` leaves if some tables refuse it, beside `s₀` if none does. -/
structure Curtailed [Source] (p : Plan) (command : Command) (refused : List String) (s s₀ s' : Store) : Prop where
  requests : s'.journal = s₀.journal
  kept : ∀ name ∈ refused, Dict.find? name s'.tables = Dict.find? name s.tables
  changed : command ≠ .insert → ∀ name ∉ refused, Dict.find? name s'.tables = Dict.find? name s₀.tables
  filled : command = .insert → ∀ name ∉ refused, ∃ keys₀ keys',
    Generated s.issued (p.dataFor name) keys₀ ∧ Generated s.issued (p.dataFor name) keys' ∧
    Dict.find? name s₀.tables = Insert.fill (p.dataFor name) keys₀ (Dict.find? name s.tables) ∧
    Dict.find? name s'.tables = Insert.fill (p.dataFor name) keys' (Dict.find? name s.tables)

variable {rs : Results} {p : Plan} {s s₀ : Store} {v : Value}

lemma run_runAs_of_ok [Source] {name : String} {s' : Store} (h : (p.run rs).run s = (.ok v, s')) :
    (p.runAs name rs).run s = (.ok (v, (rs.record name v).2), s') :=
  run_bind_of_ok h _

lemma run_runAs_of_error [Source] {name : String} {s' : Store} {e : Error} (h : (p.run rs).run s = (.error e, s')) :
    (p.runAs name rs).run s = (.error e, s') :=
  run_bind_of_error h _

section Change

lemma primary_of_run {α : Type} {command : Command} {f : Table → Query α} {a : α} {s' : Store}
    (h : (Query.primary p command >>= f).run s = (.ok a, s')) :
    ∃ t ∈ p.primary?, Query.primary p command = pure t := by
  unfold Query.primary at h ⊢
  split at h
  · next t ht => exact ⟨t, ht, rfl⟩
  · cases h

lemma exists_changes [Source] (hc : p.command = some .update ∨ p.command = some .delete)
    (h : (p.run rs).run s = (.ok v, s₀)) :
    ∃ changes : String → List Row → Dict Value, p.run rs = do
      let sets ← Query.matchedRows rs p
      Query.writeAll (sets.map fun e => (e.1, changes e.1 e.2))
      return .bool true := by
  rcases hc with hc | hc
  · simp only [run, hc] at h ⊢
    obtain ⟨t, -, ht⟩ := primary_of_run h
    simp only [Update.run, ht, pure_bind] at h ⊢
    split at h
    · cases h
    · next assignments _ =>
      exact ⟨fun _ => Update.changes assignments, rfl⟩
  · simp only [run, hc] at h ⊢
    obtain ⟨t, -, ht⟩ := primary_of_run h
    simp only [Delete.run, ht, pure_bind]
    exact ⟨Delete.changes p, rfl⟩

lemma targets_writes {changes : Dict (Dict Value)} {name : String} :
    Targets (changes.map fun c => .write c.1 c.2) name ↔ name ∈ changes.map (·.1) := by
  simp [Targets, Request.target?]

lemma targets_append {asked requests : List Request} (h : ∀ r ∈ asked, r.target? = none) {name : String} :
    Targets (asked ++ requests) name ↔ Targets requests name := by
  constructor
  · rintro ⟨r, hr, hn⟩
    rcases List.mem_append.mp hr with hr | hr
    · cases (h r hr).symm.trans hn
    · exact ⟨r, hr, hn⟩
  · rintro ⟨r, hr, hn⟩
    exact ⟨r, List.mem_append_right _ hr, hn⟩

structure Beside [Source] (p : Plan) (rs : Results) (command : Command) (refused : List String) (s s₀ : Store)
    (v : Value) (requests : List Request) (names : List String) (s' : Store) : Prop where
  journal : s₀.journal = s.journal ++ requests
  refusals : Refused refused requests names
  run_eq : (p.run rs).run (s.refusing refused) = (command.answer v names, s')
  unrefused : names = [] → s' = s₀.refusing refused
  curtailed : p.Curtailed command refused s s₀ s'

lemma curtailed_trying [Source] (hr : s.readOnly = []) {command : Command} (hcc : command ≠ .insert)
    (asked : List Request) (documents : Dict (Dict Value)) (refused : List String) :
    p.Curtailed command refused s ((s.noting asked).trying documents)
      (((s.noting asked).refusing refused).trying documents) where
  requests := rfl
  kept _ hn := Store.find?_trying_of_mem documents hn
  changed _ name hn := by
    have hnone : name ∉ (s.noting asked).readOnly := by
      show name ∉ s.readOnly
      rw [hr]
      exact List.not_mem_nil
    exact (Store.find?_trying_of_not_mem (s := (s.noting asked).refusing refused) documents hn).trans
      (Store.find?_trying_of_not_mem documents hnone).symm
  filled hi := absurd hi hcc

lemma refused_writes {asked : List Request} (hasked : ∀ r ∈ asked, r.target? = none) {documents : Dict (Dict Value)}
    (hd : Dict.Sorted documents) (refused : List String) :
    Refused refused (asked ++ documents.map fun c => .write c.1 c.2)
      ((documents.filter fun c => refused.contains c.1).map (·.1)) where
  ordered := List.pairwise_map.mpr (hd.sublist List.filter_sublist)
  mem_iff name := by
    rw [targets_append hasked, targets_writes]
    simp only [List.mem_map, List.mem_filter, List.contains_iff_mem]
    constructor
    · rintro ⟨c, ⟨hc, hr⟩, rfl⟩
      exact ⟨hr, c, hc, rfl⟩
    · rintro ⟨hr, c, hc, rfl⟩
      exact ⟨c, ⟨hc, hr⟩, rfl⟩

lemma trying_refusing {documents : Dict (Dict Value)} (hr : s.readOnly = []) {refused : List String}
    (h : (documents.filter fun c => refused.contains c.1).map (·.1) = []) :
    (s.refusing refused).trying documents = (s.trying documents).refusing refused := by
  have hfree : ∀ c ∈ documents, c.1 ∉ refused := fun c hc hm =>
    List.filter_eq_nil_iff.mp (List.map_eq_nil_iff.mp h) c hc (List.contains_iff_mem.mpr hm)
  have hnone : ∀ c ∈ documents, c.1 ∉ s.readOnly := by
    intro c _
    rw [hr]
    exact List.not_mem_nil
  rw [Store.trying_unrefused hnone, Store.trying_unrefused (s := s.refusing refused) hfree]
  rfl

lemma beside_of_change [Source] (hm : s.medium = .memory) (hr : s.readOnly = []) {command : Command}
    (hc : p.command = some command) (hcc : command = .update ∨ command = .delete)
    (h : (p.run rs).run s = (.ok v, s₀)) (refused : List String) :
    ∃ requests names s', Beside p rs command refused s s₀ v requests names s' := by
  obtain ⟨changes, heq⟩ := exists_changes (hcc.imp (fun hcc => hcc ▸ hc) (fun hcc => hcc ▸ hc)) h
  rw [heq] at h
  obtain ⟨sets, t, hsets, h⟩ := run_bind_eq_ok h
  obtain ⟨_, u, hw, h⟩ := run_bind_eq_ok h
  cases h
  obtain ⟨asked, hasked, ht⟩ := (Query.Reads.matchedRows rs p).asks s
  rw [hsets] at ht
  obtain rfl : t = s.noting asked := ht
  -- the rows to change are read alike, so both runs try the same changes
  have hsets' := (Query.Reads.matchedRows rs p).regardless s refused
  rw [hsets] at hsets'
  have hsorted : Dict.Sorted (sets.map fun e => (e.1, changes e.1 e.2)) :=
    List.pairwise_map.mpr (Query.matchedRows_run hsets).2.1
  have hw' := Query.run_writeAll_memory (s := (s.noting asked).refusing refused) hm
    (sets.map fun e => (e.1, changes e.1 e.2))
  rw [Query.run_writeAll_memory (s := s.noting asked) hm] at hw
  generalize hd : (sets.map fun e => (e.1, changes e.1 e.2)).filter (!·.2.isEmpty) = documents at hw hw'
  obtain rfl : (s.noting asked).trying documents = s₀ := (Prod.mk.inj hw).2
  have hfailed : ∀ names, command.writeFailed names = .updates (names.map fun name => (name, .readOnly)) := by
    rcases hcc with rfl | rfl <;> exact fun _ => rfl
  refine ⟨_, _, ((s.noting asked).refusing refused).trying documents, List.append_assoc _ _ _,
    refused_writes hasked (hd ▸ hsorted.sublist List.filter_sublist) refused, ?_,
    trying_refusing (s := s.noting asked) hr,
    curtailed_trying hr (by rcases hcc with rfl | rfl <;> nofun) asked documents refused⟩
  rw [heq, run_bind_of_ok hsets', run_bind, hw', Command.answer, hfailed]
  dsimp only [Store.refusing]
  generalize (documents.filter fun c => refused.contains c.1).map (·.1) = names
  cases names <;> rfl

end Change

section Insertion

lemma dataFor_jobs (tables : List Table) (data : List Value) (name : String) :
    Insert.dataFor name (tables.flatMap fun t => data.map fun v => (t.name, v)) =
      (tables.filter (·.name == name)).flatMap fun _ => data := by
  induction tables with
  | nil => rfl
  | cons t tables ih =>
    rw [Insert.dataFor] at ih ⊢
    rw [List.flatMap_cons, List.filter_append, List.map_append, ih, List.filter_cons]
    by_cases hn : t.name = name
    · have hall : (data.map fun v => (t.name, v)).filter (·.1 == name) = data.map fun v => (t.name, v) := by
        refine List.filter_eq_self.mpr fun job hj => ?_
        obtain ⟨v, -, rfl⟩ := List.mem_map.mp hj
        exact beq_iff_eq.mpr hn
      rw [hall, if_pos (beq_iff_eq.mpr hn), List.flatMap_cons, List.map_map]
      exact congrArg (· ++ _) (List.map_id _)
    · have hnone : (data.map fun v => (t.name, v)).filter (·.1 == name) = [] := by
        refine List.filter_eq_nil_iff.mpr fun job hj he => ?_
        obtain ⟨v, -, rfl⟩ := List.mem_map.mp hj
        exact hn (beq_iff_eq.mp he)
      rw [hnone, if_neg fun he => hn (beq_iff_eq.mp he)]
      rfl

lemma targets_insertions {jobs : List (String × Value)} {name : String} :
    Targets (jobs.map Insert.request) name ↔ name ∈ jobs.map (·.1) := by
  simp [Targets, Insert.request, Request.target?]

lemma generated_of_numbers [Source] {issued : Nat} {vs : List Value} {ns : List Nat} (h : Insert.Numbers issued vs ns) :
    Generated issued vs (ns.map Source.key) where
  length_eq := by rw [List.length_map, h.length_eq]
  distinct := h.nodup_keys
  novel key hk := by
    obtain ⟨n, hn, rfl⟩ := List.mem_map.mp hk
    exact ⟨n, h.novel n hn, rfl⟩

lemma curtailed_of_inserted [Source] (hr : s.readOnly = []) {refused : List String}
    {jobs : List (String × Value)} (hj : ∀ name, Insert.dataFor name jobs = p.dataFor name)
    {answers₀ answers : List (String × Except StoreFault String)} {s' : Store}
    (h₀ : Insert.Inserted jobs s answers₀ s₀) (h : Insert.Inserted jobs (s.refusing refused) answers s') :
    p.Curtailed .insert refused s s₀ s' where
  requests := h.journal.trans h₀.journal.symm
  kept name hn := h.kept name (List.contains_iff_mem.mpr hn)
  changed hne := absurd rfl hne
  filled _ name hn := by
    obtain ⟨ns₀, hns₀, hfind₀⟩ := h₀.filled name (by rw [hr]; rfl)
    obtain ⟨ns, hns, hfind⟩ := h.filled name (Bool.eq_false_iff.mpr fun hm => hn (List.contains_iff_mem.mp hm))
    rw [hj name] at hns₀ hns hfind₀ hfind
    exact ⟨_, _, generated_of_numbers hns₀, generated_of_numbers hns, hfind₀, hfind⟩

lemma beside_of_insert [Source] (hm : s.medium = .memory) (hr : s.readOnly = []) (hc : p.command = some .insert)
    (h : (p.run rs).run s = (.ok v, s₀)) (refused : List String) :
    ∃ requests names s', Beside p rs .insert refused s s₀ v requests names s' := by
  have hrun : p.run rs = Insert.run p := by
    rw [run, hc]
  rw [hrun] at h
  obtain ⟨t, -, ht⟩ := primary_of_run h
  rw [Insert.run, Insert.insertAll_eq, ht, pure_bind] at h
  obtain ⟨answers₀, s₁, ha₀, h₀⟩ := Insert.run_tryAll hm (Insert.jobs p)
  obtain ⟨answers, s', ha, hi⟩ := Insert.run_tryAll (s := s.refusing refused) hm (Insert.jobs p)
  obtain ⟨names, hfailures, hordered, hnames⟩ := Insert.failures_eq hi.refused hi.accepted
  have hnone : Insert.failures answers₀ = [] := by
    obtain ⟨names, hf, -, hmem⟩ := Insert.failures_eq h₀.refused h₀.accepted
    rw [hf, List.map_eq_nil_iff]
    refine List.eq_nil_iff_forall_not_mem.mpr fun name hn => ?_
    have hc := ((hmem name).mp hn).1
    rw [hr] at hc
    cases hc
  rw [run_bind_of_ok ha₀, hnone] at h
  cases h
  have hmem : ∀ name, name ∈ names ↔ name ∈ refused ∧ name ∈ (Insert.jobs p).map (·.1) := by
    intro name
    rw [hnames, hi.names]
    exact and_congr_left' List.contains_iff_mem
  -- without a refusal the runs agree to the last key
  have hsame : names = [] → answers = answers₀ ∧ s' = s₀.refusing refused := by
    rintro rfl
    have hfree : ∀ job ∈ Insert.jobs p, job.1 ∉ refused :=
      fun job hj hn => List.not_mem_nil ((hmem job.1).mpr ⟨hn, List.mem_map_of_mem hj⟩)
    have hequal := ha.symm.trans (Insert.run_tryAll_unrefused hm hr hfree ha₀)
    exact ⟨Except.ok.inj (congrArg Prod.fst hequal), congrArg Prod.snd hequal⟩
  refine ⟨_, names, s', h₀.journal, ⟨hordered, fun name => ?_⟩, ?_, fun hn => (hsame hn).2,
    curtailed_of_inserted hr (dataFor_jobs p.tables p.data) h₀ hi⟩
  · rw [hmem, targets_insertions]
  · rw [hrun, Insert.run, Insert.insertAll_eq, ht, pure_bind, run_bind_of_ok ha, hfailures]
    cases names with
    | nil =>
      rw [(hsame rfl).1]
      rfl
    | cons name names => rfl

end Insertion

lemma Curtailed.eq_of_keyed [Source] {refused : List String} {s' : Store} (h : p.Curtailed .insert refused s s₀ s')
    (hk : ∀ v ∈ p.data, (Insert.splitKey v).2.isSome = true) {name : String} (hn : name ∉ refused) :
    Dict.find? name s'.tables = Dict.find? name s₀.tables := by
  obtain ⟨keys₀, keys', hg₀, hg', h₀, h'⟩ := h.filled rfl name hn
  have hnone : Insert.keyless (p.dataFor name) = 0 := by
    refine List.countP_eq_zero.mpr fun v hv => ?_
    obtain ⟨t, -, hv⟩ := List.mem_flatMap.mp hv
    rw [Option.isNone_iff_eq_none, ← Option.not_isSome_iff_eq_none]
    exact fun hns => hns (hk v hv)
  rw [h', h₀, List.length_eq_zero_iff.mp (hg'.length_eq.trans hnone),
    List.length_eq_zero_iff.mp (hg₀.length_eq.trans hnone)]

theorem runAs_refusing [Source] (hm : s.medium = .memory) (hr : s.readOnly = []) {command : Command}
    (hc : p.command = some command) (hcc : command ≠ .select) (h : (p.run rs).run s = (.ok v, s₀)) (output : String)
    (refused : List String) :
    (∃ requests names s', s₀.journal = s.journal ++ requests ∧ Refused refused requests names ∧
      p.Curtailed command refused s s₀ s' ∧
      (names = [] → s' = s₀.refusing refused ∧
        (p.runAs output rs).run (s.refusing refused) = (.ok (v, (rs.record output v).2), s')) ∧
      (names ≠ [] →
        (p.runAs output rs).run (s.refusing refused) = (.error (command.writeFailed names), s') ∧
        (command.writeFailed names).message = "\n".intercalate (names.map command.refusal))) ∧
    (command ≠ .insert → ∀ offline, (∃ t ∈ p.tables, t.name ∈ offline) → ∃ asked : List Request,
      (∀ r ∈ asked, r.target? = none) ∧ (p.runAs output rs).run { s.refusing refused with offline := offline } =
        (.error (.store .offline), { s.refusing refused with offline := offline }.noting asked)) := by
  constructor
  · obtain ⟨requests, names, s', hb⟩ : ∃ requests names s', Beside p rs command refused s s₀ v requests names s' := by
      cases command with
      | select => exact absurd rfl hcc
      | insert => exact beside_of_insert hm hr hc h refused
      | update => exact beside_of_change hm hr hc (.inl rfl) h refused
      | delete => exact beside_of_change hm hr hc (.inr rfl) h refused
    refine ⟨requests, names, s', hb.journal, hb.refusals, hb.curtailed, fun hn => ⟨hb.unrefused hn, ?_⟩,
      fun hn => ⟨?_, command.message_writeFailed names⟩⟩
    · refine run_runAs_of_ok (hb.run_eq.trans ?_)
      rw [hn]
      rfl
    · refine run_runAs_of_error (hb.run_eq.trans ?_)
      rw [Command.answer, if_neg fun he => hn (List.isEmpty_iff.mp he)]
  · intro hi offline ho
    have hchange : p.command = some .update ∨ p.command = some .delete := by
      cases command with
      | select => exact absurd rfl hcc
      | insert => exact absurd rfl hi
      | update => exact .inl hc
      | delete => exact .inr hc
    obtain ⟨changes, heq⟩ := exists_changes hchange h
    obtain ⟨s', hs'⟩ :=
      Query.run_matchedRows_refused rs (s := { s.refusing refused with offline := offline }) ho
    obtain ⟨asked, hasked, hnoting⟩ :=
      (Query.Reads.matchedRows rs p).asks { s.refusing refused with offline := offline }
    rw [hs'] at hnoting
    obtain rfl : s' = _ := hnoting
    refine ⟨asked, hasked, run_runAs_of_error ?_⟩
    rw [heq]
    exact run_bind_of_error hs' _

def oneOrder : Store := .ofTables (.ofObjects [("orders", [("o1", [])]), ("users", [("u1", [])])])

def allGone : Scheme :=
  [⟨.delete, []⟩, ⟨.fromTables, [.table (.named "users"), .table (.named "orders"), .table (.named "notes")]⟩]

theorem runAs_refusing_orders :
    ∃ p s₀ requests s', ofScheme [] allGone = .ok p ∧ (p.run []).run oneOrder = (.ok (.bool true), s₀) ∧
      s₀.journal = oneOrder.journal ++ requests ∧ Refused ["notes", "orders"] requests ["orders"] ∧
      p.Curtailed .delete ["notes", "orders"] oneOrder s₀ s' ∧
      (p.runAs "output" []).run (oneOrder.refusing ["notes", "orders"]) =
        (.error (Command.delete.writeFailed ["orders"]), s') ∧
      (Command.delete.writeFailed ["orders"]).message = "\"orders\" table update failed: Store error: read-only" := by
  obtain ⟨p, s₀, hp, hc, hrun, hanswer⟩ : ∃ p s₀, ofScheme [] allGone = .ok p ∧ p.command = some .delete ∧
      (p.run []).run oneOrder = (.ok (.bool true), s₀) ∧
      ((p.runAs "output" []).run (oneOrder.refusing ["notes", "orders"])).1 =
        .error (.updates [("orders", .readOnly)]) := ⟨_, _, rfl, rfl, rfl, rfl⟩
  obtain ⟨⟨requests, names, s', hj, hrefused, hcurtailed, hgranted, hfailed⟩, -⟩ :=
    runAs_refusing (s := oneOrder) rfl rfl hc nofun hrun "output" ["notes", "orders"]
  have hne : names ≠ [] := by
    intro hn
    rw [(hgranted hn).2] at hanswer
    cases hanswer
  obtain ⟨hfail, hmessage⟩ := hfailed hne
  rw [hfail] at hanswer
  obtain rfl : names = ["orders"] := by
    have hnames := congrArg (List.map Prod.fst) (Error.updates.inj (Except.error.inj hanswer))
    rw [List.map_map] at hnames
    exact (List.map_id names).symm.trans hnames
  exact ⟨p, s₀, requests, s', hp, hrun, hj, hrefused, hcurtailed, hfail, hmessage⟩

end Plan

end DocQuery
