import DocQuery.Proofs.Canonical
import DocQuery.Proofs.Json.Integers
import DocQuery.Proofs.Json.Rereading
import DocQuery.Proofs.Run.Matching
import DocQuery.Proofs.Store.Documents

/-! A store on a data file, which may be opened again at any time, answers as a finite map of documents does, and its
file always has what the store has. -/

namespace DocQuery

namespace Tables

variable {ts : Tables}

lemma ofValue?_toValue (ts : Tables) : ofValue? ts.toValue = .ok ts := by
  have hm : ∀ us : Tables, (Dict.mapValues Value.object us).mapM
      (fun t => (rowsOf? t.1 t.2).map fun rows => (t.1, rows)) = .ok us := by
    intro us
    induction us with
    | nil => rfl
    | cons u us ih =>
      rw [Dict.mapValues, List.map_cons, List.mapM_cons, ← Dict.mapValues, ih]
      rfl
  exact hm ts

lemma sorted_of_rowsOf? {name : String} {v : Value} {rows : Dict Value} (hv : v.canonical = v)
    (h : rowsOf? name v = .ok rows) : Dict.Sorted rows := by
  cases v with
  | object fields =>
    cases h
    exact (Value.sorted_of_canonical hv).1
  | null =>
    cases h
    exact .nil
  | _ => cases h

lemma sorted_of_ofValue? {v : Value} (hv : v.canonical = v) (h : ofValue? v = .ok ts) :
    Dict.Sorted ts ∧ ∀ t ∈ ts, Dict.Sorted t.2 := by
  cases v with
  | object tables =>
    obtain ⟨hs, hc⟩ := Value.sorted_of_canonical hv
    suffices hk : Dict.keys ts = Dict.keys tables ∧ ∀ t ∈ ts, Dict.Sorted t.2 by
      have hkeys : (Dict.keys ts).Pairwise (· < ·) := by
        rw [hk.1]
        exact List.pairwise_map.mpr hs
      exact ⟨List.pairwise_map.mp hkeys, hk.2⟩
    clear hv hs
    induction tables generalizing ts with
    | nil =>
      cases h
      exact ⟨rfl, nofun⟩
    | cons e tables ih =>
      rw [ofValue?, List.mapM_cons] at h
      obtain ⟨t, ht, h⟩ := Except.bind_eq_ok h
      obtain ⟨us, hus, h⟩ := Except.bind_eq_ok h
      cases h
      obtain ⟨rows, hr, rfl⟩ := Except.map_eq_ok ht
      obtain ⟨hk, hsorted⟩ := ih hus fun e he => hc e (List.mem_cons_of_mem _ he)
      refine ⟨congrArg (e.1 :: ·) hk, List.forall_mem_cons.mpr ⟨?_, hsorted⟩⟩
      exact sorted_of_rowsOf? (hc e List.mem_cons_self) hr
  | null =>
    cases h
    exact ⟨.nil, nofun⟩
  | _ => cases h

end Tables

namespace Text

lemma trim_ne_nil {c : Char} (hc : isBlank c = false) (cs : List Char) : trim (c :: cs) ≠ [] := by
  intro h
  rw [trim, trimLeft, List.dropWhile_cons_of_neg (by simp [hc]), trimRight, List.reverse_eq_nil_iff,
    List.dropWhile_eq_nil_iff] at h
  have hblank := h c (by simp)
  rw [hc] at hblank
  cases hblank

end Text

namespace Store

lemma toList_fileText (ts : Tables) : ∃ cs, (fileText ts).toList = '\x7b' :: cs := by
  cases ts with
  | nil => exact ⟨['\x7d', '\n'], rfl⟩
  | cons t ts =>
    rw [fileText, Tables.toValue, Dict.mapValues, List.map_cons, Json.pretty, Json.indented]
    · simp
    · simp

lemma tablesOfFile_fileText {ts : Tables} (h : Json.read? (fileText ts) = some ts.toValue) :
    tablesOfFile (some (fileText ts)) = .ok ts := by
  obtain ⟨cs, hcs⟩ := toList_fileText ts
  have ht : Text.trim (fileText ts).toList ≠ [] := by
    rw [hcs]
    exact Text.trim_ne_nil (by decide) cs
  rw [tablesOfFile, if_neg ht, h]
  dsimp only
  rw [Tables.ofValue?_toValue]

lemma read?_fileText {ts : Tables} (hc : ts.toValue.canonical = ts.toValue) (hl : ts.toValue.levels ≤ 127)
    (hn : ∀ n, Value.number n ∈ ts.toValue.scalars → n.Rereadable) : Json.read? (fileText ts) = some ts.toValue := by
  rw [fileText, Json.read?_pretty hn hl, hc]

lemma sorted_of_tablesOfFile {text : Option String} {ts : Tables} (h : tablesOfFile text = .ok ts) :
    Dict.Sorted ts ∧ ∀ t ∈ ts, Dict.Sorted t.2 := by
  have hempty : Dict.Sorted Tables.empty ∧ ∀ t ∈ Tables.empty, Dict.Sorted t.2 := ⟨.nil, nofun⟩
  unfold tablesOfFile at h
  split at h
  · cases h
    exact hempty
  · split at h
    · cases h
      exact hempty
    · split at h
      · cases h
      · next v hr =>
        split at h
        · next ts' hv =>
          cases h
          obtain ⟨w, -, rfl⟩ := Option.map_eq_some_iff.mp hr
          exact Tables.sorted_of_ofValue? w.canonical_canonical hv
        · cases h

def reopened (s : Store) : Except FileFault Store :=
  match s.medium with
  | .file text => (openFile text).map fun t => { t with issued := s.issued, journal := s.journal }
  | _ => .ok s

end Store

inductive Visit where
  | request (r : Request)
  | reopen

inductive Answer where
  | rows (rows : Dict Value)
  | done
  | key (key : String)
  | refused (fault : StoreFault)
  | unopened (fault : Store.FileFault)

def Request.perform [Source] : Request → StoreAction Answer
  | fetch table bound => do return .rows (← Store.fetch table bound)
  | write table changes => do
    Store.write table changes
    return .done
  | insert table content key => do return .key (← Store.insert table content key)

def Store.visit [Source] (s : Store) : Visit → Answer × Store
  | .request r =>
    match r.perform.run s with
    | (.ok answer, t) => (answer, t)
    | (.error fault, t) => (.refused fault, t)
  | .reopen =>
    match s.reopened with
    | .ok t => (.done, t)
    | .error fault => (.unopened fault, s)

/-- Documents, and how many of their keys were made for them. -/
structure Archive where
  documents : Documents
  issued : Nat

namespace Archive

def ofStore (s : Store) : Archive := ⟨.ofTables s.tables, s.issued⟩

def bounded (rows : Dict Value) : Option Bound → Dict Value
  | none => rows
  | some (.first n) => rows.take n
  | some (.last n) => rows.drop (rows.length - n)

def visit [Source] (a : Archive) : Visit → Answer × Archive
  | .request (.fetch table bound) => (.rows (bounded (a.documents.rows table) bound), a)
  | .request (.write table changes) => (.done, { a with documents := a.documents.write table changes })
  | .request (.insert table content (some key)) =>
    (.key key, { a with documents := a.documents.insert (table, key) content })
  | .request (.insert table content none) =>
    let key := Source.key (a.issued + 1)
    (.key key, ⟨a.documents.insert (table, key) content, a.issued + 1⟩)
  | .reopen => (.done, a)

end Archive

def visits {σ : Type} (visit : σ → Visit → Answer × σ) (s : σ) : List Visit → List Answer × σ
  | [] => ([], s)
  | v :: vs =>
    let answer := visit s v
    let rest := visits visit answer.2 vs
    (answer.1 :: rest.1, rest.2)

def Visit.writes : Visit → Prop
  | request (.write _ _) | request (.insert _ _ _) => True
  | _ => False

def Store.Readable [Source] (s : Store) : List Visit → Prop
  | [] => True
  | v :: vs =>
    (v.writes → Json.read? (fileText (s.visit v).2.tables) = some (s.visit v).2.tables.toValue) ∧
      Readable (s.visit v).2 vs

namespace Store

variable {s : Store} {a : Archive}

structure Serves (s : Store) (a : Archive) : Prop where
  held : a.documents.Held s.tables
  issued : s.issued = a.issued
  free : s.readOnly = [] ∧ s.offline = []
  file : ∃ text, s.medium = .file text ∧ tablesOfFile text = .ok s.tables

lemma run_change_file {text : Option String} (hm : s.medium = .file text) (tables : Tables) :
    (change tables).run s = (.ok ⟨⟩, { s with tables := tables, medium := .file (some (fileText tables)) }) := by
  obtain ⟨_, medium, _, _, _, _⟩ := s
  obtain rfl : medium = .file text := hm
  rfl

lemma run_write_file {text : Option String} (hm : s.medium = .file text) (hf : s.readOnly = []) (table : String)
    (changes : Dict Value) : (write table changes).run s = (.ok ⟨⟩, { s with
      journal := s.journal ++ [.write table changes]
      tables := s.tables.write table changes
      medium := .file (some (fileText (s.tables.write table changes))) }) := by
  unfold write
  rw [run_bind_of_ok (m := log _) rfl, run_bind_of_ok (m := get) rfl]
  dsimp only
  rw [if_neg (by simp [hf])]
  exact run_change_file (s := { s with journal := s.journal ++ [.write table changes] }) hm _

lemma run_insert_file [Source] {text : Option String} (hm : s.medium = .file text) (hf : s.readOnly = [])
    (table : String) (content : Value) (key : Option String) :
    (insert table content key).run s = (.ok (key.getD (Source.key (s.issued + 1))), { s with
      journal := s.journal ++ [.insert table content key]
      issued := s.issued + if key.isSome then 0 else 1
      tables := s.tables.insert table (key.getD (Source.key (s.issued + 1))) content
      medium := .file
        (some (fileText (s.tables.insert table (key.getD (Source.key (s.issued + 1))) content))) }) := by
  unfold insert
  rw [run_bind_of_ok (m := log _) rfl, run_bind_of_ok (m := get) rfl]
  dsimp only
  rw [if_neg (by simp [hf])]
  have hchange (s : Store) (hm : s.medium = .file text) (key : String) := run_bind_of_ok (run_change_file hm
    (s.tables.insert table key content)) fun _ => (pure key : StoreAction String)
  cases key with
  | none =>
    exact hchange { s with journal := s.journal ++ [.insert table content none], issued := s.issued + 1 } hm _
  | some key => exact hchange { s with journal := s.journal ++ [.insert table content (some key)] } hm key

lemma visit_of_run [Source] {r : Request} {answer : Answer} {t : Store} (h : r.perform.run s = (.ok answer, t)) :
    s.visit (.request r) = (answer, t) := by rw [visit, h]

section Visit

variable [Source] {text : Option String}

lemma visit_fetch (hf : s.offline = []) (table : String) (bound : Option Bound) :
    s.visit (.request (.fetch table bound)) =
      (.rows (s.tables.fetch table bound), { s with journal := s.journal ++ [.fetch table bound] }) := by
  have hrun := run_fetch table bound s
  rw [if_neg (by simp [hf])] at hrun
  exact visit_of_run (run_bind_of_ok hrun _)

lemma visit_write (hm : s.medium = .file text) (hf : s.readOnly = []) (table : String) (changes : Dict Value) :
    s.visit (.request (.write table changes)) = (.done, { s with
      journal := s.journal ++ [.write table changes]
      tables := s.tables.write table changes
      medium := .file (some (fileText (s.tables.write table changes))) }) :=
  visit_of_run (run_bind_of_ok (run_write_file hm hf table changes) _)

lemma visit_insert (hm : s.medium = .file text) (hf : s.readOnly = []) (table : String) (content : Value)
    (key : Option String) :
    s.visit (.request (.insert table content key)) = (.key (key.getD (Source.key (s.issued + 1))), { s with
      journal := s.journal ++ [.insert table content key]
      issued := s.issued + if key.isSome then 0 else 1
      tables := s.tables.insert table (key.getD (Source.key (s.issued + 1))) content
      medium := .file (some (fileText (s.tables.insert table (key.getD (Source.key (s.issued + 1))) content))) }) :=
  visit_of_run (run_bind_of_ok (run_insert_file hm hf table content key) _)

lemma visit_reopen (hm : s.medium = .file text) {ts : Tables} (ht : tablesOfFile text = .ok ts) :
    s.visit .reopen =
      (.done, { ofTables ts with medium := .file text, issued := s.issued, journal := s.journal }) := by
  have hopen : s.reopened =
      .ok { ofTables ts with medium := .file text, issued := s.issued, journal := s.journal } := by
    rw [reopened, hm]
    dsimp only
    rw [openFile, ht]
    rfl
  rw [visit, hopen]

end Visit

lemma Serves.fetch_eq (h : s.Serves a) (table : String) (bound : Option Bound) :
    s.tables.fetch table bound = Archive.bounded (a.documents.rows table) bound := by
  rw [← h.held.rows_eq]
  cases bound with
  | none => rfl
  | some b => cases b <;> rfl

lemma Serves.visit [Source] (h : s.Serves a) (v : Visit)
    (hr : v.writes → Json.read? (fileText (s.visit v).2.tables) = some (s.visit v).2.tables.toValue) :
    (s.visit v).1 = (a.visit v).1 ∧ (s.visit v).2.Serves (a.visit v).2 := by
  obtain ⟨text, hm, ht⟩ := h.file
  obtain ⟨hreadOnly, hoffline⟩ := h.free
  cases v with
  | request r =>
    cases r with
    | fetch table bound =>
      rw [visit_fetch hoffline, h.fetch_eq]
      exact ⟨rfl, h.held, h.issued, h.free, h.file⟩
    | write table changes =>
      rw [visit_write hm hreadOnly] at hr ⊢
      exact ⟨rfl, h.held.write table changes, h.issued, h.free, _, rfl, tablesOfFile_fileText (hr trivial)⟩
    | insert table content key =>
      rw [visit_insert hm hreadOnly] at hr ⊢
      cases key with
      | none =>
        rw [h.issued] at hr ⊢
        exact ⟨rfl, h.held.insert table _ content, rfl, h.free, _, rfl, tablesOfFile_fileText (hr trivial)⟩
      | some key =>
        exact ⟨rfl, h.held.insert table key content, h.issued, h.free, _, rfl, tablesOfFile_fileText (hr trivial)⟩
  | reopen =>
    rw [visit_reopen hm ht]
    exact ⟨rfl, h.held, h.issued, ⟨rfl, rfl⟩, text, rfl, ht⟩

lemma Serves.visits [Source] (h : s.Serves a) {vs : List Visit} (hr : s.Readable vs) :
    (visits Store.visit s vs).1 = (visits Archive.visit a vs).1 ∧
      (visits Store.visit s vs).2.Serves (visits Archive.visit a vs).2 := by
  induction vs generalizing s a with
  | nil => exact ⟨rfl, h⟩
  | cons v vs ih =>
    obtain ⟨ha, ht⟩ := h.visit v hr.1
    obtain ⟨has, hu⟩ := ih ht hr.2
    exact ⟨List.cons_eq_cons.mpr ⟨ha, has⟩, hu⟩

lemma Readable.of_append [Source] {us vs : List Visit} (h : s.Readable (us ++ vs)) : s.Readable us := by
  induction us generalizing s with
  | nil => trivial
  | cons u us ih => exact ⟨h.1, ih h.2⟩

lemma serves_openFile {text : Option String} (h : openFile text = .ok s) : s.Serves (.ofStore s) := by
  obtain ⟨ts, ht, rfl⟩ := Except.map_eq_ok h
  obtain ⟨hs, hr⟩ := sorted_of_tablesOfFile ht
  exact ⟨Documents.held_ofTables hs hr, rfl, ⟨rfl, rfl⟩, text, rfl, ht⟩

theorem visits_openFile [Source] {text : Option String} (h : openFile text = .ok s) {vs : List Visit}
    (hr : s.Readable vs) :
    (visits Store.visit s vs).1 = (visits Archive.visit (.ofStore s) vs).1 ∧
      (visits Store.visit s vs).2.tables.filter (!·.2.isEmpty) =
        (visits Archive.visit (.ofStore s) vs).2.documents.tables ∧
      ∀ us ws, vs = us ++ ws → ∃ text', (visits Store.visit s us).2.medium = .file text' ∧
        tablesOfFile text' = .ok (visits Store.visit s us).2.tables := by
  obtain ⟨hanswers, ht⟩ := (serves_openFile h).visits hr
  refine ⟨hanswers, ht.held.tables_eq, ?_⟩
  rintro us ws rfl
  exact ((serves_openFile h).visits hr.of_append).2.file

section Users

def savedUsers : Tables := [("old", []), ("users", [("ann", .object [("age", .int 7)]), ("bob", .null)])]

def leftUsers : Tables := [("old", []), ("users", [("bob", .null), ("cid", .object [])])]

def lastUserLeaves : List Visit :=
  [.request (.fetch "users" (some (.last 1))), .request (.write "users" [("ann", .null), ("cid", .object [])]),
    .reopen, .request (.insert "logs" (.string "left") none),
    .request (.write "users" [("bob", .null), ("cid", .null)]), .reopen, .request (.fetch "users" none)]

lemma read?_savedUsers : Json.read? (fileText savedUsers) = some savedUsers.toValue := by
  refine read?_fileText rfl (by decide) fun n hn => ?_
  obtain rfl : n = .int 7 := by
    simpa [savedUsers, Tables.toValue, Dict.mapValues, Value.scalars, Value.scalarsOfFields, Value.int] using hn
  exact Number.rereadable_int (by decide) (by decide)

lemma read?_leftUsers : Json.read? (fileText leftUsers) = some leftUsers.toValue :=
  read?_fileText rfl (by decide)
    (by simp [leftUsers, Tables.toValue, Dict.mapValues, Value.scalars, Value.scalarsOfFields])

def logged (users : Tables) : Tables := ("logs", [(Source.key 1, .string "left")]) :: ("old", []) :: users

lemma read?_logged {users : Tables} (hu : users = [] ∨ users = leftUsers.tail) :
    Json.read? (fileText (logged users)) = some (logged users).toValue := by
  rcases hu with rfl | rfl <;> refine read?_fileText rfl (by decide) ?_ <;>
    simp [logged, leftUsers, Tables.toValue, Dict.mapValues, Value.scalars, Value.scalarsOfFields]

lemma readable_lastUserLeaves :
    Readable { ofTables savedUsers with medium := .file (some (fileText savedUsers)) } lastUserLeaves := by
  refine ⟨nofun, ?_⟩
  rw [visit_fetch rfl]
  refine ⟨?_, ?_⟩ <;> rw [visit_write rfl rfl]
  · exact fun _ => read?_leftUsers
  refine ⟨nofun, ?_⟩
  rw [visit_reopen rfl (tablesOfFile_fileText read?_leftUsers)]
  refine ⟨?_, ?_⟩ <;> rw [visit_insert rfl rfl]
  · exact fun _ => read?_logged (.inr rfl)
  refine ⟨?_, ?_⟩ <;> rw [visit_write rfl rfl]
  · exact fun _ => read?_logged (.inl rfl)
  exact ⟨nofun, nofun, trivial⟩

theorem visits_lastUserLeaves :
    let s : Store := { ofTables savedUsers with medium := .file (some (fileText savedUsers)) }
    openFile (some (fileText savedUsers)) = .ok s ∧ s.Readable lastUserLeaves ∧
      (visits Store.visit s lastUserLeaves).1 = (visits Archive.visit (.ofStore s) lastUserLeaves).1 ∧
      (visits Store.visit s lastUserLeaves).2.tables.filter (!·.2.isEmpty) =
        (visits Archive.visit (.ofStore s) lastUserLeaves).2.documents.tables := by
  intro s
  have ho : openFile (some (fileText savedUsers)) = .ok s := by
    rw [openFile, tablesOfFile_fileText read?_savedUsers]
    rfl
  have hv := visits_openFile ho readable_lastUserLeaves
  exact ⟨ho, readable_lastUserLeaves, hv.1, hv.2.1⟩

end Users

end Store

end DocQuery
