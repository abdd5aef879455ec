import DocQuery.Json.Reader
import DocQuery.Source
import DocQuery.Tables
import DocQuery.Text.Blank

namespace DocQuery

inductive Request where
  | fetch (table : String) (bound : Option Bound)
  | write (table : String) (changes : Dict Value)
  | insert (table : String) (content : Value) (key : Option String)

/-- Where the tables are kept. A data file is written with the first change; a path may be such that
no file can be there. -/
inductive Medium where
  | memory
  | file (text : Option String)
  | nowhere (obstacle : Obstacle)

/-- Changes of `readOnly` tables and reading of `offline` tables are refused. `issued` counts the
keys given to rows that had none. -/
structure Store where
  tables : Tables
  medium : Medium
  readOnly : List String
  offline : List String
  issued : Nat
  journal : List Request

abbrev StoreAction := ExceptT StoreFault (StateM Store)

namespace Store

def ofTables (tables : Tables) : Store := ⟨tables, .memory, [], [], 0, []⟩

inductive FileFault where
  | noJson
  | noData (fault : StoreFault)

def tablesOfFile (text : Option String) : Except FileFault Tables :=
  match text with
  | none => .ok .empty
  | some s =>
    if Text.trim s.toList = [] then .ok .empty
    else
      match Json.read? s with
      | none => .error .noJson
      | some v =>
        match Tables.ofValue? v with
        | .ok tables => .ok tables
        | .error fault => .error (.noData fault)

def openFile (text : Option String) : Except FileFault Store :=
  (tablesOfFile text).map fun tables => { ofTables tables with medium := .file text }

def fileText (tables : Tables) : String := Json.pretty tables.toValue ++ "\n"

def setTables (s : Store) (tables : Tables) : Store :=
  { s with
    tables := tables
    medium := match s.medium with
      | .memory => .memory
      | .file _ => .file (some (fileText tables))
      | .nowhere obstacle => .nowhere obstacle }

def log (r : Request) : StoreAction Unit := modify fun s => { s with journal := s.journal ++ [r] }

/-- The tables change even if they cannot be written. -/
def change (tables : Tables) : StoreAction Unit := do
  modify fun s => s.setTables tables
  match (← get).medium with
  | .nowhere obstacle => throw (.unwritten obstacle)
  | _ => return

def fetch (table : String) (bound : Option Bound) : StoreAction (Dict Value) := do
  log (.fetch table bound)
  let s ← get
  if s.offline.contains table then throw .offline else return s.tables.fetch table bound

def write (table : String) (changes : Dict Value) : StoreAction Unit := do
  log (.write table changes)
  let s ← get
  if s.readOnly.contains table then throw .readOnly
  else change (s.tables.write table changes)

def insert [Source] (table : String) (content : Value) (key : Option String) : StoreAction String := do
  log (.insert table content key)
  let s ← get
  if s.readOnly.contains table then throw .readOnly
  else
    let (key, issued) := match key with
      | some key => (key, s.issued)
      | none => (Source.key (s.issued + 1), s.issued + 1)
    set { s with issued := issued }
    change (s.tables.insert table key content)
    return key

end Store

end DocQuery
