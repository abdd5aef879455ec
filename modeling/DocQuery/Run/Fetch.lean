import DocQuery.Plan
import DocQuery.Rows.Join
import DocQuery.Store

namespace DocQuery

abbrev Query := ExceptT Error (StateM Store)

abbrev RowSets := Dict (List Row)

namespace Query

def ofStore {α : Type} (a : StoreAction α) : Query α := ExceptT.adapt Error.store a

def attempt {α : Type} (a : StoreAction α) : Query (Except StoreFault α) := fun s =>
  let (answer, s) := a.run s
  (.ok answer, s)

def primary (p : Plan) (command : Command) : Query Table :=
  match p.primary? with
  | some t => return t
  | none => throw (.malformed (.noTarget command))

def fetchRows (t : Table) (bound : Option Bound) : Query (List Row) := do
  let rows ← ofStore (Store.fetch t.name bound)
  return rows.map fun (key, v) => Row.ofValue t key v

def fetchTables (bound : Option Bound) : RowSets → List Table → Query RowSets
  | sets, [] => return sets
  | sets, t :: ts =>
    if Dict.contains t.name sets then fetchTables bound sets ts
    else do
      let rows ← fetchRows t bound
      fetchTables bound (Dict.insert t.name rows sets) ts

def applyJoins (primary : Table) : RowSets → List Join → Query RowSets
  | sets, [] => return sets
  | sets, j :: js =>
    match j.other.table with
    | none => applyJoins primary sets js
    | some t => do
      let others ← fetchRows t none
      let rows := (Dict.find? primary.name sets).getD []
      applyJoins primary (Dict.insert primary.name (Rows.join j rows others) sets) js

def matchedRows (rs : Results) (p : Plan) : Query RowSets := do
  let sets ← fetchTables p.bound? [] p.tables
  let pass (rows : List Row) : List Row :=
    if p.conditions.isEmpty then rows else rows.filter (p.conditions.test rs)
  let limit (rows : List Row) : List Row := p.limit.elim rows (·.apply rows)
  return Dict.mapValues (fun rows => limit (pass rows)) sets

/-- Changes written table by table. All are tried, and the refusals are reported together. -/
def writeAll (changes : Dict (Dict Value)) : Query Unit := do
  let answers ← (changes.filter (!·.2.isEmpty)).mapM fun (table, rows) => do
    return (table, ← attempt (Store.write table rows))
  let failures := answers.filterMap fun
    | (table, .error fault) => some (table, fault)
    | _ => none
  if failures.isEmpty then return else throw (.updates failures)

end Query

end DocQuery
