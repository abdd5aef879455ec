import DocQuery.Run.Fetch

namespace DocQuery

namespace Insert

def splitKey : Value → Value × Option String
  | .object fields =>
    let key := match Dict.find? Column.keyName fields with
      | some (.string s) => some s
      | some (.number n) => some n.text
      | _ => none
    (.object (Dict.erase Column.keyName fields), key)
  | v => (v, none)

def insertAll [Source] (p : Plan) : Query (List (String × Except StoreFault String)) :=
  (p.tables.flatMap fun t => p.data.map fun v => (t.name, v)).mapM fun (table, v) => do
    let (content, key) := splitKey v
    return (table, ← Query.attempt (Store.insert table content key))

def failures (answers : List (String × Except StoreFault String)) : Dict StoreFault :=
  answers.foldl (fun fs a =>
    match a.2 with
    | .error fault => if Dict.contains a.1 fs then fs else Dict.insert a.1 fault fs
    | .ok _ => fs) []

def keys (answers : List (String × Except StoreFault String)) : List String :=
  answers.filterMap fun a => a.2.toOption

def run [Source] (p : Plan) : Query Value := do
  let _ ← Query.primary p .insert
  let answers ← insertAll p
  match failures answers with
  | [] => return .array ((keys answers).map .string)
  | fs => throw (.inserts fs)

end Insert

namespace Update

def assign (content : Dict Value) (field : String × Value) : Dict Value :=
  match field.2 with
  | .null => Dict.erase field.1 content
  | v => Dict.insert field.1 v content

def changes (assignments : Dict Value) (rows : List Row) : Dict Value :=
  Dict.ofList (rows.map fun r => (r.key, .object (assignments.foldl assign r.content)))

def run (rs : Results) (p : Plan) : Query Value := do
  let _ ← Query.primary p .update
  match p.assignments with
  | none => throw (.malformed .noSet)
  | some assignments =>
    let sets ← Query.matchedRows rs p
    Query.writeAll (Dict.mapValues (changes assignments) sets)
    return .bool true

end Update

namespace Delete

def wholeRows (p : Plan) : Bool := p.columns.isEmpty || p.columns.any Column.isAll

def columnsOf (p : Plan) (table : String) : List Column :=
  p.columns.filter fun c => c.tableName?.all (· == table)

def changes (p : Plan) (table : String) (rows : List Row) : Dict Value :=
  if wholeRows p then Dict.ofList (rows.map fun r => (r.key, .null))
  else
    match columnsOf p table with
    | [] => []
    | columns => Dict.ofList (rows.map fun r =>
        (r.key, .object (columns.foldl (fun content c => Dict.erase c.name content) r.content)))

def run (rs : Results) (p : Plan) : Query Value := do
  let _ ← Query.primary p .delete
  let sets ← Query.matchedRows rs p
  Query.writeAll (sets.map fun (table, rows) => (table, changes p table rows))
  return .bool true

end Delete

end DocQuery
