import DocQuery.Rows.Distinct
import DocQuery.Rows.Sorting
import DocQuery.Run.Fetch

namespace DocQuery.Select

def project (rs : Results) (p : Plan) (rows : List Row) : List Row :=
  (rows.filter (p.conditions.test rs)).map (·.project p.columns)

/-- The rows of the primary table with those of all unions. One distinct union makes all of them
distinct. -/
def addUnions (rs : Results) (p : Plan) (primary : Table) (sets : RowSets) : RowSets :=
  if p.unions.isEmpty then sets
  else
    let rows := (Dict.find? primary.name sets).getD []
    let rows := p.unions.foldl (fun rows u => Rows.union rs primary rows u.output) rows
    let rows := if p.unions.any (·.distinct) && !p.distinct then Rows.distinct rows else rows
    Dict.insert primary.name rows sets

def dropRepetitions (p : Plan) (sets : RowSets) : RowSets :=
  if p.distinct then Dict.mapValues Rows.distinct sets else sets

variable [Source]

def applyCalls (p : Plan) (name : String) (rows : List Row) : List Row :=
  if p.calls.isEmpty then rows
  else
    let table := (rows.head?.map (·.table)).getD (.named name)
    (Rows.partition p.groupBy rows).flatMap (Call.applyAll table p.calls)

def onlyCalls (p : Plan) : Bool := !p.calls.isEmpty && p.columns.all (·.temporary)

def targets (p : Plan) : List String := p.calls.map (·.target)

def helpers (p : Plan) : List String :=
  let shown := (p.columns.filter (!·.temporary)).map Column.label
  ((p.columns.filter (·.temporary)).map Column.label).filter fun name =>
    !shown.contains name && !(targets p).contains name

def withContent (r : Row) (content : Dict Value) : Row :=
  { r with content := content, fields := Dict.keys content }

def dropHelpers (p : Plan) (r : Row) : Row :=
  if onlyCalls p then withContent r (r.content.filter fun f => (targets p).contains f.1)
  else if (helpers p).isEmpty then r
  else withContent r ((helpers p).foldl (fun content name => Dict.erase name content) r.content)

def arrange (rs : Results) (p : Plan) (rows : List Row) : List Row :=
  let rows := if p.having.isEmpty then rows else rows.filter (p.having.test rs)
  let rows := Rows.order p.orderBy (Rows.group p.groupBy rows)
  p.limit.elim rows (·.apply rows)

def finish (rs : Results) (p : Plan) (name : String) (rows : List Row) : Value :=
  .array ((arrange rs p ((applyCalls p name rows).map (dropHelpers p))).map Row.toValue)

def output (rs : Results) (p : Plan) (primary : Table) (sets : RowSets) : Value :=
  let sets := Dict.mapValues (project rs p) sets
  let sets := dropRepetitions p (addUnions rs p primary sets)
  .object (sets.map fun (name, rows) => (name, finish rs p name rows))

def run (rs : Results) (p : Plan) : Query Value := do
  let primary ← Query.primary p .select
  let sets ← Query.fetchTables p.bound? [] p.tables
  let sets ← Query.applyJoins primary sets p.joins
  return output rs p primary sets

end DocQuery.Select
