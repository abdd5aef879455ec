import DocQuery.Column
import DocQuery.Value

namespace DocQuery

/-- `fields` lists the names seen on the row, and `joined` the tables joined into it. -/
structure Row where
  table : Table
  key : String
  content : Dict Value
  fields : List String
  joined : List String

namespace Row

def ofValue (table : Table) (key : String) (v : Value) : Row :=
  let content : Dict Value := match v with
    | .object fields => fields
    | .null => []
    | v => [("value", v)]
  ⟨table, key, content, Dict.keys content, []⟩

def nulled (r : Row) : Row :=
  { r with content := Dict.ofList (r.fields.map fun f => (f, .null)), joined := [] }

def covers (r : Row) (table : String) : Bool := r.table.name == table || r.joined.contains table

def coversColumn (r : Row) (c : Column) : Bool := c.tableName?.all r.covers

def field (r : Row) (name : String) : Value := (Dict.find? name r.content).getD .null

/-- The value of a column. A column of another table is read from its qualified field if there is
one; what is missing is null. -/
def read (r : Row) (c : Column) : Value :=
  if c.isKey then .string r.key
  else
    let table := c.tableName?.getD r.table.name
    if table = r.table.name then r.field c.name
    else
      match Dict.find? (table ++ "." ++ c.name) r.content with
      | some v => v
      | none => r.field c.name

def toValue (r : Row) : Value := .object r.content

def addField (r : Row) (name : String) (v : Value) : Row :=
  { r with
    content := Dict.insert name v r.content
    fields := if r.fields.contains name then r.fields else r.fields ++ [name] }

/-- The row with the columns asked for. No columns, or `*`, stand for all fields; columns of tables
the row does not cover are left out. -/
def project (r : Row) (columns : List Column) : Row :=
  if columns = [] then r
  else
    let add (content : Dict Value) (c : Column) : Dict Value :=
      if !r.coversColumn c then content
      else if c.isAll then Dict.merge content r.content
      else Dict.insert c.label (r.read c) content
    let content := columns.foldl add []
    { r with content := content, fields := Dict.keys content }

end Row

end DocQuery
