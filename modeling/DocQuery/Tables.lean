import DocQuery.Error
import DocQuery.Limit

namespace DocQuery

abbrev Tables := Dict (Dict Value)

namespace Tables

def empty : Tables := []

def rowsOf? (name : String) : Value → Except StoreFault (Dict Value)
  | .object rows => .ok rows
  | .null => .ok []
  | _ => .error (.noRows name)

def ofValue? : Value → Except StoreFault Tables
  | .object tables => tables.mapM fun (name, v) => (rowsOf? name v).map fun rows => (name, rows)
  | .null => .ok []
  | v => .error (.noTables v)

def toValue (ts : Tables) : Value := .object (Dict.mapValues Value.object ts)

def rows (ts : Tables) (name : String) : Dict Value := (Dict.find? name ts).getD []

def get? (ts : Tables) (name key : String) : Option Value := Dict.find? key (ts.rows name)

def fetch (ts : Tables) (name : String) (bound : Option Bound) : Dict Value :=
  match bound with
  | some b => b.apply (ts.rows name)
  | none => ts.rows name

def change (rows : Dict Value) (key : String) : Value → Dict Value
  | .null => Dict.erase key rows
  | v => Dict.insert key v rows

/-- Changes to the rows of a table. A table without rows ceases to exist. -/
def write (ts : Tables) (name : String) (changes : Dict Value) : Tables :=
  match changes.foldl (fun rows c => change rows c.1 c.2) (ts.rows name) with
  | [] => Dict.erase name ts
  | rows => Dict.insert name rows ts

def insert (ts : Tables) (name key : String) (content : Value) : Tables :=
  Dict.insert name (Dict.insert key content (ts.rows name)) ts

end Tables

end DocQuery
