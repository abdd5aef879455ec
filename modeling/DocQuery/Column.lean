import DocQuery.Keyword
import DocQuery.Text.Blank
import DocQuery.Text.Case

namespace DocQuery

structure Table where
  name : String
  newName : Option String
  deriving DecidableEq

structure Column where
  table : Option Table
  name : String
  newName : Option String
  temporary : Bool
  deriving DecidableEq

namespace Table

def named (name : String) : Table := ⟨name, none⟩

def splitAtAs : List (List Char) → List (List Char) → Option (List (List Char) × List (List Char))
  | _, [] => none
  | _, [_] => none
  | [], w :: ws => splitAtAs [w] ws
  | p :: ps, w :: ws => if w = ['A', 'S'] then some ((p :: ps).reverse, ws) else splitAtAs (w :: p :: ps) ws

def joinWords (ws : List (List Char)) : String := " ".intercalate (ws.map String.ofList)

def read (s : String) : Table :=
  let ws := Text.words s.toList
  match splitAtAs [] ws with
  | some (name, newName) => ⟨joinWords name, some (joinWords newName)⟩
  | none => named (joinWords ws)

end Table

namespace Column

def keyName : String := "_key"

def allName : String := "*"

def named (name : String) : Column := ⟨none, name, none, false⟩

def ofTable (table : Table) (name : String) : Column := ⟨some table, name, none, false⟩

def rowKey : Column := named keyName

def read (s : String) : Column :=
  let cs := Text.trim s.toList
  match cs.span (· ≠ '.') with
  | (table, _ :: name) =>
    if table ≠ [] ∧ name ≠ [] then ofTable (.named (String.ofList table)) (String.ofList name)
    else named (String.ofList cs)
  | (_, []) => named (String.ofList cs)

def isKey (c : Column) : Bool := c.name == keyName

def isAll (c : Column) : Bool := c.name == allName

def label (c : Column) : String := c.newName.getD c.name

def tableName? (c : Column) : Option String := c.table.map (·.name)

def inTable (c : Column) (table : Option Table) : Column :=
  match c.table with
  | some _ => c
  | none => { c with table := table }

end Column

structure SortKey where
  column : Column
  direction : Direction
  deriving DecidableEq

def Direction.read (s : Option String) : Direction :=
  match s with
  | some s => if Text.upper s = "DESC" then .descending else .ascending
  | none => .ascending

structure Join where
  kind : JoinKind
  own : Column
  other : Column
  deriving DecidableEq

end DocQuery
