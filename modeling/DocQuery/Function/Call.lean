import DocQuery.Function.Aggregate
import DocQuery.Function.Cast
import DocQuery.Function.Math
import DocQuery.Function.Text
import DocQuery.Rows.Sorting
import DocQuery.Source

namespace DocQuery

inductive Param where
  | column (c : Column)
  | value (v : Value)

structure Call where
  function : String
  target : String
  params : List Param

namespace Function

def scalars (drawn : Option Int → Float) : List (String × Scalar) := Text.table ++ Math.table drawn ++ Cast.table

def scalar? (name : String) (drawn : Option Int → Float := fun _ => 0) : Option Scalar :=
  (scalars drawn).lookup (DocQuery.Text.upper name)

def aggregate? (name : String) : Option Aggregate := Aggregate.ofName? (DocQuery.Text.upper name)

def isKnown (name : String) : Bool := (aggregate? name).isSome || (scalar? name).isSome

end Function

namespace Param

def eval (r : Row) : Param → Value
  | column c => if c.isAll then .null else r.read c
  | value v => v

def column? : Param → Option Column
  | column c => some c
  | value _ => none

end Param

namespace Call

def columns (c : Call) : List Column := c.params.filterMap Param.column?

def aggregate? (c : Call) : Option Aggregate := Function.aggregate? c.function

variable [Source]

def scalar? (c : Call) (r : Row) : Option Function.Scalar :=
  if c.aggregate?.isSome then none else Function.scalar? c.function (Source.drawn c.target r.key)

/-- Without a parameter, or over `*`, all rows count. -/
def ofAllRows (c : Call) : Bool :=
  match c.params with
  | [] => true
  | .column c :: _ => c.isAll
  | .value _ :: _ => false

def inputs (c : Call) (rows : List Row) : List Value :=
  match c.params with
  | [] => rows.map fun _ => .null
  | p :: _ => rows.map p.eval

def aggregate (rows : List Row) (base : Row) (c : Call) : Row :=
  match c.aggregate? with
  | some a => base.addField c.target (a.apply c.ofAllRows (c.inputs rows))
  | none => base

def scalar (c : Call) (r : Row) : Row :=
  match c.scalar? r with
  | some f => r.addField c.target (f (c.params.map (·.eval r)))
  | none => r

/-- All calls applied to a list of rows. Aggregates make it one row, the first one or an empty one
of `table`; the other functions run after them, row by row. -/
def applyAll (table : Table) (calls : List Call) (rows : List Row) : List Row :=
  let rows :=
    if calls.any (·.aggregate?.isSome) then
      [calls.foldl (aggregate rows) (rows.head?.getD (Row.ofValue table "" .null))]
    else rows
  calls.foldl (fun rows c => rows.map c.scalar) rows

end Call

end DocQuery
