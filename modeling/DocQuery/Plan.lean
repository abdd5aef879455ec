import DocQuery.Condition
import DocQuery.Function.Call
import DocQuery.Limit

namespace DocQuery

structure Union where
  output : Output
  distinct : Bool

structure Plan where
  command : Option Command
  columns : List Column
  data : List Value
  assignments : Option (Dict Value)
  distinct : Bool
  tables : List Table
  joins : List Join
  limit : Option Limit
  orderBy : List SortKey
  groupBy : List SortKey
  calls : List Call
  unions : List Union
  conditions : Conditions
  having : Conditions

namespace Plan

def empty : Plan :=
  { command := none, columns := [], data := [], assignments := none, distinct := false, tables := [],
    joins := [], limit := none, orderBy := [], groupBy := [], calls := [], unions := [],
    conditions := .empty, having := .empty }

def primary? (p : Plan) : Option Table := p.tables.head?

def reshapes (p : Plan) : Bool :=
  !p.conditions.isEmpty || !p.having.isEmpty || !p.joins.isEmpty || !p.unions.isEmpty ||
    !p.calls.isEmpty || !p.groupBy.isEmpty || !p.orderBy.isEmpty || p.distinct

def bound? (p : Plan) : Option Bound := if p.reshapes then none else p.limit.map Limit.bound

def resolve (p : Plan) : Plan :=
  let param : Param → Param
    | .column c => .column (c.inTable p.primary?)
    | .value v => .value v
  { p with
    columns := p.columns.map (·.inTable p.primary?)
    calls := p.calls.map fun c => { c with params := c.params.map param } }

end Plan

end DocQuery
