import DocQuery.Error
import DocQuery.Output
import DocQuery.Pattern
import DocQuery.Row
import DocQuery.Value.Compare
import DocQuery.Value.Text

namespace DocQuery

/-- Whether a condition holds of a row; `none` if it does not apply to the row. -/
abbrev Verdict := Option Bool

inductive Operand where
  | value (v : Value)
  | output (o : Output)
  | scope (connective : Connective) (items : List Operand)

namespace Operand

mutual

def values (rs : Results) (spread : Bool) : Operand → List Value
  | value v =>
    match v, spread with
    | .array items, true => items
    | v, _ => [v]
  | output o => o.scalars rs
  | scope _ items => valuesOfAll rs spread items

def valuesOfAll (rs : Results) (spread : Bool) : List Operand → List Value
  | [] => []
  | o :: os => values rs spread o ++ valuesOfAll rs spread os

end

def output? : Operand → Option Output
  | output o => some o
  | _ => none

end Operand

inductive Test where
  | equal (column : Column) (operands : List Operand)
  | greater (column : Column) (operands : List Operand)
  | less (column : Column) (operands : List Operand)
  | between (column : Column) (operands : List Operand)
  | member (column : Column) (operands : List Operand)
  | like (column : Column) (patterns : List Pattern) (others : List Value)
  | null (column : Column)
  | nonempty (outputs : List Output)

namespace Test

/-- The test of a comparison word; the results count for the patterns of `LIKE` alone. -/
def ofKeyword? (rs : Results) (keyword : Keyword) (column : Column) (operands : List Operand) :
    Option Test :=
  match keyword with
  | .eq => some (equal column operands)
  | .gt => some (greater column operands)
  | .lt => some (less column operands)
  | .between => some (between column operands)
  | .isIn => some (member column operands)
  | .like =>
    let vs := Operand.valuesOfAll rs false operands
    some (like column (vs.filterMap fun v => v.string?.bind Pattern.read?)
      (vs.filter fun v => v.string?.isNone))
  | .isNull => some (null column)
  | .existsRows => some (nonempty (operands.filterMap Operand.output?))
  | _ => none

/-- A condition on the value of a column applies to the rows that cover its table. -/
def onColumn (row : Row) (column : Column) (p : Value → Bool) : Verdict :=
  if row.coversColumn column then some (p (row.read column)) else none

def isBetween (v : Value) : List Value → Bool
  | [low, high] => (low.partialCompare v).any Ordering.isLE && (v.partialCompare high).any Ordering.isLE
  | _ => false

def isLike (patterns : List Pattern) (others : List Value) (v : Value) : Bool :=
  (!v.isNull && patterns.any (·.accepts v.text)) || others.any v.equals

def eval (rs : Results) (row : Row) : Test → Verdict
  | equal c os => onColumn row c fun v => (Operand.valuesOfAll rs false os).any v.equals
  | greater c os => onColumn row c fun v =>
    (Operand.valuesOfAll rs false os).any fun w => v.partialCompare w == some .gt
  | less c os => onColumn row c fun v =>
    (Operand.valuesOfAll rs false os).any fun w => v.partialCompare w == some .lt
  | between c os => onColumn row c fun v => isBetween v (Operand.valuesOfAll rs false os)
  | member c os => onColumn row c fun v => (Operand.valuesOfAll rs true os).any v.equals
  | like c patterns others => onColumn row c (isLike patterns others)
  | null c => onColumn row c Value.isNull
  | nonempty outputs =>
    match outputs.filterMap (Output.rowCount? rs) with
    | [] => none
    | counts => some (counts.any (0 < ·))

end Test

end DocQuery
