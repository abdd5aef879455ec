import DocQuery.Value.Compare

namespace DocQuery

inductive Aggregate where
  | min
  | max
  | sum
  | avg
  | count
  deriving DecidableEq

namespace Aggregate

def ofName? : String → Option Aggregate
  | "MIN" => some min
  | "MAX" => some max
  | "SUM" => some sum
  | "AVG" => some avg
  | "COUNT" => some count
  | _ => none

def total (column : List Value) : Float := (column.filterMap Value.toFloat?).foldl (· + ·) 0

def extreme (wanted : Ordering) (column : List Value) : Value :=
  let better (best : Option Value) (v : Value) : Option Value :=
    match best with
    | some b => if v.order b = wanted then some v else some b
    | none => some v
  ((column.filter (!·.isNull)).foldl better none).getD .null

def mean (column : List Value) : Value :=
  let n := (column.filterMap Value.toFloat?).length
  if n = 0 then .int 0 else .number (.ofResult (total column / Float.ofNat n))

def apply (allRows : Bool) (column : List Value) : Aggregate → Value
  | min => extreme .lt column
  | max => extreme .gt column
  | sum => .number (.ofResult (total column))
  | avg => mean column
  | count => .ofNat (if allRows then column.length else (column.filter (!·.isNull)).length)

end Aggregate

end DocQuery
