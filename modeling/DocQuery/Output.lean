import DocQuery.Value

namespace DocQuery

inductive Output where
  | known (v : Value)
  | slot (name : String)

abbrev Results := Dict Value

namespace Results

/-- Whether the output was recorded, and the results after it. -/
def record (rs : Results) (name : String) (v : Value) : Bool × Results :=
  if Dict.contains name rs then (false, rs) else (true, Dict.insert name v rs)

end Results

namespace Output

def value? (rs : Results) : Output → Option Value
  | known v => some v
  | slot name => Dict.find? name rs

def isReady (rs : Results) (o : Output) : Bool := (o.value? rs).isSome

def scalars (rs : Results) (o : Output) : List Value :=
  match o.value? rs with
  | some v => v.scalars
  | none => []

def rowsOf (table : String) (v : Value) : List (String × Dict Value) :=
  match v with
  | .array items => items.filterMap fun
    | .object fields => some (table, fields)
    | _ => none
  | _ => []

def rows (rs : Results) (o : Output) : List (String × Dict Value) :=
  match o.value? rs with
  | some (.object tables) => tables.flatMap fun (table, v) => rowsOf table v
  | _ => []

def countItems : Value → Nat
  | .array items => items.length
  | _ => 1

def countRows : Value → Nat
  | .object tables => tables.foldl (fun n t => n + countItems t.2) 0
  | .array items => items.length
  | .null => 0
  | _ => 1

def rowCount? (rs : Results) (o : Output) : Option Nat := (o.value? rs).map countRows

end Output

end DocQuery
