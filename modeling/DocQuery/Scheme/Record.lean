import DocQuery.Value

/-! Records in values: objects with named fields, or lists of the fields in order. Read are values
as they are written, so that a field given twice can be refused. -/

namespace DocQuery.Record

def fields? (names : List String) : Value → Option (List (Option Value))
  | .object fields => names.mapM fun n =>
    match fields.filter (·.1 == n) with
    | [] => some none
    | [(_, v)] => some (some v)
    | _ => none
  | .array items =>
    if items.length ≤ names.length then
      some (items.map some ++ List.replicate (names.length - items.length) none)
    else none
  | _ => none

def required {α : Type} (read : Value → Option α) (field : Option Value) : Option α := field.bind read

def defaulted {α : Type} (read : Value → Option α) (default : α) : Option Value → Option α
  | none => some default
  | some v => read v

def optional {α : Type} (read : Value → Option α) : Option Value → Option (Option α)
  | none | some .null => some none
  | some v => (read v).map some

def bool? : Value → Option Bool
  | .bool b => some b
  | _ => none

def int? : Value → Option Int
  | .number (.int n) => some n
  | _ => none

def nat? (v : Value) : Option Nat := do
  let n ← int? v
  if 0 ≤ n then some n.toNat else none

def int64? (v : Value) : Option Int := do
  let n ← int? v
  if isInt64 n then some n else none

def list? {α : Type} (read : Value → Option α) : Value → Option (List α)
  | .array items => items.mapM read
  | _ => none

/-- A name from a list, by its place. Inside of other records it may be given as a number. -/
def name? (names : List String) (inner : Bool) : Value → Option Nat
  | .string s => names.idxOf? s
  | v => if inner then (nat? v).filter (· < names.length) else none

/-- A record with the name of its kind: the field `kind`, or the head of a list. -/
def tagged? (kinds : List String) (inner : Bool) : Value → Option (Nat × Value)
  | .object fields =>
    match fields.filter (·.1 == "kind") with
    | [(_, v)] => (name? kinds inner v).map fun k => (k, .object (fields.filter (·.1 != "kind")))
    | _ => none
  | .array (v :: rest) => (name? kinds inner v).map fun k => (k, .array rest)
  | _ => none

def word? (inner : Bool) : Value → Option String
  | .string s => some s
  | .object [(s, .null)] => some s
  | .object [(s, .object [])] => if inner then some s else none
  | _ => none

mutual

def depth : Value → Nat
  | .array items => depthOfItems items + 1
  | .object fields => depthOfFields fields + 1
  | _ => 0

def depthOfItems : List Value → Nat
  | [] => 0
  | v :: vs => max (depth v) (depthOfItems vs)

def depthOfFields : List (String × Value) → Nat
  | [] => 0
  | (_, v) :: fs => max (depth v) (depthOfFields fs)

end

end DocQuery.Record
