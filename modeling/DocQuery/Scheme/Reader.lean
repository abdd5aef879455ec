import DocQuery.Scheme
import DocQuery.Scheme.Record

namespace DocQuery

open Record

def Table.ofValue? (v : Value) : Option Table :=
  match fields? ["name", "alias"] v with
  | some [name, newName] => do
    return ⟨← required Value.string? name, ← optional Value.string? newName⟩
  | _ => none

def Column.ofValue? (v : Value) : Option Column :=
  match fields? ["table", "name", "alias", "temporary"] v with
  | some [table, name, newName, temporary] => do
    return ⟨← optional Table.ofValue? table, ← required Value.string? name,
      ← optional Value.string? newName, ← defaulted bool? false temporary⟩
  | _ => none

def Limit.ofValue? (v : Value) : Option Limit :=
  match fields? ["offset_or_count", "count"] v with
  | some [start, count] => do
    return ⟨← required int64? start, ← optional int64? count⟩
  | _ => none

def payload? (v : Value) : Option Value :=
  match fields? ["value"] v with
  | some [v] => v.map Value.canonical
  | _ => none

def Param.kinds : List String := ["property", "value"]

def Param.ofValue? (v : Value) : Option Param :=
  match tagged? Param.kinds true v with
  | some (0, v) => (Column.ofValue? v).map Param.column
  | some (_, v) => (payload? v).map Param.value
  | none => none

def Call.ofValue? (v : Value) : Option Call :=
  match fields? ["function", "alias", "params"] v with
  | some [function, target, params] => do
    return ⟨← required Value.string? function, ← required Value.string? target,
      ← defaulted (list? Param.ofValue?) [] params⟩
  | _ => none

def Connective.ofValue? (v : Value) : Option Connective := do
  match ← word? true v with
  | "AND" => some .and
  | "OR" => some .or
  | _ => none

namespace Arg

def kinds : List String := ["value", "table", "property", "scope", "function", "reference"]

def ofValueAt? : (fuel : Nat) → (inner : Bool) → Value → Option Arg
  | 0, _, _ => none
  | fuel + 1, inner, v =>
    match tagged? kinds inner v with
    | some (0, v) => (payload? v).map value
    | some (1, v) => (Table.ofValue? v).map table
    | some (2, v) => (Column.ofValue? v).map column
    | some (3, v) =>
      match fields? ["operator", "properties"] v with
      | some [operator, items] => do
        return scope (← required Connective.ofValue? operator)
          (← defaulted (list? (ofValueAt? fuel true)) [] items)
      | _ => none
    | some (4, v) => (Call.ofValue? v).map function
    | some (_, v) =>
      match fields? ["query"] v with
      | some [query] => (required nat? query).map reference
      | _ => none
    | none => none

def ofValue? (v : Value) : Option Arg := ofValueAt? (depth v + 1) false v

end Arg

def Keyword.ofValue? (v : Value) : Option Keyword := (word? false v).bind Keyword.ofWritten?

def Operation.fieldNames : List String := ["syntax", "args"]

def Operation.ofValueWith? (arg? : Value → Option Arg) (v : Value) : Option Operation :=
  match fields? fieldNames v with
  | some [keyword, args] => do
    return ⟨← required Keyword.ofValue? keyword, ← defaulted (list? arg?) [] args⟩
  | _ => none

def Scheme.ofValue? (v : Value) : Option Scheme := list? (Operation.ofValueWith? Arg.ofValue?) v

end DocQuery
