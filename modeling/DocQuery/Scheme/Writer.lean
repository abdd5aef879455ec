import DocQuery.Scheme

namespace DocQuery

def optionalField (name : String) (s : Option String) : List (String × Value) :=
  match s with
  | some s => [(name, .string s)]
  | none => []

def Table.fields (t : Table) : List (String × Value) :=
  ("name", .string t.name) :: optionalField "alias" t.newName

def Table.toValue (t : Table) : Value := .object t.fields

def Column.fields (c : Column) : List (String × Value) :=
  (match c.table with
    | some t => [("table", t.toValue)]
    | none => []) ++
    ("name", .string c.name) :: optionalField "alias" c.newName ++ [("temporary", .bool c.temporary)]

def Column.toValue (c : Column) : Value := .object c.fields

def Limit.toValue (l : Limit) : Value :=
  .object (("offset_or_count", .int l.start) ::
    match l.count with
    | some n => [("count", .int n)]
    | none => [])

def ofKind (kind : String) (fields : List (String × Value)) : Value :=
  .object (("kind", .string kind) :: fields)

def Param.toValue : Param → Value
  | column c => ofKind "property" c.fields
  | value v => ofKind "value" [("value", v)]

def Call.fields (c : Call) : List (String × Value) :=
  [("function", .string c.function), ("alias", .string c.target),
    ("params", .array (c.params.map Param.toValue))]

def Call.toValue (c : Call) : Value := .object c.fields

def Connective.written : Connective → String
  | and => "AND"
  | or => "OR"

namespace Arg

mutual

def toValue : Arg → Value
  | value v => ofKind "value" [("value", v)]
  | table t => ofKind "table" t.fields
  | column c => ofKind "property" c.fields
  | scope connective items =>
    ofKind "scope" [("operator", .string connective.written), ("properties", .array (toValues items))]
  | function c => ofKind "function" c.fields
  | reference query => ofKind "reference" [("query", .ofNat query)]
  | output _ => .null

def toValues : List Arg → List Value
  | [] => []
  | a :: as => toValue a :: toValues as

end

end Arg

def Operation.toValue (o : Operation) : Value :=
  .object [("syntax", .string o.keyword.written), ("args", .array (Arg.toValues o.args))]

def Scheme.toValue (s : Scheme) : Value := .array (s.map Operation.toValue)

end DocQuery
