import DocQuery.Function.Call
import DocQuery.Limit
import DocQuery.Output

namespace DocQuery

/-- An argument of an operation. A reference is to the output of an earlier query by its number;
an output stands for it once it is known. -/
inductive Arg where
  | value (v : Value)
  | table (t : Table)
  | column (c : Column)
  | scope (connective : Connective) (items : List Arg)
  | function (c : Call)
  | reference (query : Nat)
  | output (o : Output)

namespace Arg

instance : Inhabited Arg := ⟨value .null⟩

def text? : Arg → Option String
  | value v => v.string?
  | _ => none

end Arg

structure Operation where
  keyword : Keyword
  args : List Arg

abbrev Scheme := List Operation

end DocQuery
