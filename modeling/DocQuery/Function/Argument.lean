import DocQuery.Value.Compare
import DocQuery.Value.Text

namespace DocQuery.Function

abbrev Scalar := List Value → Value

def number? (args : List Value) (i : Nat) : Option Float := args[i]?.bind Value.toFloat?

def int? (args : List Value) (i : Nat) : Option Int :=
  (number? args i).map fun x => clampInt64 (Binary64.truncate x)

def text? (args : List Value) (i : Nat) : Option (List Char) :=
  match args[i]? with
  | none | some .null => none
  | some v => some v.text.toList

def ofChars (cs : List Char) : Value := .string (String.ofList cs)

def result (x : Float) : Value := .number (.ofResult x)

end DocQuery.Function
