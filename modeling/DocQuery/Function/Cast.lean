import DocQuery.Function.Argument
import DocQuery.Calendar.Moment

namespace DocQuery.Function.Cast

open Calendar

def ofValue (f : Value → Value) : Scalar := fun args =>
  match args.head? with
  | none | some .null => .null
  | some v => f v

def millis? : Value → Option Int
  | .number n => some (clampInt64 n.truncate)
  | .string s => Calendar.millis? s
  | _ => none

def moment (pattern : List Item) (v : Value) : Value :=
  match (millis? v).bind Moment.ofMillis? with
  | some m => .string (m.write pattern)
  | none => .null

def timeOfDay (v : Value) : Value :=
  match v.string?.bind time? with
  | some m => .string (m.write timePattern)
  | none => moment timePattern v

def leadingInt (s : String) : Int :=
  let (negative, cs) := Literal.sign (Text.trimLeft s.toList)
  let n : Int := Literal.digitsValue (Literal.leadingDigits cs).1
  let n := if negative then -n else n
  if isInt64 n then n else 0

def integer (v : Value) : Int :=
  match v.toFloat? with
  | some x => clampInt64 (Binary64.truncate x)
  | none =>
    match v with
    | .bool true => 1
    | .string s => leadingInt s
    | _ => 0

def table : List (String × Scalar) :=
  let text := ofValue fun v => .string v.text
  [("BINARY", text),
    ("CAST_AS_BINARY", text),
    ("CAST_AS_CHAR", text),
    ("CAST_AS_DATE", ofValue (moment datePattern)),
    ("CAST_AS_DATETIME", ofValue (moment (datePattern ++ .space :: timePattern))),
    ("CAST_AS_TIME", ofValue timeOfDay),
    ("CAST_AS_SIGNED", ofValue fun v => .int (integer v)),
    ("CAST_AS_UNSIGNED", ofValue fun v => .int (integer v % wordSize))]

end DocQuery.Function.Cast
