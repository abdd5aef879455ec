import DocQuery.Function.Argument
import DocQuery.Number.Fixed

namespace DocQuery.Function.Math

open Binary64 (power remainder trunc)

def unary (f : Float → Float) : Scalar := fun args =>
  match number? args 0 with
  | some x => result (f x)
  | none => .int 0

def binary (f : Float → Float → Float) : Scalar := fun args =>
  match number? args 0, number? args 1 with
  | some x, some y => result (f x y)
  | _, _ => .int 0

def pi : Float := 3.141592653589793

def sign (x : Float) : Float := if x > 0 then 1 else if x < 0 then -1 else 0

def quotient (x y : Float) : Float := if y == 0 then 0 else trunc (x / y)

def modulo (x y : Float) : Float := if y == 0 then 0 else remainder x y

def places (args : List Value) : Int := max (-30) (min 30 ((int? args 1).getD 0))

def inUnits (f : Float → Float) : Scalar := fun args =>
  let unit := power 10 (places args)
  unary (fun x => f (x * unit) / unit) args

def format : Scalar := fun args =>
  match number? args 0 with
  | some x => .string (Fixed.text x (places args).toNat)
  | none => .null

def bits : Scalar := fun args =>
  match number? args 0 with
  | some x =>
    let word := (clampInt64 (Binary64.truncate x) % wordSize).toNat
    ofChars (Nat.toDigits 2 word)
  | none => .null

def best {α : Type} (wanted : Ordering) (order : α → α → Ordering) : List α → Option α
  | [] => none
  | v :: vs => some (vs.foldl (fun b w => if order w b = wanted then w else b) v)

def extreme (wanted : Ordering) : Scalar := fun args =>
  if args.any Value.isNull then .null
  else
    match args.mapM Value.toFloat? with
    | some xs =>
      let order x y := compare (Binary64.ordinal x) (Binary64.ordinal y)
      (best wanted order xs).elim .null result
    | none => (best wanted Value.order args).getD .null

def firstPresent : Scalar := fun args => (args.find? (!·.isNull)).getD .null

def byCount (one two : Scalar) : Scalar := fun args => if args.length > 1 then two args else one args

def table (drawn : Option Int → Float) : List (String × Scalar) :=
  [("ABS", unary Float.abs),
    ("ACOS", unary Float.acos),
    ("ASIN", unary Float.asin),
    ("ATAN", byCount (unary Float.atan) (binary Float.atan2)),
    ("ATAN2", binary Float.atan2),
    ("CEIL", unary Float.ceil),
    ("CEILING", unary Float.ceil),
    ("COS", unary Float.cos),
    ("COT", unary fun x => 1.0 / x.tan),
    ("DEGREES", unary fun x => x * (180.0 / pi)),
    ("EXP", unary Float.exp),
    ("FLOOR", unary Float.floor),
    ("LN", unary Float.log),
    ("LOG", byCount (unary Float.log) (binary fun base x => x.log / base.log)),
    ("LOG10", unary Float.log10),
    ("LOG2", unary Float.log2),
    ("RADIANS", unary fun x => x * (pi / 180.0)),
    ("SIGN", unary sign),
    ("SIN", unary Float.sin),
    ("SQRT", unary Float.sqrt),
    ("TAN", unary Float.tan),
    ("PI", fun _ => result pi),
    ("POW", binary Float.pow),
    ("POWER", binary Float.pow),
    ("DIV", binary quotient),
    ("MOD", binary modulo),
    ("ROUND", inUnits Float.round),
    ("TRUNCATE", inUnits trunc),
    ("FORMAT", format),
    ("RAND", fun args => result (drawn (int? args 0))),
    ("LEAST", extreme .lt),
    ("GREATEST", extreme .gt),
    ("COALESCE", firstPresent),
    ("BIN", bits)]

end DocQuery.Function.Math
