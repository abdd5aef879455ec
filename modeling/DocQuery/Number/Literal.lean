namespace DocQuery

structure Literal where
  negative : Bool
  digits : Nat
  exponent : Int

namespace Literal

def digitsValue (ds : List Char) : Nat := ds.foldl (fun n c => 10 * n + (c.toNat - '0'.toNat)) 0

theorem digitsValue_toDigits (n : Nat) : digitsValue (Nat.toDigits 10 n) = n := by
  have h := Nat.ofDigitChars_ten_toDigits (n := n)
  rwa [Nat.ofDigitChars_eq_foldl] at h

theorem digitsValue_padded (zeros n : Nat) :
    digitsValue (List.replicate zeros '0' ++ (Nat.repr n).toList) = n := by
  induction zeros with
  | zero =>
    rw [List.replicate_zero, List.nil_append, Nat.repr, String.toList_ofList]
    exact digitsValue_toDigits n
  | succ zeros ih => exact ih

def sign : List Char → Bool × List Char
  | '-' :: cs => (true, cs)
  | '+' :: cs => (false, cs)
  | cs => (false, cs)

def leadingDigits (cs : List Char) : List Char × List Char := cs.span Char.isDigit

def mantissa (cs : List Char) : List Char × Nat × List Char :=
  let (whole, rest) := leadingDigits cs
  match rest with
  | '.' :: rest =>
    let (fraction, rest) := leadingDigits rest
    (whole ++ fraction, fraction.length, rest)
  | rest => (whole, 0, rest)

def power : List Char → Option (Int × List Char)
  | [] => some (0, [])
  | c :: cs =>
    if c = 'e' ∨ c = 'E' then
      let (negative, rest) := sign cs
      let (ds, rest) := leadingDigits rest
      if ds = [] then none
      else
        let n : Int := digitsValue ds
        some (if negative then -n else n, rest)
    else some (0, c :: cs)

def read? (text : List Char) : Option Literal :=
  let (negative, cs) := sign text
  let (ds, places, rest) := mantissa cs
  if ds = [] then none
  else
    match power rest with
    | some (e, []) => some ⟨negative, digitsValue ds, e - places⟩
    | _ => none

/-- The nearest double; infinite if the literal is beyond the largest one. Bounds on the exponent
keep powers of ten in reach: outside them the value is infinite or zero. -/
def toFloat (l : Literal) : Float :=
  let lead := l.exponent + (Nat.repr l.digits).length
  let magnitude : Float :=
    if l.digits = 0 ∨ lead < -330 then 0.0
    else if lead > 310 then 1.0 / 0.0
    else if l.exponent < 0 then Float.ofScientific l.digits true l.exponent.natAbs
    else Float.ofScientific l.digits false l.exponent.natAbs
  if l.negative then -magnitude else magnitude

end Literal

end DocQuery
