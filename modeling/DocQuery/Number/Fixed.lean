import DocQuery.Number.Binary64

namespace DocQuery.Fixed

open Binary64

def roundDiv (n d : Nat) : Nat :=
  let q := n / d
  let r := n % d
  if 2 * r < d ∨ (2 * r = d ∧ q % 2 = 0) then q else q + 1

def units (p : Parts) (places : Nat) : Nat :=
  let n := p.mantissa * Nat.pow 10 places
  if p.exponent < 0 then roundDiv n (Nat.pow 2 p.exponent.natAbs) else n * Nat.pow 2 p.exponent.natAbs

def grouped (digits : List Char) : List Char :=
  match digits with
  | [] => []
  | c :: rest => c :: if rest ≠ [] ∧ rest.length % 3 = 0 then ',' :: grouped rest else grouped rest

def text (x : Float) (places : Nat) : String :=
  let p := parts x
  let n := units p places
  let whole := Nat.repr (n / Nat.pow 10 places)
  let sign := if p.negative ∧ n ≠ 0 then "-" else ""
  let fraction := (Nat.repr (n % Nat.pow 10 places)).toList
  let fraction := List.replicate (places - fraction.length) '0' ++ fraction
  sign ++ String.ofList (grouped whole.toList ++ if places = 0 then [] else '.' :: fraction)

end DocQuery.Fixed
