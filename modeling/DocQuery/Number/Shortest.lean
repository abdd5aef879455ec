import DocQuery.Number.Binary64

namespace DocQuery.Shortest

open Binary64

structure Decimal where
  digits : Nat
  exponent : Int

/-- The reals that round to a double `value`, and `value` itself, over one common denominator:
`low` and `high` are the midpoints to the neighbouring doubles. -/
structure Interval where
  low : Nat
  value : Nat
  high : Nat
  closed : Bool

def quarters (p : Parts) : Interval :=
  let gap := if p.mantissa = Nat.pow 2 52 ∧ p.exponent > -1074 then 1 else 2
  ⟨4 * p.mantissa - gap, 4 * p.mantissa, 4 * p.mantissa + 2, p.mantissa % 2 == 0⟩

def Interval.scale (i : Interval) (k : Nat) : Interval := ⟨i.low * k, i.value * k, i.high * k, i.closed⟩

def Interval.holds (i : Interval) (n : Nat) : Bool :=
  if i.closed then i.low ≤ n && n ≤ i.high else i.low < n && n < i.high

/-- The point of the grid `10 ^ k` that reads back as the double, if there is one. A point in the
interval exists only if one of the two around the value is in it. -/
def onGrid (p : Parts) (k : Int) : Option Nat :=
  let e := p.exponent - 2
  let i := (quarters p).scale (Nat.pow 2 e.toNat * Nat.pow 10 (-k).toNat)
  let step := Nat.pow 10 k.toNat * Nat.pow 2 (-e).toNat
  let below := i.value / step
  match i.holds (below * step), i.holds ((below + 1) * step) with
  | false, false => none
  | true, false => some below
  | false, true => some (below + 1)
  | true, true =>
    let twice := 2 * i.value
    let middle := (2 * below + 1) * step
    if twice < middle ∨ (twice = middle ∧ below % 2 = 0) then some below else some (below + 1)

def search (p : Parts) : Nat → Int → Decimal
  | 0, k => ⟨(onGrid p k).getD 0, k⟩
  | n + 1, k =>
    match onGrid p k with
    | some digits => ⟨digits, k⟩
    | none => search p n (k - 1)

def ofParts (p : Parts) : Decimal :=
  search p 20 (((p.mantissa.log2 : Int) + p.exponent + 1) * 30103 / 100000 + 1)

structure Layout where
  low : Int
  high : Int

def Layout.write (layout : Layout) (d : Decimal) : String :=
  let ds := (Nat.repr d.digits).toList
  let lead := d.exponent + ds.length - 1
  if layout.low ≤ lead ∧ lead < layout.high then
    if d.exponent ≥ 0 then String.ofList (ds ++ List.replicate d.exponent.toNat '0' ++ ['.', '0'])
    else if lead ≥ 0 then
      String.ofList (ds.take (lead.toNat + 1) ++ '.' :: ds.drop (lead.toNat + 1))
    else String.ofList ('0' :: '.' :: List.replicate (-lead - 1).toNat '0' ++ ds)
  else
    let mantissa := ds.take 1 ++ (if ds.length > 1 then '.' :: ds.drop 1 else [])
    let sign := if lead < 0 then "-" else "+"
    String.ofList mantissa ++ "e" ++ sign ++ Nat.repr lead.natAbs

def documentLayout : Layout := ⟨-5, 16⟩

def text (x : Float) : String :=
  let p := parts x
  let body := if p.mantissa = 0 then "0.0" else documentLayout.write (ofParts p)
  if p.negative then "-" ++ body else body

end DocQuery.Shortest
