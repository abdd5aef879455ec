namespace DocQuery.Binary64

structure Parts where
  negative : Bool
  mantissa : Nat
  exponent : Int

def exponentField (x : Float) : Nat := x.toBits.toNat / Nat.pow 2 52 % 2048

def isFinite (x : Float) : Bool := exponentField x != 2047

def isNegative (x : Float) : Bool := x.toBits.toNat / Nat.pow 2 63 == 1

def parts (x : Float) : Parts :=
  let fraction := x.toBits.toNat % Nat.pow 2 52
  match exponentField x with
  | 0 => ⟨isNegative x, fraction, -1074⟩
  | e + 1 => ⟨isNegative x, fraction + Nat.pow 2 52, (e : Int) - 1074⟩

/-- A key with the order of the finite doubles; both zeros have key 0. -/
def ordinal (x : Float) : Int :=
  let magnitude : Int := (x.toBits.toNat % Nat.pow 2 63 : Nat)
  if isNegative x then -magnitude else magnitude

namespace Parts

def floorMagnitude (p : Parts) : Nat :=
  if p.exponent < 0 then p.mantissa / Nat.pow 2 p.exponent.natAbs else p.mantissa * Nat.pow 2 p.exponent.natAbs

def isIntegral (p : Parts) : Bool :=
  0 ≤ p.exponent || p.mantissa % Nat.pow 2 p.exponent.natAbs == 0

def truncate (p : Parts) : Int :=
  if p.negative then -(p.floorMagnitude : Int) else p.floorMagnitude

def toFloat (p : Parts) : Float :=
  let shift := min (52 - p.mantissa.log2) (p.exponent + 1074).toNat
  let m := p.mantissa * Nat.pow 2 shift
  let e := (p.exponent + 1075 - shift).toNat
  let magnitude := if m < Nat.pow 2 52 then m else e * Nat.pow 2 52 + (m - Nat.pow 2 52)
  Float.ofBits (UInt64.ofNat (if p.negative then Nat.pow 2 63 + magnitude else magnitude))

end Parts

def truncate (x : Float) : Int := (parts x).truncate

def isIntegral (x : Float) : Bool := (parts x).isIntegral

def ofInt (n : Int) : Float := Float.ofInt n

def roundInt (n : Int) : Int :=
  if n.natAbs ≤ Nat.pow 2 53 then n
  else
    let unit := Nat.pow 2 (n.natAbs.log2 - 52)
    let q := n.natAbs / unit
    let r := n.natAbs % unit
    let q := if 2 * r < unit ∨ (2 * r = unit ∧ q % 2 = 0) then q else q + 1
    n.sign * (q * unit : Nat)

def remainder (x y : Float) : Float :=
  let p := parts x
  let q := parts y
  let e := min p.exponent q.exponent
  let m := p.mantissa * Nat.pow 2 (p.exponent - e).toNat % (q.mantissa * Nat.pow 2 (q.exponent - e).toNat)
  Parts.toFloat ⟨p.negative, m, e⟩

def trunc (x : Float) : Float := if x < 0 then x.ceil else x.floor

def power (base : Float) (n : Int) : Float :=
  let rec go : Nat → Nat → Float → Float → Float
    | 0, _, _, r => r
    | fuel + 1, n, a, r =>
      let r := if n % 2 = 1 then r * a else r
      if n / 2 = 0 then r else go fuel (n / 2) (a * a) r
  let r := go (n.natAbs + 1) n.natAbs base 1.0
  if n < 0 then 1.0 / r else r

theorem roundInt_of_natAbs_le {n : Int} (h : n.natAbs ≤ Nat.pow 2 53) : roundInt n = n := by
  simp only [roundInt, h, if_true]

end DocQuery.Binary64
