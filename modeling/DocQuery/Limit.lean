import DocQuery.Number.Word

namespace DocQuery

inductive Bound where
  | first (n : Nat)
  | last (n : Nat)
  deriving DecidableEq

def Bound.apply {α : Type} : Bound → List α → List α
  | .first n, rows => rows.take n
  | .last n, rows => rows.drop (rows.length - n)

/-- One number keeps that many rows, of the end if it is negative. With a count the first number is
an offset, and a negative count takes rows back from the end. -/
structure Limit where
  start : Int
  count : Option Int
  deriving DecidableEq

namespace Limit

def range (l : Limit) (length : Nat) : Nat × Nat :=
  match l.count with
  | none => if 0 ≤ l.start then (0, l.start.toNat) else (length - l.start.natAbs, length)
  | some count =>
    if 0 ≤ count then (l.start.toNat, l.start.toNat + count.toNat)
    else
      let stop := length - l.start.toNat
      (stop - count.natAbs, stop)

def apply {α : Type} (l : Limit) (rows : List α) : List α :=
  let (start, stop) := l.range rows.length
  (rows.take stop).drop start

/-- A bound that keeps every row the limit can keep. Its size is a word of 64 bits. -/
def bound (l : Limit) : Bound :=
  let offset := l.start.natAbs
  match l.count with
  | none => if 0 ≤ l.start then .first offset else .last offset
  | some count =>
    let size := (offset + count.natAbs) % wordSize
    if 0 ≤ count then .first size else .last size

end Limit

end DocQuery
