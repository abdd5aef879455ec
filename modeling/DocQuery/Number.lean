import DocQuery.Number.Shortest
import DocQuery.Number.Literal
import DocQuery.Number.Word

/-! Numbers of documents: integers, and finite doubles. They are ordered by the double nearest to
each. -/

namespace DocQuery

inductive Number where
  | int (n : Int)
  | float (x : Float)

namespace Number

def toFloat : Number → Float
  | int n => Binary64.ofInt n
  | float x => x

def ordinal (n : Number) : Int := Binary64.ordinal n.toFloat

def truncate : Number → Int
  | int n => Binary64.roundInt n
  | float x => Binary64.truncate x

def same : Number → Number → Bool
  | int m, int n => m == n
  | float x, float y => Binary64.ordinal x == Binary64.ordinal y
  | _, _ => false

def text : Number → String
  | int n => toString n
  | float x => Shortest.text x

/-- The result of a calculation: an integer where a double holds one exactly, and 0 for what is not
finite. -/
def ofResult (x : Float) : Number :=
  if !Binary64.isFinite x then int 0
  else if Binary64.isIntegral x && (Binary64.truncate x).natAbs < Nat.pow 2 53 then int (Binary64.truncate x)
  else float x

end Number

end DocQuery
