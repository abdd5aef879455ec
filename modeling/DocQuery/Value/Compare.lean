import DocQuery.Value
import DocQuery.Calendar.Moment

/-! Comparisons of values: equality and partial order as conditions use them, with texts that read
as dates standing for moments, the equality of joins, and the total preorder of sorting. -/

namespace DocQuery.Value

def dated : Value → Value
  | string s =>
    match Calendar.millis? s with
    | some n => int n
    | none => string s
  | v => v

def equals (a b : Value) : Bool := deepEqual a.dated b.dated

def toFloat? : Value → Option Float
  | number n => some n.toFloat
  | string s =>
    match Literal.read? (Text.trim s.toList) with
    | some l => if Binary64.isFinite l.toFloat then some l.toFloat else none
    | none => none
  | _ => none

def ordinal? (v : Value) : Option Int := v.toFloat?.map Binary64.ordinal

def looseEquals (a b : Value) : Bool :=
  match a.ordinal?, b.ordinal? with
  | some m, some n => m == n
  | _, _ => same a b

def partialCompare (a b : Value) : Option Ordering :=
  match a.dated, b.dated with
  | string s, string t => some (compare s t)
  | bool x, bool y => some (compare x y)
  | null, _ | _, null => none
  | v, w =>
    match v.ordinal?, w.ordinal? with
    | some m, some n => some (compare m n)
    | _, _ => none

def rank : Value → Nat
  | null => 0
  | bool _ => 1
  | number _ => 2
  | string _ => 3
  | array _ => 4
  | object _ => 5

mutual

/-- The preorder of sorting. All objects are level. -/
def order : Value → Value → Ordering
  | bool x, bool y => compare x y
  | number m, number n => compare m.ordinal n.ordinal
  | string s, string t => compare s t
  | array as, array bs => orderItems as bs
  | v, w => compare v.rank w.rank

def orderItems : List Value → List Value → Ordering
  | [], [] => .eq
  | [], _ :: _ => .lt
  | _ :: _, [] => .gt
  | a :: as, b :: bs => (order a b).then (orderItems as bs)

end

end DocQuery.Value
