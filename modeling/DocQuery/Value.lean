import DocQuery.Dict
import DocQuery.Number

/-! Document values. An object is a list of entries; `canonical` puts the entries of every object
in key order, the last of several with one key counting. All other operations read canonical
values. -/

namespace DocQuery

inductive Value where
  | null
  | bool (b : Bool)
  | number (n : Number)
  | string (s : String)
  | array (items : List Value)
  | object (fields : List (String × Value))

namespace Value

instance : Inhabited Value := ⟨null⟩

def int (n : Int) : Value := number (.int n)

def ofNat (n : Nat) : Value := int n

def float (x : Float) : Value := number (.float x)

def isNull : Value → Bool
  | null => true
  | _ => false

def string? : Value → Option String
  | string s => some s
  | _ => none

mutual

def canonical : Value → Value
  | array items => array (canonicalItems items)
  | object fields => object (Dict.ofList (canonicalFields fields))
  | v => v

def canonicalItems : List Value → List Value
  | [] => []
  | v :: vs => canonical v :: canonicalItems vs

def canonicalFields : List (String × Value) → List (String × Value)
  | [] => []
  | (k, v) :: fs => (k, canonical v) :: canonicalFields fs

end

mutual

def same : Value → Value → Bool
  | null, null => true
  | bool a, bool b => a == b
  | number a, number b => a.same b
  | string a, string b => a == b
  | array as, array bs => sameItems as bs
  | object as, object bs => sameFields as bs
  | _, _ => false

def sameItems : List Value → List Value → Bool
  | [], [] => true
  | a :: as, b :: bs => same a b && sameItems as bs
  | _, _ => false

def sameFields : List (String × Value) → List (String × Value) → Bool
  | [], [] => true
  | (k, a) :: as, (l, b) :: bs => k == l && same a b && sameFields as bs
  | _, _ => false

end

mutual

def deepEqual : Value → Value → Bool
  | null, null => true
  | bool a, bool b => a == b
  | number a, number b => a.ordinal == b.ordinal
  | string a, string b => a == b
  | array as, array bs => deepEqualItems as bs
  | object as, object bs => deepEqualFields as bs
  | _, _ => false

def deepEqualItems : List Value → List Value → Bool
  | [], [] => true
  | a :: as, b :: bs => deepEqual a b && deepEqualItems as bs
  | _, _ => false

def deepEqualFields : List (String × Value) → List (String × Value) → Bool
  | [], [] => true
  | (k, a) :: as, (l, b) :: bs => k == l && deepEqual a b && deepEqualFields as bs
  | _, _ => false

end

mutual

def scalars : Value → List Value
  | array items => scalarsOfItems items
  | object fields => scalarsOfFields fields
  | v => [v]

def scalarsOfItems : List Value → List Value
  | [] => []
  | v :: vs => scalars v ++ scalarsOfItems vs

def scalarsOfFields : List (String × Value) → List Value
  | [] => []
  | (_, v) :: fs => scalars v ++ scalarsOfFields fs

end

end Value

end DocQuery
