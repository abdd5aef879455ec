import DocQuery.Value
import Mathlib.Tactic.Lemma

namespace DocQuery.Value

mutual

def leveled : Value → Value
  | number n => int n.ordinal
  | array items => array (leveledItems items)
  | object fields => object (leveledFields fields)
  | v => v

def leveledItems : List Value → List Value
  | [] => []
  | v :: vs => leveled v :: leveledItems vs

def leveledFields : List (String × Value) → List (String × Value)
  | [] => []
  | (k, v) :: fs => (k, leveled v) :: leveledFields fs

end

mutual

lemma deepEqual_iff : ∀ a b : Value, a.deepEqual b = true ↔ a.leveled = b.leveled
  | null, b => by cases b <;> simp [deepEqual, leveled, int]
  | bool _, b => by cases b <;> simp [deepEqual, leveled, int]
  | number _, b => by cases b <;> simp [deepEqual, leveled, int]
  | string _, b => by cases b <;> simp [deepEqual, leveled, int]
  | array as, b => by
    cases b with
    | array bs => simpa [deepEqual, leveled] using deepEqualItems_iff as bs
    | _ => simp [deepEqual, leveled, int]
  | object as, b => by
    cases b with
    | object bs => simpa [deepEqual, leveled] using deepEqualFields_iff as bs
    | _ => simp [deepEqual, leveled, int]

lemma deepEqualItems_iff : ∀ as bs : List Value, deepEqualItems as bs = true ↔ leveledItems as = leveledItems bs
  | [], bs => by cases bs <;> simp [deepEqualItems, leveledItems]
  | a :: as, bs => by
    cases bs with
    | nil => simp [deepEqualItems, leveledItems]
    | cons b bs => simp [deepEqualItems, leveledItems, deepEqual_iff a b, deepEqualItems_iff as bs]

lemma deepEqualFields_iff : ∀ as bs : List (String × Value),
    deepEqualFields as bs = true ↔ leveledFields as = leveledFields bs
  | [], bs => by cases bs <;> simp [deepEqualFields, leveledFields]
  | (k, a) :: as, bs => by
    cases bs with
    | nil => simp [deepEqualFields, leveledFields]
    | cons b bs =>
      simp [deepEqualFields, leveledFields, deepEqual_iff a b.2, deepEqualFields_iff as bs, and_assoc]

end

end DocQuery.Value
