/-! Dictionaries: entry lists kept in the order of their keys. Reading an entry back after
`insert` and `erase` does not depend on that order; `Sorted` is what `insert` and `erase` keep. -/

namespace DocQuery

abbrev Dict (α : Type) := List (String × α)

namespace Dict

variable {α β : Type}

def find? (k : String) : Dict α → Option α
  | [] => none
  | (k', v) :: d => if k = k' then some v else find? k d

def contains (k : String) (d : Dict α) : Bool := (find? k d).isSome

def keys (d : Dict α) : List String := d.map (·.1)

def values (d : Dict α) : List α := d.map (·.2)

def insert (k : String) (v : α) : Dict α → Dict α
  | [] => [(k, v)]
  | (k', v') :: d =>
    if k = k' then (k, v) :: d
    else if k < k' then (k, v) :: (k', v') :: d
    else (k', v') :: insert k v d

def erase (k : String) : Dict α → Dict α
  | [] => []
  | (k', v') :: d => if k = k' then erase k d else (k', v') :: erase k d

def ofList (entries : List (String × α)) : Dict α :=
  entries.foldl (fun d e => insert e.1 e.2 d) []

def merge (d e : Dict α) : Dict α := e.foldl (fun d e => insert e.1 e.2 d) d

def mapValues (f : α → β) (d : Dict α) : Dict β := d.map fun e => (e.1, f e.2)

def Sorted (d : Dict α) : Prop := d.Pairwise (·.1 < ·.1)

@[simp] theorem find?_nil (k : String) : find? k ([] : Dict α) = none := rfl

theorem find?_cons (k k' : String) (v : α) (d : Dict α) :
    find? k ((k', v) :: d) = if k = k' then some v else find? k d := rfl

@[simp] theorem find?_insert_self (k : String) (v : α) (d : Dict α) :
    find? k (insert k v d) = some v := by
  induction d with
  | nil => simp [insert, find?]
  | cons e d ih => grind [insert, find?]

theorem find?_insert_of_ne {k k' : String} (h : k' ≠ k) (v : α) (d : Dict α) :
    find? k' (insert k v d) = find? k' d := by
  induction d with
  | nil => simp [insert, find?, h]
  | cons e d ih => grind [insert, find?]

@[simp] theorem find?_erase_self (k : String) (d : Dict α) : find? k (erase k d) = none := by
  induction d with
  | nil => rfl
  | cons e d ih => grind [erase, find?]

theorem find?_erase_of_ne {k k' : String} (h : k' ≠ k) (d : Dict α) :
    find? k' (erase k d) = find? k' d := by
  induction d with
  | nil => rfl
  | cons e d ih => grind [erase, find?]

end Dict

end DocQuery
