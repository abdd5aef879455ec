import DocQuery.Row
import DocQuery.Value.Compare

namespace DocQuery.Rows

def sortValue (r : Row) (c : Column) : Value :=
  match r.read c with
  | .null => r.field c.label
  | v => v

def groupKey (keys : List SortKey) (r : Row) : List Value := keys.map fun k => sortValue r k.column

def sameKey (vs ws : List Value) : Bool := (vs.zip ws).all fun (v, w) => v.deepEqual w

def addToGroup (keys : List SortKey) (r : Row) :
    List (List Value × List Row) → List (List Value × List Row)
  | [] => [(groupKey keys r, [r])]
  | (key, rows) :: groups =>
    if sameKey key (groupKey keys r) then (key, rows ++ [r]) :: groups
    else (key, rows) :: addToGroup keys r groups

def partition (keys : List SortKey) (rows : List Row) : List (List Row) :=
  if keys = [] then [rows]
  else (rows.foldl (fun groups r => addToGroup keys r groups) []).map (·.2)

def group (keys : List SortKey) (rows : List Row) : List Row :=
  if keys = [] then rows else (partition keys rows).flatten

def compare (keys : List SortKey) (a b : Row) : Ordering :=
  match keys with
  | [] => .eq
  | k :: keys =>
    (k.direction.apply ((sortValue a k.column).order (sortValue b k.column))).then (compare keys a b)

def order (keys : List SortKey) (rows : List Row) : List Row :=
  rows.mergeSort fun a b => (compare keys a b).isLE

end DocQuery.Rows
