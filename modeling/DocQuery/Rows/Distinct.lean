import DocQuery.Output
import DocQuery.Row

namespace DocQuery.Rows

def sameContent (a b : Row) : Bool := a.toValue.deepEqual b.toValue

def distinctFrom (seen : List Row) : List Row → List Row
  | [] => []
  | r :: rows =>
    if seen.any (sameContent · r) then distinctFrom seen rows
    else r :: distinctFrom (seen ++ [r]) rows

def distinct (rows : List Row) : List Row := distinctFrom [] rows

def adopt (table : Table) (index : Nat) (source : String) (content : Dict Value) : Row :=
  let r := Row.ofValue table (source ++ "/" ++ Nat.repr index) (.object content)
  if source = table.name then r else { r with joined := r.joined ++ [source] }

def union (rs : Results) (table : Table) (rows : List Row) (o : Output) : List Row :=
  rows ++ ((o.rows rs).zipIdx.map fun ((source, content), i) => adopt table i source content)

end DocQuery.Rows
