import DocQuery.Row
import DocQuery.Value.Compare

namespace DocQuery.Rows

def freeName (content : Dict Value) (table name : String) : String :=
  if Dict.contains name content then table ++ "." ++ name else name

def joinTable (r : Row) (table : String) : Row :=
  if r.covers table then r else { r with joined := r.joined ++ [table] }

/-- The fields of `b` laid into `a`. A name that is taken is qualified by the table of `b`. -/
def combine (a b : Row) : Row :=
  let r := b.content.foldl (fun r f => r.addField (freeName r.content b.table.name f.1) f.2) a
  (b.table.name :: b.joined).foldl joinTable r

def isMatch (j : Join) (a b : Row) : Bool :=
  let v := a.read j.own
  let w := b.read j.other
  !v.isNull && !w.isNull && v.looseEquals w

def addNull (r : Row) (name : String) : Row :=
  if Dict.contains name r.content then r
  else { r with fields := r.fields ++ [name], content := Dict.insert name .null r.content }

/-- A row that stands for a missing one of the list: each field that some row has, null. -/
def standIn (rows : List Row) (table : Table) : Row :=
  match rows with
  | [] => Row.ofValue table "" .null
  | first :: rest => rest.foldl (fun r row => row.fields.foldl addNull r) first.nulled

def inner (j : Join) (as bs : List Row) : List Row :=
  as.flatMap fun a => (bs.filter (isMatch j a)).map (combine a)

def sideTable (c : Column) (rows : List Row) : Table :=
  (c.table <|> rows.head?.map (·.table)).getD (.named "")

def left (j : Join) (as bs : List Row) : List Row :=
  let missing := standIn bs (sideTable j.other bs)
  as.flatMap fun a =>
    match bs.filter (isMatch j a) with
    | [] => [combine a missing]
    | matched => matched.map (combine a)

def right (j : Join) (as bs : List Row) : List Row :=
  let missing := standIn as (sideTable j.own as)
  bs.flatMap fun b =>
    match as.filter (isMatch j · b) with
    | [] => [{ combine missing b with key := b.key }]
    | matched => matched.map (combine · b)

def join (j : Join) (as bs : List Row) : List Row :=
  match j.kind with
  | .inner => inner j as bs
  | .left => left j as bs
  | .right => right j as bs
  | .full => left j as bs ++ right j as bs

end DocQuery.Rows
