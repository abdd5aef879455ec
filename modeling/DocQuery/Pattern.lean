namespace DocQuery

inductive Wildcard where
  | any
  | one
  | char (c : Char)
  deriving DecidableEq

namespace Wildcard

def isMeta (c : Char) : Bool :=
  ['\\', '.', '+', '*', '?', '(', ')', '|', '[', ']', '\x7b', '\x7d', '^', '$', '#', '&', '-', '~'].contains c

def cost : Wildcard → Nat
  | .any => 2
  | .one => 1
  | .char c => if isMeta c then 2 else c.utf8Size

end Wildcard

abbrev Pattern := List Wildcard

namespace Pattern

def ofChars : List Char → Pattern
  | [] => []
  | '\\' :: c :: cs => .char c :: ofChars cs
  | '%' :: cs => .any :: ofChars cs
  | '_' :: cs => .one :: ofChars cs
  | c :: cs => .char c :: ofChars cs

def cost (p : Pattern) : Nat := p.foldl (fun n w => n + w.cost) 6

/-- A pattern is refused if its regular expression takes more than 1000 bytes. -/
def read? (s : String) : Option Pattern :=
  let p := ofChars s.toList
  if cost p ≤ 1000 then some p else none

def anyFrom : List Bool → List Bool
  | [] => []
  | b :: bs =>
    let rest := anyFrom bs
    (b || rest.head?.getD false) :: rest

/-- For each end part of a text, the whole of it first and the empty one last, whether the pattern
takes it in. -/
def ends : Pattern → List Char → List Bool
  | [], text => text.map (fun _ => false) ++ [true]
  | .any :: p, text => anyFrom (ends p text)
  | .one :: p, text => (ends p text).drop 1 ++ [false]
  | .char c :: p, text => List.zipWith (fun d b => c == d && b) text ((ends p text).drop 1) ++ [false]

def accepts (p : Pattern) (text : String) : Bool := (ends p text.toList).head?.getD false

end Pattern

end DocQuery
