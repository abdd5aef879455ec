import DocQuery.Text.CaseData

namespace DocQuery.Text

open CaseData

def inRanges (ranges : List (Nat × Nat)) (c : Char) : Bool :=
  ranges.any fun r => r.1 ≤ c.toNat && c.toNat ≤ r.2

def mapChar (runs : List Run) (strings : List (Nat × List Nat)) (c : Char) : List Char :=
  let n := c.toNat
  match runs.find? fun r => r.first ≤ n && n ≤ r.last && (n - r.first) % r.step == 0 with
  | some r => [Char.ofNat (r.target + (n - r.first))]
  | none =>
    match strings.lookup n with
    | some ns => ns.map Char.ofNat
    | none => [c]

def upperChar (c : Char) : List Char :=
  if c.toNat < 0x80 then [c.toUpper] else mapChar upperRuns upperStrings c

def lowerChar (c : Char) : List Char :=
  if c.toNat < 0x80 then [c.toLower] else mapChar lowerRuns lowerStrings c

def upper (s : String) : String := String.ofList (s.toList.flatMap upperChar)

def meetsCased (cs : List Char) : Bool :=
  match cs.dropWhile (inRanges ignored) with
  | [] => false
  | c :: _ => inRanges cased c

/-- A sigma after a cased character and before none is the final one. `before` is the text passed,
in reverse. -/
def lowerFrom (before : List Char) : List Char → List Char
  | [] => []
  | c :: cs =>
    let low := if c = 'Σ' then [if meetsCased before && !meetsCased cs then 'ς' else 'σ'] else lowerChar c
    low ++ lowerFrom (c :: before) cs

def lower (s : String) : String := String.ofList (lowerFrom [] s.toList)

end DocQuery.Text
