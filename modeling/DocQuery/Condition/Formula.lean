import DocQuery.Condition.Expression

/-! Conditions as formulas over tests, read from tokens with `not` binding tighter than `and`, and
`and` tighter than `or`. The reading takes any tokens: a connective that lacks an operand keeps the
one it has, a bracket that is not closed ends with the tokens, and one that is not open ends the
formula before it. Formulas side by side all have to hold. -/

namespace DocQuery

inductive Formula where
  | leaf (l : Leaf)
  | all (items : List Formula)
  | any (items : List Formula)
  | not (item : Formula)

namespace Formula

def conj : List Verdict → Verdict
  | [] => none
  | v :: vs =>
    match v, conj vs with
    | some false, _ => some false
    | some true, some b => some b
    | some true, none => some true
    | none, w => w

def disj : List Verdict → Verdict
  | [] => none
  | v :: vs =>
    match v, disj vs with
    | some true, _ => some true
    | some false, some b => some b
    | some false, none => some false
    | none, w => w

mutual

def eval (rs : Results) (row : Row) : Formula → Verdict
  | leaf l => l.test.eval rs row
  | all items => conj (evalAll rs row items)
  | any items => disj (evalAll rs row items)
  | not item => (eval rs row item).map (!·)

def evalAll (rs : Results) (row : Row) : List Formula → List Verdict
  | [] => []
  | f :: fs => eval rs row f :: evalAll rs row fs

end

def group (wrap : List Formula → Formula) : List Formula → Option Formula
  | [] => none
  | [f] => some f
  | fs => some (wrap fs)

/-- An open bracket: the finished operands of `or`, those of the current `and`, and the negations
that wait for an operand. -/
structure Frame where
  terms : List Formula
  factors : List Formula
  negations : Nat

namespace Frame

def empty : Frame := ⟨[], [], 0⟩

def negate : Nat → Formula → Formula
  | 0, f => f
  | n + 1, f => .not (negate n f)

/-- An operand, with the negations before it; a missing one takes them along. -/
def put (fr : Frame) (f : Option Formula) : Frame :=
  ⟨fr.terms, fr.factors ++ (f.map (negate fr.negations)).toList, 0⟩

def closeTerm (fr : Frame) : Frame := ⟨fr.terms ++ (group .all fr.factors).toList, [], 0⟩

def formula? (fr : Frame) : Option Formula := group .any fr.closeTerm.terms

end Frame

/-- The formulas read, the frames around the innermost open bracket, its own frame, and whether it
stands after an operand. -/
structure Reader where
  read : List Formula
  outer : List Frame
  frame : Frame
  afterOperand : Bool

namespace Reader

def start : Reader := ⟨[], [], .empty, false⟩

def closeAll (fr : Frame) : List Frame → Frame
  | [] => fr
  | outer :: rest => closeAll (outer.put fr.formula?) rest

def finish (r : Reader) : Reader :=
  ⟨r.read ++ (closeAll r.frame r.outer).formula?.toList, [], .empty, false⟩

def put (r : Reader) (f : Option Formula) : Reader :=
  { r with frame := r.frame.put f, afterOperand := true }

def stepOperand (r : Reader) : Token → Reader
  | .leaf l => r.put (some (.leaf l))
  | .not => { r with frame := { r.frame with negations := r.frame.negations + 1 } }
  | .openGroup => { r with outer := r.frame :: r.outer, frame := .empty }
  | .and => { r with frame := { r.frame with negations := 0 }, afterOperand := false }
  | .or => { r with frame := r.frame.closeTerm, afterOperand := false }
  | .closeGroup =>
    match r.outer with
    | [] => r.finish
    | outer :: rest => put ⟨r.read, rest, outer, false⟩ r.frame.formula?

/-- An operand right after another one starts a formula of its own. -/
def step (r : Reader) (t : Token) : Reader :=
  if r.afterOperand && t.startsOperand then r.finish.stepOperand t else r.stepOperand t

end Reader

def ofTokens? (ts : List Token) : Option Formula :=
  group .all (ts.foldl Reader.step Reader.start).finish.read

end Formula

end DocQuery
