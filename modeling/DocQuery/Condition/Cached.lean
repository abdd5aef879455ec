import DocQuery.Condition

/-! Conditions with what they keep from one test to the next: the formula their tokens were read as, until tokens
are added, and for each comparison the values of its operands, once all of these are known. -/

namespace DocQuery

namespace Operand

mutual

def isKnown (rs : Results) : Operand → Bool
  | value _ => true
  | output o => o.isReady rs
  | scope _ items => allKnown rs items

def allKnown (rs : Results) : List Operand → Bool
  | [] => true
  | o :: os => isKnown rs o && allKnown rs os

end

end Operand

structure ValueTest where
  column : Column
  spread : Bool
  operands : List Operand
  holds : Value → List Value → Bool

def Test.valueTest? : Test → Option ValueTest
  | equal c os => some ⟨c, false, os, fun v vs => vs.any v.equals⟩
  | greater c os => some ⟨c, false, os, fun v vs => vs.any fun w => v.partialCompare w == some .gt⟩
  | less c os => some ⟨c, false, os, fun v vs => vs.any fun w => v.partialCompare w == some .lt⟩
  | between c os => some ⟨c, false, os, isBetween⟩
  | member c os => some ⟨c, true, os, fun v vs => vs.any v.equals⟩
  | like _ _ _ | null _ | nonempty _ => none

namespace ValueTest

def values (rs : Results) (c : ValueTest) : List Value := Operand.valuesOfAll rs c.spread c.operands

def remembered (rs : Results) (kept : Option (List Value)) (c : ValueTest) : List Value × Option (List Value) :=
  match kept with
  | some vs => (vs, some vs)
  | none => (c.values rs, if Operand.allKnown rs c.operands then some (c.values rs) else none)

def judge (rs : Results) (row : Row) (kept : Option (List Value)) (c : ValueTest) :
    Verdict × Option (List Value) :=
  if row.coversColumn c.column then
    let (vs, kept) := c.remembered rs kept
    (some (c.holds (row.read c.column) vs), kept)
  else (none, kept)

end ValueTest

def Test.judge (rs : Results) (row : Row) (kept : Option (List Value)) (t : Test) :
    Verdict × Option (List Value) :=
  match t.valueTest? with
  | some c => c.judge rs row kept
  | none => (t.eval rs row, kept)

def Token.leaf? : Token → Option Leaf
  | .leaf l => some l
  | _ => none

/-- The values kept for the leaves, which are numbered in the order of the tokens. -/
abbrev Memory := Nat → Option (List Value)

namespace Memory

def empty : Memory := fun _ => none

def keep (m : Memory) (n : Nat) (kept : Option (List Value)) : Memory := fun i => if i = n then kept else m i

end Memory

namespace Formula

mutual

def leaves : Formula → List Leaf
  | leaf l => [l]
  | all items => leavesOfAll items
  | any items => leavesOfAll items
  | not item => leaves item

def leavesOfAll : List Formula → List Leaf
  | [] => []
  | f :: fs => leaves f ++ leavesOfAll fs

end

mutual

def judge (rs : Results) (row : Row) (n : Nat) (m : Memory) : Formula → Verdict × Memory
  | leaf l =>
    let (v, kept) := l.test.judge rs row (m n)
    (v, m.keep n kept)
  | all items => judgeUntil rs row false false n m items
  | any items => judgeUntil rs row true false n m items
  | not item =>
    let (v, m) := judge rs row n m item
    (v.map (!·), m)

def judgeUntil (rs : Results) (row : Row) (decisive seen : Bool) (n : Nat) (m : Memory) :
    List Formula → Verdict × Memory
  | [] => (if seen then some !decisive else none, m)
  | f :: fs =>
    match judge rs row n m f with
    | (some b, m) =>
      if b = decisive then (some b, m) else judgeUntil rs row decisive true (n + f.leaves.length) m fs
    | (none, m) => judgeUntil rs row decisive seen (n + f.leaves.length) m fs

end

end Formula

structure CachedConditions where
  conditions : Conditions
  formula : Option (Option Formula)
  memory : Memory

namespace CachedConditions

def empty : CachedConditions := ⟨.empty, none, .empty⟩

def append (c : CachedConditions) (ts : List Token) : CachedConditions :=
  if ts.isEmpty then c else { c with conditions := c.conditions.append ts, formula := none }

def pushToken (c : CachedConditions) (t : Token) : CachedConditions := c.append [t]

def push (rs : Results) (c : CachedConditions) (e : Expression) : Except Error CachedConditions :=
  (e.tokens rs 0).map c.append

def traced (rs : Results) (row : Row) (n : Nat) (m : Memory) : List Leaf → Memory
  | [] => m
  | l :: ls => traced rs row (n + 1) (m.keep n (l.test.judge rs row (m n)).2) ls

def test (rs : Results) (tracing : Bool) (row : Row) (c : CachedConditions) : Bool × CachedConditions :=
  let formula := c.formula.getD c.conditions.formula?
  let memory :=
    if tracing then traced rs row 0 c.memory (c.conditions.tokens.filterMap Token.leaf?) else c.memory
  let (verdict, memory) := match formula with
    | some f => f.judge rs row 0 memory
    | none => (none, memory)
  (verdict.getD true, { c with formula := some formula, memory := memory })

end CachedConditions

end DocQuery
