import DocQuery.Condition.Formula
import DocQuery.Condition.Trace

namespace DocQuery

structure Conditions where
  tokens : List Token

namespace Conditions

def empty : Conditions := ⟨[]⟩

def isEmpty (c : Conditions) : Bool := c.tokens.isEmpty

/-- Tokens at the end. Two operands that would touch have to hold both. -/
def append (c : Conditions) (ts : List Token) : Conditions :=
  let joint := ts.head?.any Token.startsOperand && c.tokens.getLast?.any Token.endsOperand
  ⟨c.tokens ++ (if joint then [.and] else []) ++ ts⟩

def pushToken (c : Conditions) (t : Token) : Conditions := c.append [t]

def push (rs : Results) (c : Conditions) (e : Expression) : Except Error Conditions :=
  (e.tokens rs 0).map c.append

def formula? (c : Conditions) : Option Formula := Formula.ofTokens? c.tokens

def verdict (rs : Results) (c : Conditions) (row : Row) : Verdict :=
  c.formula?.bind (Formula.eval rs row)

/-- Rows that no condition applies to pass. -/
def test (rs : Results) (c : Conditions) (row : Row) : Bool := (c.verdict rs row).getD true

def trace (rs : Results) (c : Conditions) (row : Row) : String := Trace.render rs row c.tokens

theorem append_nil (c : Conditions) : c.append [] = c := by simp [append]

end Conditions

end DocQuery
