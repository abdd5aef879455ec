import DocQuery.Condition.Test

namespace DocQuery

def maxNesting : Nat := 64

inductive Expression where
  | comparison (keyword : Keyword) (column : Column) (operands : List Operand)
  | scope (connective : Connective) (items : List Expression)
  | negation (item : Expression)

structure Leaf where
  label : String
  test : Test

inductive Token where
  | leaf (l : Leaf)
  | and
  | or
  | not
  | openGroup
  | closeGroup

namespace Token

def ofConnective : Connective → Token
  | .and => and
  | .or => or

def endsOperand : Token → Bool
  | leaf _ | closeGroup => true
  | _ => false

def startsOperand : Token → Bool
  | leaf _ | openGroup | not => true
  | _ => false

def label : Token → String
  | leaf l => l.label
  | and => "&&"
  | or => "||"
  | not => "!"
  | openGroup => "("
  | closeGroup => ")"

end Token

def Leaf.name (keyword : Keyword) (column : Column) : String :=
  let column := match column.tableName? with
    | some table => table ++ "." ++ column.name
    | none => column.name
  keyword.label ++ "(" ++ column ++ ")"

namespace Expression

def group (connective : Connective) (items : List (List Token)) : List Token :=
  match items.filter (!·.isEmpty) with
  | [] => []
  | items => .openGroup :: [Token.ofConnective connective].intercalate items ++ [.closeGroup]

mutual

def tokens (rs : Results) (depth : Nat) (e : Expression) : Except Error (List Token) :=
  if depth > maxNesting then .error (.nesting maxNesting)
  else
    match e with
    | comparison keyword column operands =>
      match Test.ofKeyword? rs keyword column operands with
      | some test => .ok [.leaf ⟨Leaf.name keyword column, test⟩]
      | none => .error (.noComparison keyword)
    | scope connective items => (tokensOfAll rs (depth + 1) items).map (group connective)
    | negation item => do
      let ts ← tokens rs (depth + 1) item
      .ok (if ts.isEmpty then [] else .not :: ts)

def tokensOfAll (rs : Results) (depth : Nat) : List Expression → Except Error (List (List Token))
  | [] => .ok []
  | e :: es => do
    let ts ← tokens rs depth e
    let tss ← tokensOfAll rs depth es
    .ok (ts :: tss)

end

end Expression

end DocQuery
