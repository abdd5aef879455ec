import DocQuery.Condition.Expression
import DocQuery.Scheme

namespace DocQuery

inductive Key where
  | column (c : Column)
  | scope (connective : Connective) (items : List Key)

def Arg.column? (keyword : Keyword) : Arg → Except Error Column
  | column c => .ok c
  | value (.string s) => .ok (Column.read s)
  | _ => .error (.invalid (.columnNames keyword))

namespace Key

mutual

def ofArg (table : Option Table) (depth : Nat) (a : Arg) : Except Error Key :=
  if depth > maxNesting then .error (.nesting maxNesting)
  else
    match a with
    | .scope connective items => (ofArgs table (depth + 1) items).map (scope connective)
    | a => (a.column? .whereKeys).map fun c => column (c.inTable table)

def ofArgs (table : Option Table) (depth : Nat) : List Arg → Except Error (List Key)
  | [] => .ok []
  | a :: as => do
    let k ← ofArg table depth a
    let ks ← ofArgs table depth as
    .ok (k :: ks)

end

mutual

def columns : Key → List Column
  | column c => [c]
  | scope _ items => columnsOfAll items

def columnsOfAll : List Key → List Column
  | [] => []
  | k :: ks => columns k ++ columnsOfAll ks

end

end Key

namespace Operand

mutual

def ofArg (depth : Nat) (a : Arg) : Except Error Operand :=
  if depth > maxNesting then .error (.nesting maxNesting)
  else
    match a with
    | .value v => .ok (value v)
    | .output o => .ok (output o)
    | .scope connective items => (ofArgs (depth + 1) items).map (scope connective)
    | .reference query => .error (.malformed (.openReference query))
    | _ => .error (.invalid .operand)

def ofArgs (depth : Nat) : List Arg → Except Error (List Operand)
  | [] => .ok []
  | a :: as => do
    let o ← ofArg depth a
    let os ← ofArgs depth as
    .ok (o :: os)

end

end Operand

namespace Keychain

def joined (connective : Connective) : List Expression → Option Expression
  | [] => none
  | [e] => some e
  | es => some (.scope connective es)

/-- The finished terms of a disjunction, the factors of the current one, and the number of columns
met. -/
structure Chain where
  terms : List Expression
  factors : List Expression
  index : Nat

namespace Chain

def start (index : Nat) : Chain := ⟨[], [], index⟩

def add (c : Chain) (connective : Connective) (e : Option Expression) (index : Nat) : Chain :=
  match e with
  | none => { c with index := index }
  | some e =>
    match connective, c.factors with
    | .or, f :: fs => ⟨c.terms ++ (joined .and (f :: fs)).toList, [e], index⟩
    | _, fs => ⟨c.terms, fs ++ [e], index⟩

def expression? (c : Chain) : Option Expression :=
  joined .or (c.terms ++ (joined .and c.factors).toList)

end Chain

mutual

def ofKey (leaf : Nat → Column → Except Error Expression) (connective : Connective) (depth index : Nat) :
    Key → Except Error (Connective × Option Expression × Nat)
  | .column c => (leaf index c).map fun e => (connective, some e, index + 1)
  | .scope own items =>
    if depth + 1 > maxNesting then .error (.nesting maxNesting)
    else (ofKeys leaf own (depth + 1) (.start index) items).map fun c => (own, c.expression?, c.index)

def ofKeys (leaf : Nat → Column → Except Error Expression) (connective : Connective) (depth : Nat)
    (chain : Chain) : List Key → Except Error Chain
  | [] => .ok chain
  | k :: ks => do
    let (before, e, index) ← ofKey leaf connective depth chain.index k
    ofKeys leaf connective depth (chain.add before e index) ks

end

def expression? (leaf : Nat → Column → Except Error Expression) (keys : List Key) :
    Except Error (Option Expression) :=
  (ofKeys leaf .and 0 (.start 0) keys).map Chain.expression?

mutual

def comparison (keyword : Keyword) (column : Column) (depth : Nat) : Operand → Except Error Expression
  | .scope connective items =>
    (comparisons keyword column (depth + 1) items).map (.scope connective)
  | o => .ok (.comparison keyword column [o])

def comparisons (keyword : Keyword) (column : Column) (depth : Nat) :
    List Operand → Except Error (List Expression)
  | [] => .ok []
  | o :: os =>
    if depth > maxNesting then .error (.nesting maxNesting)
    else do
      let e ← comparison keyword column depth o
      let es ← comparisons keyword column depth os
      .ok (e :: es)

end

def anyOf (keyword : Keyword) (operands : List Operand) (column : Column) : Except Error Expression :=
  (comparisons keyword column 0 operands).map fun es =>
    (joined .or es).getD (.comparison keyword column [])

def isList : Operand → Bool
  | .value (.array _) => true
  | .output _ => true
  | _ => false

/-- Of several columns each takes its own list, if there is one for each; else all share them. -/
def memberOperands (count : Nat) (operands : List Operand) (index : Nat) : List Operand :=
  if count > 1 && operands.length == count && operands.all isList then operands[index]?.toList
  else operands

/-- Two bounds are shared; twice as many as columns go to the columns in pairs. -/
def bounds (operands : List Operand) (index : Nat) : List Operand :=
  if operands.length = 2 then operands else (operands.drop (2 * index)).take 2

end Keychain

end DocQuery
