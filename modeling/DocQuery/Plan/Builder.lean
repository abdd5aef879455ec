import DocQuery.Plan
import DocQuery.Plan.Check
import DocQuery.Plan.Keychain
import DocQuery.Text.Search

/-! Plans from schemes, one operation after the other. An operation that fails leaves behind what it
did before it failed. -/

namespace DocQuery

inductive Clause where
  | whereKeys
  | havingKeys
  deriving DecidableEq

def Clause.keyword : Clause → Keyword
  | whereKeys => .whereKeys
  | havingKeys => .havingKeys

structure PendingJoin where
  kind : JoinKind
  target : Table
  column : Option Column

/-- The plan so far, the operations accepted, the last one first, the open keychain and the clause
it belongs to, and the open join. -/
structure Builder where
  plan : Plan
  history : List Keyword
  keychain : List Key
  clause : Clause
  pending : Option PendingJoin

abbrev Building := ExceptT Error (StateM Builder)

namespace Builder

def empty : Builder := ⟨.empty, [], [], .whereKeys, none⟩

def modifyPlan (f : Plan → Plan) : Building Unit := modify fun b => { b with plan := f b.plan }

def malformed {α : Type} (fault : PlanFault) : Building α := throw (.malformed fault)

def invalid {α : Type} (fault : ArgumentFault) : Building α := throw (.invalid fault)

def primary : Building (Option Table) := return (← get).plan.primary?

def target (b : Builder) : Conditions :=
  match b.clause with
  | .whereKeys => b.plan.conditions
  | .havingKeys => b.plan.having

def setTarget (b : Builder) (c : Conditions) : Builder :=
  match b.clause with
  | .whereKeys => { b with plan := { b.plan with conditions := c } }
  | .havingKeys => { b with plan := { b.plan with having := c } }

def pushToken (t : Token) : Building Unit := modify fun b => b.setTarget (b.target.pushToken t)

def pushExpression (rs : Results) : Option Expression → Building Unit
  | none => return
  | some e => do
    let b ← get
    let c ← b.target.push rs e
    set (b.setTarget c)

def tableOf (keyword : Keyword) : Arg → Building Table
  | .table t => return t
  | .value (.string s) => return Table.read s
  | _ => invalid (.tableNames keyword)

def columnOf (keyword : Keyword) (a : Arg) : Building Column := a.column? keyword

def isSameColumn (a b : Column) : Bool :=
  a.name == b.name &&
    match a.tableName?, b.tableName? with
    | some s, some t => s == t
    | _, _ => true

def withInputs (columns inputs : List Column) : List Column :=
  if columns.any Column.isAll then columns
  else inputs.foldl (fun cs c =>
    if c.isAll || cs.any (isSameColumn · c) then cs else cs ++ [{ c with temporary := true }]) columns

def selectColumns : List Column → List Column → List Arg → Building Unit
  | columns, inputs, [] => modifyPlan fun p => { p with columns := withInputs columns inputs }
  | columns, inputs, .function c :: as => do
    modifyPlan fun p => { p with calls := p.calls ++ [c] }
    selectColumns columns (inputs ++ c.columns) as
  | columns, inputs, a :: as => do
    let c ← columnOf .select a
    selectColumns (columns ++ [c]) inputs as

def insertData : List Arg → Building Unit
  | [] => return
  | .value v :: as => do
    let rows := match v with
      | .array items => items
      | v => [v]
    modifyPlan fun p => { p with data := p.data ++ rows }
    insertData as
  | _ :: _ => malformed .insertPayload

def setFields : List Arg → Building Unit
  | [.value (.object fields)] => modifyPlan fun p => { p with assignments := some fields }
  | _ :: _ :: _ => malformed .setCount
  | _ => malformed .setPayload

/-- A clause after a connective after the same clause goes on with its keychain. -/
def continues (clause : Clause) (history : List Keyword) : Bool :=
  match history with
  | last :: previous :: _ => last.isConnective && previous == clause.keyword
  | _ => false

def extendLast (keys : List Key) : List Key → Option (List Key)
  | [] => none
  | [.scope connective items] => some [.scope connective (items ++ keys)]
  | [.column _] => none
  | k :: l :: ks => (extendLast keys (l :: ks)).map (k :: ·)

def openKeys (clause : Clause) (args : List Arg) : Building Unit := do
  let keys ← Key.ofArgs (← primary) 0 args
  let b ← get
  if continues clause b.history then
    match extendLast keys b.keychain with
    | some keychain => set { b with keychain := keychain, clause := clause }
    | none => malformed .keyNotScope
  else set { b with keychain := keys, clause := clause }

/-- A connective after a clause opens a scope in its keychain; any other stands between
conditions. -/
def connect (connective : Connective) : Building Unit := do
  let b ← get
  if b.history.head?.any Keyword.isClause then
    set { b with keychain := b.keychain ++ [Key.scope connective []] }
  else pushToken (.ofConnective connective)

def requireKeys (keyword : Keyword) : Building (List Key) := do
  let keys := (← get).keychain
  if keys.isEmpty then malformed (.noKey keyword) else return keys

def operandsOf (args : List Arg) : Building (List Operand) := Operand.ofArgs 0 args

def pushLeaves (rs : Results) (keys : List Key) (leaf : Nat → Column → Except Error Expression) :
    Building Unit := do
  pushExpression rs (← Keychain.expression? leaf keys)

def compareKeys (rs : Results) (keyword : Keyword) (args : List Arg) : Building Unit := do
  let keys ← requireKeys keyword
  let operands ← operandsOf args
  pushLeaves rs keys fun _ c =>
    if keyword = .isNull then .ok (.comparison keyword c []) else Keychain.anyOf keyword operands c

def compareMembers (rs : Results) (args : List Arg) : Building Unit := do
  let keys ← requireKeys .isIn
  let operands ← operandsOf args
  let count := (Key.columnsOfAll keys).length
  pushLeaves rs keys fun i c =>
    .ok (.comparison .isIn c (Keychain.memberOperands count operands i))

def compareBounds (rs : Results) (args : List Arg) : Building Unit := do
  let keys ← requireKeys .between
  let operands ← operandsOf args
  let count := (Key.columnsOfAll keys).length
  if operands.length = 2 ∨ operands.length = 2 * count then
    pushLeaves rs keys fun i c => .ok (.comparison .between c (Keychain.bounds operands i))
  else malformed (.betweenBounds (2 * count) operands.length)

def requireRows (rs : Results) (args : List Arg) : Building Unit := do
  let operands ← operandsOf args
  pushExpression rs (some (.comparison .existsRows .rowKey operands))

def joinTarget : Arg → Building (Table × Option Column)
  | .table t => return (t, none)
  | .value (.string s) =>
    let c := Column.read s
    match c.table with
    | some t => return if Text.occursIn " AS ".toList s.toList then (Table.read s, none) else (t, some c)
    | none => return (Table.read s, none)
  | .column c =>
    match c.table with
    | some t => return (t, some c)
    | none => invalid (.joinTable c.name)
  | _ => invalid .joinTarget

def openJoin (keyword : Keyword) (args : List Arg) : Building Unit :=
  match keyword.joinKind? with
  | none => malformed (.noJoin keyword)
  | some kind => do
    match (← get).pending with
    | some pending => malformed (.openJoin pending.target.name)
    | none =>
      let (target, column) ← joinTarget (args.getLast?.getD (.value .null))
      if (← primary).any (·.name == target.name) then invalid (.selfJoin target.name)
      else modify fun b => { b with pending := some ⟨kind, target, column⟩ }

def joinColumns (keyword : Keyword) (pending : PendingJoin) (c : Column) : Building (Column × Column) := do
  if keyword = .usingColumn then
    return ((Column.named c.name).inTable (← primary), Column.ofTable pending.target c.name)
  else
    match pending.column with
    | some other => return (c.inTable (← primary), other.inTable (some pending.target))
    | none => malformed (.joinColumn pending.target.name)

def closeJoin (keyword : Keyword) (args : List Arg) : Building Unit := do
  match (← get).pending with
  | none => malformed (.noOpenJoin keyword)
  | some pending =>
    modify fun b => { b with pending := none }
    match args.getLast? with
    | none => invalid (.noColumn keyword)
    | some a =>
      let (own, other) ← joinColumns keyword pending (← columnOf keyword a)
      modifyPlan fun p => { p with joins := p.joins ++ [⟨pending.kind, own, other⟩] }

def setLimit (args : List Arg) : Building Unit :=
  match args.head?.bind Plan.limitNumber? with
  | some start =>
    modifyPlan fun p => { p with limit := some ⟨start, args[1]?.bind Plan.limitNumber?⟩ }
  | none => return

def sortKeyOf (table : Option Table) : Arg → Except Error SortKey
  | .value (.string s) =>
    match Text.words s.toList with
    | [c] => .ok ⟨(Column.read (String.ofList c)).inTable table, .read none⟩
    | [c, d] => .ok ⟨(Column.read (String.ofList c)).inTable table, .read (some (String.ofList d))⟩
    | _ => .error (.malformed (.sortEntry s))
  | .column c => .ok ⟨c.inTable table, .ascending⟩
  | _ => .error (.invalid .sortOperand)

def sortKeys (args : List Arg) : Building (List SortKey) := do
  let table ← primary
  args.mapM (m := Except Error) (sortKeyOf table)

def addUnions (keyword : Keyword) : List Arg → Building Unit
  | [] => return
  | .output o :: as => do
    modifyPlan fun p => { p with unions := p.unions ++ [⟨o, keyword == .union⟩] }
    addUnions keyword as
  | .reference query :: _ => malformed (.openReference query)
  | _ :: _ => malformed (.unionOperand keyword)

def setTables (keyword : Keyword) (args : List Arg) : Building Unit := do
  let tables ← args.mapM (tableOf keyword)
  modifyPlan fun p => { p with tables := tables }

def perform (rs : Results) (keyword : Keyword) (args : List Arg) : Building Unit :=
  match keyword with
  | .select => selectColumns [] [] args
  | .insert => insertData args
  | .delete => do
    let columns ← args.mapM (columnOf .delete)
    modifyPlan fun p => { p with columns := columns }
  | .update | .fromTables | .toTables => setTables keyword args
  | .setFields => setFields args
  | .distinct => modifyPlan fun p => { p with distinct := true }
  | .whereKeys => openKeys .whereKeys args
  | .havingKeys => openKeys .havingKeys args
  | .and => connect .and
  | .or => connect .or
  | .not => pushToken .not
  | .openGroup => pushToken .openGroup
  | .closeGroup => pushToken .closeGroup
  | .eq | .gt | .lt | .like | .isNull => compareKeys rs keyword args
  | .isIn => compareMembers rs args
  | .between => compareBounds rs args
  | .existsRows => requireRows rs args
  | .join | .leftJoin | .rightJoin | .fullJoin => openJoin keyword args
  | .onColumn | .usingColumn => closeJoin keyword args
  | .limit => setLimit args
  | .orderBy => do
    let keys ← sortKeys args
    modifyPlan fun p => { p with orderBy := keys }
  | .groupBy => do
    let keys ← sortKeys args
    modifyPlan fun p => { p with groupBy := keys }
  | .union | .unionAll => addUnions keyword args

/-- The first command named is the command of the plan. -/
def accept (keyword : Keyword) : Building Unit := do
  modifyPlan fun p => { p with command := p.command <|> keyword.command? }
  modify fun b => { b with history := keyword :: b.history }

def apply (rs : Results) (o : Operation) : Building Unit := do
  Plan.check o.keyword o.args
  perform rs o.keyword o.args
  accept o.keyword

def finish (b : Builder) : Except Error Plan :=
  match b.pending with
  | some pending => .error (.malformed (.openJoin pending.target.name))
  | none => .ok b.plan.resolve

end Builder

def Plan.ofScheme (rs : Results) (s : Scheme) : Except Error Plan :=
  match (s.forM (Builder.apply rs)).run Builder.empty with
  | (.ok (), b) => b.finish
  | (.error e, _) => .error e

end DocQuery
