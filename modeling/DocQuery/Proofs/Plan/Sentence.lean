import DocQuery.Plan.Builder
import DocQuery.Proofs.Condition.Flattening

/-! Sentences of conditions, as schemes spell them: comparisons of one column, negated, in brackets,
and one after the other with `AND`, `OR` or nothing between them. `NOT` binds tighter than `AND`,
and `AND` tighter than `OR`; nothing stands for `AND`. -/

namespace DocQuery

inductive Subject where
  | text (s : String)
  | column (c : Column)

def Subject.arg : Subject → Arg
  | text s => .value (.string s)
  | column c => .column c

def Subject.named : Subject → Column
  | text s => Column.read s
  | column c => c

inductive Plain where
  | value (v : Value)
  | output (o : Output)

def Plain.arg : Plain → Arg
  | value v => .value v
  | output o => .output o

def Plain.operand : Plain → Operand
  | value v => .value v
  | output o => .output o

def Keyword.Takes (count : Nat) : Keyword → Prop
  | eq | gt | lt | like | isIn => 0 < count
  | between => count = 2
  | isNull => True
  | _ => False

structure Comparison where
  subject : Subject
  keyword : Keyword
  operands : List Plain
  takes : keyword.Takes operands.length

mutual

inductive Atom where
  | comparison (x : Comparison)
  | not (a : Atom)
  | group (s : Sentence)

inductive Sentence where
  | atom (a : Atom)
  | link (a : Atom) (connective : Option Connective) (s : Sentence)

end

def Connective.operation : Connective → Operation
  | .and => ⟨.and, []⟩
  | .or => ⟨.or, []⟩

def Comparison.operations (x : Comparison) : Scheme :=
  [⟨.whereKeys, [x.subject.arg]⟩, ⟨x.keyword, x.operands.map Plain.arg⟩]

mutual

def Atom.operations : Atom → Scheme
  | .comparison x => x.operations
  | .not a => ⟨.not, []⟩ :: a.operations
  | .group s => ⟨.openGroup, []⟩ :: s.operations ++ [⟨.closeGroup, []⟩]

def Sentence.operations : Sentence → Scheme
  | .atom a => a.operations
  | .link a connective s => a.operations ++ (connective.map Connective.operation).toList ++ s.operations

end

section

variable (made rs : Results) (row : Row) (table : Option Table)

def Comparison.column (x : Comparison) : Column := x.subject.named.inTable table

def Comparison.tested (x : Comparison) (operands : List Operand) : Verdict :=
  (Test.ofKeyword? made x.keyword (x.column table) operands).bind fun test => test.eval rs row

def Comparison.verdict (x : Comparison) : Verdict :=
  match x.keyword with
  | .isNull | .isIn | .between => x.tested made rs row table (x.operands.map Plain.operand)
  | _ => Verdict.any (x.operands.map fun o => x.tested made rs row table [o.operand])

mutual

def Atom.verdict : Atom → Verdict
  | .comparison x => x.verdict made rs row table
  | .not a => a.verdict.map (!·)
  | .group s => Verdict.any ((s.terms.1 :: s.terms.2).map Verdict.all)

def Sentence.terms : Sentence → List Verdict × List (List Verdict)
  | .atom a => ([a.verdict], [])
  | .link a (some .or) s => ([a.verdict], s.terms.1 :: s.terms.2)
  | .link a _ s => (a.verdict :: s.terms.1, s.terms.2)

end

def Sentence.verdict (s : Sentence) : Verdict :=
  Verdict.any (((s.terms made rs row table).1 :: (s.terms made rs row table).2).map Verdict.all)

def Comparison.expression (x : Comparison) : Expression :=
  match x.keyword with
  | .isNull => .comparison .isNull (x.column table) []
  | .isIn | .between => .comparison x.keyword (x.column table) (x.operands.map Plain.operand)
  | _ => (Keychain.joined .or (x.operands.map fun o =>
      .comparison x.keyword (x.column table) [o.operand])).getD (.comparison x.keyword (x.column table) [])

def Comparison.tokens (x : Comparison) : List Token :=
  ((x.expression table).tokens made 0).toOption.getD []

mutual

def Atom.tokens : Atom → List Token
  | .comparison x => x.tokens made table
  | .not a => .not :: a.tokens
  | .group s => .openGroup :: s.tokens ++ [.closeGroup]

def Sentence.tokens : Sentence → List Token
  | .atom a => a.tokens
  | .link a connective s => a.tokens ++ .ofConnective (connective.getD .and) :: s.tokens

end

end

end DocQuery
