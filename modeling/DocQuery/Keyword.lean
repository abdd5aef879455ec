namespace DocQuery

inductive Connective where
  | and
  | or
  deriving DecidableEq

inductive JoinKind where
  | inner
  | left
  | right
  | full
  deriving DecidableEq

inductive Command where
  | select
  | insert
  | update
  | delete
  deriving DecidableEq

def Command.written : Command → String
  | select => "SELECT"
  | insert => "INSERT"
  | update => "UPDATE"
  | delete => "DELETE"

inductive Direction where
  | ascending
  | descending
  deriving DecidableEq

def Direction.apply : Direction → Ordering → Ordering
  | .ascending, o => o
  | .descending, o => o.swap

inductive Keyword where
  | select
  | insert
  | update
  | delete
  | fromTables
  | toTables
  | setFields
  | distinct
  | whereKeys
  | havingKeys
  | and
  | or
  | not
  | openGroup
  | closeGroup
  | eq
  | gt
  | lt
  | between
  | like
  | isIn
  | isNull
  | existsRows
  | join
  | leftJoin
  | rightJoin
  | fullJoin
  | onColumn
  | usingColumn
  | limit
  | orderBy
  | groupBy
  | union
  | unionAll
  deriving DecidableEq

namespace Keyword

def all : List Keyword :=
  [select, insert, update, delete, fromTables, toTables, setFields, distinct, whereKeys, havingKeys,
    and, or, not, openGroup, closeGroup, eq, gt, lt, between, like, isIn, isNull, existsRows, join,
    leftJoin, rightJoin, fullJoin, onColumn, usingColumn, limit, orderBy, groupBy, union, unionAll]

def written : Keyword → String
  | select => "SELECT"
  | insert => "INSERT"
  | update => "UPDATE"
  | delete => "DELETE"
  | fromTables => "FROM"
  | toTables => "TO"
  | setFields => "SET"
  | distinct => "DISTINCT"
  | whereKeys => "WHERE"
  | havingKeys => "HAVING"
  | and => "AND"
  | or => "OR"
  | not => "NOT"
  | openGroup => "OPEN_PARENTHESES"
  | closeGroup => "CLOSE_PARENTHESES"
  | eq => "EQ"
  | gt => "GT"
  | lt => "LT"
  | between => "BETWEEN"
  | like => "LIKE"
  | isIn => "IN"
  | isNull => "NULL"
  | existsRows => "EXISTS"
  | join => "JOIN"
  | leftJoin => "LEFT_JOIN"
  | rightJoin => "RIGHT_JOIN"
  | fullJoin => "FULL_JOIN"
  | onColumn => "ON"
  | usingColumn => "USING"
  | limit => "LIMIT"
  | orderBy => "ORDER_BY"
  | groupBy => "GROUP_BY"
  | union => "UNION"
  | unionAll => "UNION_ALL"

def label : Keyword → String
  | select => "Select"
  | insert => "Insert"
  | update => "Update"
  | delete => "Delete"
  | fromTables => "From"
  | toTables => "To"
  | setFields => "Set"
  | distinct => "Distinct"
  | whereKeys => "Where"
  | havingKeys => "Having"
  | and => "And"
  | or => "Or"
  | not => "Not"
  | openGroup => "OpenParentheses"
  | closeGroup => "CloseParentheses"
  | eq => "Eq"
  | gt => "Gt"
  | lt => "Lt"
  | between => "Between"
  | like => "Like"
  | isIn => "In"
  | isNull => "Null"
  | existsRows => "Exists"
  | join => "Join"
  | leftJoin => "LeftJoin"
  | rightJoin => "RightJoin"
  | fullJoin => "FullJoin"
  | onColumn => "On"
  | usingColumn => "Using"
  | limit => "Limit"
  | orderBy => "OrderBy"
  | groupBy => "GroupBy"
  | union => "Union"
  | unionAll => "UnionAll"

def ofWritten? (s : String) : Option Keyword := all.find? (·.written == s)

theorem ofWritten?_written (k : Keyword) : ofWritten? k.written = some k := by cases k <;> decide +kernel

def command? : Keyword → Option Command
  | select => some .select
  | insert => some .insert
  | update => some .update
  | delete => some .delete
  | _ => none

def isCommand (k : Keyword) : Bool := k.command?.isSome

theorem command?_eq_none {k : Keyword} (h : k.isCommand = false) : k.command? = none :=
  Option.not_isSome_iff_eq_none.mp (Bool.eq_false_iff.mp h)

def isClause : Keyword → Bool
  | whereKeys | havingKeys => true
  | _ => false

def isConnective : Keyword → Bool
  | and | or => true
  | _ => false

def joinKind? : Keyword → Option JoinKind
  | join => some .inner
  | leftJoin => some .left
  | rightJoin => some .right
  | fullJoin => some .full
  | _ => none

end Keyword

end DocQuery
