import DocQuery.Files
import DocQuery.Keyword
import DocQuery.Json.Printer

namespace DocQuery

inductive PlanFault where
  | insertPayload
  | setCount
  | setPayload
  | keyNotScope
  | noKey (keyword : Keyword)
  | betweenBounds (expected found : Nat)
  | noJoin (keyword : Keyword)
  | openJoin (table : String)
  | noOpenJoin (keyword : Keyword)
  | joinColumn (table : String)
  | sortEntry (text : String)
  | openReference (query : Nat)
  | unionOperand (keyword : Keyword)
  | noTarget (command : Command)
  | noSet

inductive ArgumentFault where
  | emptyClause (clause : Keyword)
  | firstKeyScope
  | noArguments (keyword : Keyword)
  | columnReference (keyword : Keyword)
  | argumentCount (keyword : Keyword) (found : Nat)
  | limitNumbers
  | existsOperand
  | tableNames (keyword : Keyword)
  | columnNames (keyword : Keyword)
  | noColumn (keyword : Keyword)
  | operand
  | joinTarget
  | joinTable (column : String)
  | selfJoin (table : String)
  | sortOperand

inductive StoreFault where
  | noTables (found : Value)
  | noRows (table : String)
  | readOnly
  | offline
  | unwritten (obstacle : Obstacle)

inductive Error where
  | malformed (fault : PlanFault)
  | invalid (fault : ArgumentFault)
  | noComparison (keyword : Keyword)
  | nesting (limit : Nat)
  | store (fault : StoreFault)
  | updates (failures : List (String × StoreFault))
  | inserts (failures : List (String × StoreFault))
  | noCommand
  | notConnected
  | reference (index query : Nat)
  | dataFile (fault : StoreFault)

def PlanFault.message : PlanFault → String
  | insertPayload => "INSERT expects row objects, got <arg>"
  | setCount => "Too many arguments for SET"
  | setPayload => "SET expects one object, got <arg>"
  | keyNotScope => "Key <arg> should be a logical operator scope"
  | noKey keyword => keyword.label ++ " without a WHERE or HAVING key"
  | betweenBounds expected found =>
    "BETWEEN expects 2 or " ++ Nat.repr expected ++ " bounds, got " ++ Nat.repr found
  | noJoin keyword => keyword.label ++ " is not a join"
  | openJoin table => "JOIN on \"" ++ table ++ "\" has no ON/USING"
  | noOpenJoin keyword => keyword.label ++ " without an open JOIN"
  | joinColumn table => "JOIN on \"" ++ table ++ "\" needs a column to match ON"
  | sortEntry text => "There is something wrong with this order by \"" ++ text ++ "\""
  | openReference query => "unresolved reference to query " ++ Nat.repr query
  | unionOperand keyword => keyword.label ++ " expects sub-query results, got <arg>"
  | noTarget command => command.written ++ " has no target table"
  | noSet => "UPDATE has no SET"

def ArgumentFault.message : ArgumentFault → String
  | emptyClause clause => "Empty " ++ clause.written ++ " clause"
  | firstKeyScope => "First condition key is logical operator"
  | noArguments keyword => keyword.label ++ " requires at least one argument"
  | columnReference keyword => keyword.label ++ " expects a column reference, got <arg>"
  | argumentCount keyword found =>
    keyword.label ++ " expects exactly one argument, got " ++ Nat.repr found
  | limitNumbers => "LIMIT expects one or two integers"
  | existsOperand => "EXISTS expects a single sub-query"
  | tableNames keyword => keyword.label ++ " expects table names, got <arg>"
  | columnNames keyword => keyword.label ++ " expects column names, got <arg>"
  | noColumn keyword => keyword.label ++ " expects a column"
  | operand => "expected a value or sub-query, got <arg>"
  | joinTarget => "JOIN expects a table or column, got <arg>"
  | joinTable column => "JOIN column \"" ++ column ++ "\" must name its table"
  | selfJoin table => "cannot join \"" ++ table ++ "\" to itself"
  | sortOperand => "cannot sort by <arg>"

def StoreFault.detail : StoreFault → String
  | noTables found => "expected an object of tables, got " ++ Json.compact found
  | noRows table => "table \"" ++ table ++ "\" is not an object of rows"
  | readOnly => "read-only"
  | offline => "offline"
  | unwritten obstacle => "IO error: " ++ obstacle.message

def StoreFault.message (f : StoreFault) : String := "Store error: " ++ f.detail

def Error.message : Error → String
  | malformed fault => "Malformed query: " ++ fault.message
  | invalid fault => "Validation error: " ++ fault.message
  | noComparison keyword => "No template for " ++ keyword.label
  | nesting limit => "Condition nesting exceeds " ++ Nat.repr limit ++ " levels"
  | store fault => fault.message
  | updates failures => "\n".intercalate (failures.map fun (table, fault) =>
    "\"" ++ table ++ "\" table update failed: " ++ fault.message)
  | inserts failures => "\n".intercalate (failures.map fun (table, fault) =>
    "Adding an entry to the \"" ++ table ++ "\" failed: " ++ fault.message)
  | noCommand => "Unsupported command: query has no SELECT, INSERT, UPDATE or DELETE"
  | notConnected => "Driver is not connected"
  | reference index query =>
    "Query " ++ Nat.repr index ++ " refers to query " ++ Nat.repr query ++
      ", which has not run before it"
  | dataFile fault => "Invalid data file: " ++ fault.message

end DocQuery
