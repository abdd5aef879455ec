import DocQuery.Error
import DocQuery.Scheme

namespace DocQuery.Plan

def checkSome (keyword : Keyword) (args : List Arg) : Except Error Unit :=
  if args.isEmpty then .error (.invalid (.noArguments keyword)) else .ok ()

def checkKeys (clause : Keyword) : List Arg → Except Error Unit
  | [] => .error (.invalid (.emptyClause clause))
  | .scope _ _ :: _ => .error (.invalid .firstKeyScope)
  | _ => .ok ()

def checkColumn (keyword : Keyword) : List Arg → Except Error Unit
  | [.column _] | [.table _] | [.value (.string _)] => .ok ()
  | [_] => .error (.invalid (.columnReference keyword))
  | args => .error (.invalid (.argumentCount keyword args.length))

def limitNumber? : Arg → Option Int
  | .value (.number (.int n)) =>
    some (if isInt64 n then n else clampInt64 (Number.int n).truncate)
  | .value (.number (.float x)) =>
    if Binary64.isIntegral x then some (clampInt64 (Binary64.truncate x)) else none
  | _ => none

def checkLimit (args : List Arg) : Except Error Unit :=
  if args.isEmpty || args.length > 2 || args.any (limitNumber? · |>.isNone) then
    .error (.invalid .limitNumbers)
  else .ok ()

def checkExists : List Arg → Except Error Unit
  | [.output _] | [.reference _] => .ok ()
  | _ => .error (.invalid .existsOperand)

def check (keyword : Keyword) (args : List Arg) : Except Error Unit :=
  match keyword with
  | .whereKeys | .havingKeys => checkKeys keyword args
  | .fromTables | .update | .toTables | .insert | .setFields | .union | .unionAll | .eq | .gt | .lt
  | .like | .isIn | .between | .orderBy | .groupBy => checkSome keyword args
  | .join | .leftJoin | .rightJoin | .fullJoin | .onColumn | .usingColumn => checkColumn keyword args
  | .limit => checkLimit args
  | .existsRows => checkExists args
  | _ => .ok ()

end DocQuery.Plan
