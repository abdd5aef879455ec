import DocQuery.Calendar.Moment
import DocQuery.Json.Token

namespace DocQuery.Toml

inductive Scalar where
  | string (s : String)
  | bool (b : Bool)
  | other

def isBlank (c : Char) : Bool := c == ' ' || c == '\t'

def isText (c : Char) : Bool := c == '\t' || (0x20 ≤ c.toNat && c.toNat ≠ 0x7F)

def skipBlanks (cs : List Char) : List Char := cs.dropWhile isBlank

def lineBreak? : List Char → Option (List Char)
  | '\n' :: cs => some cs
  | '\r' :: '\n' :: cs => some cs
  | _ => none

def skipSpace : List Char → List Char
  | [] => []
  | '\r' :: '\n' :: cs => skipSpace cs
  | c :: cs => if isBlank c || c == '\n' then skipSpace cs else c :: cs

def coded? (width : Nat) (cs : List Char) : Option (Char × List Char) := do
  let ds ← (cs.take width).mapM Json.hexValue?
  let n := ds.foldl (16 * · + ·) 0
  if ds.length = width ∧ n.isValidChar then some (Char.ofNat n, cs.drop width) else none

def escape? : List Char → Option (Char × List Char)
  | 'u' :: cs => coded? 4 cs
  | 'U' :: cs => coded? 8 cs
  | '/' :: _ => none
  | c :: cs => (Json.simpleEscape? c).map fun c => (c, cs)
  | [] => none

def basic? : Nat → List Char → List Char → Option (String × List Char)
  | 0, _, _ => none
  | fuel + 1, read, cs =>
    match cs with
    | [] => none
    | '"' :: cs => some (String.ofList read.reverse, cs)
    | '\\' :: cs => do
      let (c, cs) ← escape? cs
      basic? fuel (c :: read) cs
    | c :: cs => if isText c then basic? fuel (c :: read) cs else none

def closing? (quote : Char) : List Char → Option (List Char × List Char)
  | a :: b :: c :: cs =>
    if a = quote ∧ b = quote ∧ c = quote then
      let more := (cs.take 2).takeWhile (· = quote)
      some (more, cs.drop more.length)
    else none
  | _ => none

/-- The text of a long string, up to its end. Without `raw` there are escapes, and a backslash at the
end of a line takes away the space up to the next word. -/
def long? (quote : Char) (raw : Bool) : Nat → List Char → List Char → Option (String × List Char)
  | 0, _, _ => none
  | fuel + 1, read, cs =>
    match closing? quote cs, lineBreak? cs with
    | some (more, cs), _ => some (String.ofList (read.reverse ++ more), cs)
    | none, some cs => long? quote raw fuel ('\n' :: read) cs
    | none, none =>
      match cs with
      | [] => none
      | c :: cs =>
        if c = '\\' ∧ !raw then
          match lineBreak? (skipBlanks cs) with
          | some cs => long? quote raw fuel read (skipSpace cs)
          | none => do
            let (c, cs) ← escape? cs
            long? quote raw fuel (c :: read) cs
        else if isText c then long? quote raw fuel (c :: read) cs
        else none

def longBody (cs : List Char) : List Char := (lineBreak? cs).getD cs

def literal? (cs : List Char) : Option (String × List Char) :=
  match cs.span fun c => isText c && c != '\'' with
  | (s, '\'' :: cs) => some (String.ofList s, cs)
  | _ => none

def string? (cs : List Char) : Option (String × List Char) :=
  match cs with
  | '"' :: '"' :: '"' :: cs => long? '"' false (cs.length + 1) [] (longBody cs)
  | '"' :: cs => basic? (cs.length + 1) [] cs
  | '\'' :: '\'' :: '\'' :: cs => long? '\'' true (cs.length + 1) [] (longBody cs)
  | '\'' :: cs => literal? cs
  | _ => none

def isKeyChar (c : Char) : Bool := c.isAlphanum || c == '_' || c == '-'

def keyPart? (cs : List Char) : Option (String × List Char) :=
  match cs with
  | '"' :: cs => basic? (cs.length + 1) [] cs
  | '\'' :: cs => literal? cs
  | cs =>
    let word := cs.takeWhile isKeyChar
    if word = [] then none else some (String.ofList word, cs.drop word.length)

abbrev Key := List String × String

def key? (limit : Nat) (cs : List Char) : Option (Key × List Char) :=
  match limit with
  | 0 => none
  | limit + 1 => do
    let (part, cs) ← keyPart? (skipBlanks cs)
    match skipBlanks cs with
    | '.' :: cs => do
      let ((parts, last), cs) ← key? limit cs
      return ((part :: parts, last), cs)
    | cs => return (([], part), cs)

def isGrouped (isDigit : Char → Bool) : List Char → Bool
  | [] => false
  | [c] => isDigit c
  | c :: d :: cs => isDigit c && (if d = '_' then isGrouped isDigit cs else isGrouped isDigit (d :: cs))

def ungrouped (cs : List Char) : List Char := cs.filter (· ≠ '_')

def isWhole (cs : List Char) : Bool :=
  isGrouped Char.isDigit cs && (cs.length == 1 || cs.head? != some '0')

def isInteger (cs : List Char) : Bool :=
  let (negative, ds) := Literal.sign cs
  let n : Int := Literal.digitsValue (ungrouped ds)
  isWhole ds && isInt64 (if negative then -n else n)

def isOfBase (base : Nat) (cs : List Char) : Bool :=
  let digit? (c : Char) := (Json.hexValue? c).filter (· < base)
  isGrouped (digit? · |>.isSome) cs &&
    isInt64 ((ungrouped cs).foldl (fun n c => base * n + (digit? c).getD 0) 0 : Nat)

def isExponent : List Char → Bool
  | c :: cs => (c == 'e' || c == 'E') && isGrouped Char.isDigit (Literal.sign cs).2
  | [] => false

def isFloat (cs : List Char) : Bool :=
  let isPart (c : Char) := c.isDigit || c == '_'
  let (whole, rest) := (Literal.sign cs).2.span isPart
  let formed := match rest with
    | '.' :: rest =>
      let (fraction, rest) := rest.span isPart
      isGrouped Char.isDigit fraction && (rest.isEmpty || isExponent rest)
    | rest => isExponent rest
  isWhole whole && formed &&
    (Literal.read? (ungrouped cs)).any fun l => l.negative || Binary64.isFinite l.toFloat

def isNumber (cs : List Char) : Bool :=
  match cs with
  | '0' :: 'x' :: ds => isOfBase 16 ds
  | '0' :: 'o' :: ds => isOfBase 8 ds
  | '0' :: 'b' :: ds => isOfBase 2 ds
  | cs =>
    isInteger cs || isFloat cs || (Literal.sign cs).2 == ['i', 'n', 'f'] ||
      (Literal.sign cs).2 == ['n', 'a', 'n']

def isMoment (cs : List Char) : Bool :=
  match Calendar.fixedDate? cs with
  | some (date, []) => date.isValid
  | some (date, rest) =>
    ((Calendar.separator? rest).bind (Calendar.fixedTime? date)).any fun (m, zone) =>
      m.isValid && (zone.isEmpty || (Calendar.zone? zone).isSome)
  | none => (Calendar.fixedTime? Calendar.Moment.start.date cs).any fun (m, rest) =>
      m.isValid && rest.isEmpty

def isPlainChar (c : Char) : Bool := isKeyChar c || c == '+' || c == '.' || c == ':'

/-- The longest run that a number, a date or a truth value may be. A date takes along a time of day
after one blank. -/
def plainWord (cs : List Char) : List Char × List Char :=
  let (word, rest) := cs.span isPlainChar
  match rest with
  | ' ' :: c :: more =>
    if c.isDigit && (Calendar.fixedDate? word).any (·.2.isEmpty) then
      let (time, rest) := (c :: more).span isPlainChar
      (word ++ ' ' :: time, rest)
    else (word, rest)
  | rest => (word, rest)

def plain? (cs : List Char) : Option (Scalar × List Char) :=
  let (word, rest) := plainWord cs
  if word = ['t', 'r', 'u', 'e'] then some (.bool true, rest)
  else if word = ['f', 'a', 'l', 's', 'e'] then some (.bool false, rest)
  else if isNumber word || isMoment word then some (.other, rest)
  else none

end DocQuery.Toml
