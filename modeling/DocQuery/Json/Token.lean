import DocQuery.Number

namespace DocQuery.Json

/-- Numbers and texts are `none` if they are well-formed, but no double is near or no character is
meant. -/
inductive Token where
  | openArray
  | closeArray
  | openObject
  | closeObject
  | comma
  | colon
  | null
  | bool (b : Bool)
  | number (n : Option Number)
  | string (s : Option String)

def hexValue? (c : Char) : Option Nat :=
  if '0' ≤ c ∧ c ≤ '9' then some (c.toNat - '0'.toNat)
  else if 'a' ≤ c ∧ c ≤ 'f' then some (c.toNat - 'a'.toNat + 10)
  else if 'A' ≤ c ∧ c ≤ 'F' then some (c.toNat - 'A'.toNat + 10)
  else none

def unit? (a b c d : Char) : Option Nat := do
  let a ← hexValue? a
  let b ← hexValue? b
  let c ← hexValue? c
  let d ← hexValue? d
  return ((a * 16 + b) * 16 + c) * 16 + d

def simpleEscape? : Char → Option Char
  | '"' => some '"'
  | '\\' => some '\\'
  | '/' => some '/'
  | 'b' => some '\x08'
  | 'f' => some '\x0c'
  | 'n' => some '\n'
  | 'r' => some '\r'
  | 't' => some '\t'
  | _ => none

def isHigh (n : Nat) : Bool := 0xD800 ≤ n && n < 0xDC00

def isLow (n : Nat) : Bool := 0xDC00 ≤ n && n < 0xE000

/-- A character in quotes, or a unit of 16 bits given by its digits. -/
inductive Piece where
  | char (c : Char)
  | unit (n : Nat)

def pieces (read : List Piece) : List Char → Option (List Piece × List Char)
  | [] => none
  | '"' :: cs => some (read.reverse, cs)
  | '\\' :: 'u' :: a :: b :: c :: d :: cs => do
    let n ← unit? a b c d
    pieces (.unit n :: read) cs
  | '\\' :: c :: cs => do
    let c ← simpleEscape? c
    pieces (.char c :: read) cs
  | c :: cs => if c.toNat < 0x20 || c == '\\' then none else pieces (.char c :: read) cs

/-- The text of some pieces. Two units may be a surrogate pair, and half a pair is no character. -/
def textOf? (read : List Char) : List Piece → Option String
  | [] => some (String.ofList read.reverse)
  | .char c :: ps => textOf? (c :: read) ps
  | .unit n :: .unit m :: ps =>
    if isHigh n then
      if isLow m then textOf? (Char.ofNat (0x10000 + (n - 0xD800) * 0x400 + (m - 0xDC00)) :: read) ps
      else none
    else if isLow n then none
    else textOf? (Char.ofNat n :: read) (.unit m :: ps)
  | .unit n :: ps => if isHigh n || isLow n then none else textOf? (Char.ofNat n :: read) ps

def numeral (cs : List Char) : List Char × List Char :=
  cs.span fun c => c.isDigit || c == '-' || c == '+' || c == '.' || c == 'e' || c == 'E'

def wellFormed (cs : List Char) : Bool :=
  let (whole, rest) := (if cs.head? = some '-' then cs.drop 1 else cs).span Char.isDigit
  let fraction := match rest with
    | '.' :: c :: _ => c.isDigit
    | '.' :: [] => false
    | _ => true
  whole ≠ [] && (whole.length = 1 || whole.head? ≠ some '0') && cs.head? ≠ some '+' && fraction

/-- A number without fraction and exponent that fits a word of 64 bits is an integer; any other is
the nearest double, if there is one. A zero with a sign is a double. -/
def number? (cs : List Char) : Option (Option Number) := do
  guard (wellFormed cs)
  let l ← Literal.read? cs
  let n : Int := if l.negative then -l.digits else l.digits
  let isInteger := cs.all fun c => c.isDigit || c == '-'
  if isInteger && leastInt64 ≤ n && n < wordSize && !(l.negative && l.digits == 0) then
    return some (.int n)
  else
    let x := l.toFloat
    return if Binary64.isFinite x then some (.float x) else none

def isSpace (c : Char) : Bool := c == ' ' || c == '\n' || c == '\t' || c == '\r'

/-- The next token and the text after it; `fuel` bounds the number of characters. -/
def lexFrom : Nat → List Char → Option (List Token)
  | 0, cs => if cs = [] then some [] else none
  | fuel + 1, cs =>
    match cs with
    | [] => some []
    | '[' :: cs => (lexFrom fuel cs).map (.openArray :: ·)
    | ']' :: cs => (lexFrom fuel cs).map (.closeArray :: ·)
    | '\x7b' :: cs => (lexFrom fuel cs).map (.openObject :: ·)
    | '\x7d' :: cs => (lexFrom fuel cs).map (.closeObject :: ·)
    | ',' :: cs => (lexFrom fuel cs).map (.comma :: ·)
    | ':' :: cs => (lexFrom fuel cs).map (.colon :: ·)
    | 'n' :: 'u' :: 'l' :: 'l' :: cs => (lexFrom fuel cs).map (.null :: ·)
    | 't' :: 'r' :: 'u' :: 'e' :: cs => (lexFrom fuel cs).map (.bool true :: ·)
    | 'f' :: 'a' :: 'l' :: 's' :: 'e' :: cs => (lexFrom fuel cs).map (.bool false :: ·)
    | '"' :: cs => do
      let (ps, cs) ← pieces [] cs
      (lexFrom fuel cs).map (.string (textOf? [] ps) :: ·)
    | c :: cs =>
      if isSpace c then lexFrom fuel cs
      else do
        let (digits, rest) := numeral (c :: cs)
        let n ← number? digits
        (lexFrom fuel rest).map (.number n :: ·)

def lex (text : String) : Option (List Token) :=
  let cs := text.toList
  lexFrom cs.length cs

end DocQuery.Json
