import DocQuery.Function.Argument
import DocQuery.Text.Case
import DocQuery.Text.Search

/-! Functions of texts. Positions count characters from 1; a null text makes the result null. -/

namespace DocQuery.Function.Text

open DocQuery.Text (indexOf? parts replace cycle)

def maxLength : Nat := 64 * 1024 * 1024

def locate (needle cs : List Char) (start : Int) : Nat :=
  if start < 1 ∨ start > cs.length + 1 then 0
  else
    match indexOf? needle (cs.drop (start.toNat - 1)) with
    | some i => start.toNat + i
    | none => 0

def substring (cs : List Char) (position : Int) (length : Option Int) : List Char :=
  let start := if position < 0 then (cs.length : Int) + position else position - 1
  if position = 0 ∨ start < 0 then []
  else
    match length with
    | some n => (cs.drop start.toNat).take n.toNat
    | none => cs.drop start.toNat

def substringIndex (cs delimiter : List Char) (count : Int) : List Char :=
  if delimiter = [] ∨ count = 0 then []
  else
    let ps := parts delimiter cs
    if count.natAbs ≥ ps.length then cs
    else if count > 0 then delimiter.intercalate (ps.take count.natAbs)
    else delimiter.intercalate (ps.drop (ps.length - count.natAbs))

def insert (cs : List Char) (position length : Int) (new : List Char) : List Char :=
  if position < 1 ∨ position > cs.length then cs
  else
    let start := position.toNat - 1
    let rest := if length < 0 then [] else cs.drop (start + length.toNat)
    cs.take start ++ new ++ rest

def left (cs : List Char) (n : Int) : List Char := cs.take n.toNat

def right (cs : List Char) (n : Int) : List Char := cs.drop (cs.length - n.toNat)

def filling? (cs : List Char) (length : Int) (padding : List Char) : Option (List Char) :=
  if length < 0 ∨ length > maxLength then none
  else if length ≤ cs.length then some []
  else if padding = [] then none
  else some (cycle padding (length.toNat - cs.length))

def orNull (v : Option Value) : Value := v.getD .null

def pad (join : List Char → List Char → List Char) : Scalar := fun args => orNull do
  let cs ← text? args 0
  let length ← int? args 1
  let padding ← text? args 2
  let filling ← filling? cs length padding
  return ofChars (join (cs.take length.toNat) filling)

def ofText (f : List Char → Value) : Scalar := fun args => orNull do
  let cs ← text? args 0
  return f cs

def ofTextAndInt (f : List Char → Int → Value) : Scalar := fun args => orNull do
  let cs ← text? args 0
  let n ← int? args 1
  return f cs n

def trimStart (cs : List Char) : List Char := cs.dropWhile (· == ' ')

def trimEnd (cs : List Char) : List Char := (trimStart cs.reverse).reverse

def firstByte : List Char → Nat
  | [] => 0
  | c :: _ => ((String.utf8EncodeChar c).headD 0).toNat

def concat : Scalar := fun args =>
  if args.any Value.isNull then .null else .string (String.join (args.map Value.text))

def concatWith : Scalar := fun args => orNull do
  let separator ← text? args 0
  return ofChars (separator.intercalate (((args.drop 1).filter (!·.isNull)).map (·.text.toList)))

def position (i : Option Nat) : Value := .ofNat (i.elim 0 (· + 1))

def field : Scalar := fun args =>
  match text? args 0 with
  | some needle => position ((args.drop 1).findIdx? fun v => !v.isNull && v.text.toList == needle)
  | none => .int 0

def findInSet : Scalar := fun args => orNull do
  let needle ← text? args 0
  let list ← text? args 1
  return if list = [] then .int 0 else position ((parts [','] list).findIdx? (· == needle))

def insertAt : Scalar := fun args => orNull do
  let cs ← text? args 0
  let position ← int? args 1
  let length ← int? args 2
  let new ← text? args 3
  return ofChars (insert cs position length new)

def inText : Scalar := fun args => orNull do
  let cs ← text? args 0
  let needle ← text? args 1
  return .ofNat (locate needle cs 1)

def locateFrom : Scalar := fun args => orNull do
  let needle ← text? args 0
  let cs ← text? args 1
  return .ofNat (locate needle cs ((int? args 2).getD 1))

def repeated (cs : List Char) (n : Int) : Value :=
  if cs = [] then ofChars []
  else if cs.length * n.toNat ≤ maxLength then ofChars (List.replicate n.toNat cs).flatten
  else .null

def replaceAll : Scalar := fun args => orNull do
  let cs ← text? args 0
  let old ← text? args 1
  let new ← text? args 2
  return ofChars (if old = [] then cs else replace old new cs)

def spaces : Scalar := fun args => orNull do
  let n ← int? args 0
  return if n.toNat ≤ maxLength then ofChars (List.replicate n.toNat ' ') else .null

def sign : Ordering → Value
  | .lt => .int (-1)
  | .eq => .int 0
  | .gt => .int 1

def compareTexts : Scalar := fun args => orNull do
  let s ← text? args 0
  let t ← text? args 1
  return sign (compare (String.ofList s) (String.ofList t))

def byDelimiter : Scalar := fun args => orNull do
  let cs ← text? args 0
  let delimiter ← text? args 1
  let count ← int? args 2
  return ofChars (substringIndex cs delimiter count)

def part : Scalar := fun args =>
  ofTextAndInt (fun cs position => ofChars (substring cs position (int? args 2))) args

def table : List (String × Scalar) :=
  let charLength := ofText fun cs => .ofNat cs.length
  let lower := ofText fun cs => .string (DocQuery.Text.lower (String.ofList cs))
  let upper := ofText fun cs => .string (DocQuery.Text.upper (String.ofList cs))
  [("ASCII", ofText fun cs => .ofNat (firstByte cs)),
    ("CHAR_LENGTH", charLength),
    ("CHARACTER_LENGTH", charLength),
    ("LENGTH", ofText fun cs => .ofNat (String.ofList cs).utf8ByteSize),
    ("CONCAT", concat),
    ("CONCAT_WS", concatWith),
    ("FIELD", field),
    ("FIND_IN_SET", findInSet),
    ("INSERT", insertAt),
    ("INSTR", inText),
    ("LOCATE", locateFrom),
    ("POSITION", locateFrom),
    ("LCASE", lower),
    ("LOWER", lower),
    ("UCASE", upper),
    ("UPPER", upper),
    ("LEFT", ofTextAndInt fun cs n => ofChars (left cs n)),
    ("RIGHT", ofTextAndInt fun cs n => ofChars (right cs n)),
    ("LPAD", pad fun cs filling => filling ++ cs),
    ("RPAD", pad fun cs filling => cs ++ filling),
    ("LTRIM", ofText fun cs => ofChars (trimStart cs)),
    ("RTRIM", ofText fun cs => ofChars (trimEnd cs)),
    ("TRIM", ofText fun cs => ofChars (trimEnd (trimStart cs))),
    ("MID", part),
    ("SUBSTR", part),
    ("SUBSTRING", part),
    ("REPEAT", ofTextAndInt repeated),
    ("REPLACE", replaceAll),
    ("REVERSE", ofText fun cs => ofChars cs.reverse),
    ("SPACE", spaces),
    ("STRCMP", compareTexts),
    ("SUBSTRING_INDEX", byDelimiter)]

end DocQuery.Function.Text
