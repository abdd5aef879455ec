import DocQuery.Calendar.Date
import DocQuery.Text.Blank
import DocQuery.Number.Literal

namespace DocQuery.Calendar

structure Moment where
  date : Date
  hour : Nat
  minute : Nat
  second : Nat
  millis : Nat
  deriving DecidableEq

namespace Moment

def isValid (m : Moment) : Bool :=
  m.date.isValid && m.hour ≤ 23 && m.minute ≤ 59 && m.second ≤ 60

def start : Moment := ⟨⟨1970, 1, 1⟩, 0, 0, 0, 0⟩

def toMillis (m : Moment) : Int :=
  ((m.date.toDays * 24 + m.hour) * 60 + m.minute) * 60000 + m.second * 1000 + m.millis

def ofMillis? (n : Int) : Option Moment :=
  let time := (n % 86400000).toNat
  let date := Date.ofDays (n / 86400000)
  if yearInRange date.year then
    some ⟨date, time / 3600000, time / 60000 % 60, time / 1000 % 60, time % 1000⟩
  else none

end Moment

/-- An item of a pattern. A number may follow blanks and be shorter than its width; a space stands
for any blanks, also for none. -/
inductive Item where
  | year
  | month
  | day
  | hour
  | minute
  | second
  | fraction
  | space
  | mark (c : Char)

def digits? (width : Nat) (cs : List Char) : Option (List Char × List Char) :=
  let ds := (cs.take width).takeWhile Char.isDigit
  if ds = [] then none else some (ds, cs.drop ds.length)

def number? (width : Nat) (cs : List Char) : Option (Nat × List Char) := do
  let (ds, rest) ← digits? width (Text.trimLeft cs)
  return (Literal.digitsValue ds, rest)

def year? (cs : List Char) : Option (Int × List Char) :=
  match Text.trimLeft cs with
  | '-' :: cs => (digits? cs.length cs).map fun (ds, rest) => (-(Literal.digitsValue ds : Int), rest)
  | '+' :: cs => (digits? cs.length cs).map fun (ds, rest) => ((Literal.digitsValue ds : Int), rest)
  | cs => (digits? 4 cs).map fun (ds, rest) => ((Literal.digitsValue ds : Int), rest)

def millisOfDigits (ds : List Char) : Nat :=
  Literal.digitsValue ((ds ++ ['0', '0', '0']).take 3)

def fraction? : List Char → Option (Nat × List Char)
  | '.' :: cs => (digits? cs.length cs).map fun (ds, rest) => (millisOfDigits ds, rest)
  | cs => some (0, cs)

def mark? (c : Char) : List Char → Option (List Char)
  | [] => none
  | d :: cs => if c = d then some cs else none

def Item.read (m : Moment) (cs : List Char) : Item → Option (Moment × List Char)
  | .year => (year? cs).map fun (n, cs) => ({ m with date := { m.date with year := n } }, cs)
  | .month => (number? 2 cs).map fun (n, cs) => ({ m with date := { m.date with month := n } }, cs)
  | .day => (number? 2 cs).map fun (n, cs) => ({ m with date := { m.date with day := n } }, cs)
  | .hour => (number? 2 cs).map fun (n, cs) => ({ m with hour := n }, cs)
  | .minute => (number? 2 cs).map fun (n, cs) => ({ m with minute := n }, cs)
  | .second => (number? 2 cs).map fun (n, cs) => ({ m with second := n }, cs)
  | .fraction => (fraction? cs).map fun (n, cs) => ({ m with millis := n }, cs)
  | .space => some (m, Text.trimLeft cs)
  | .mark c => (mark? c cs).map fun cs => (m, cs)

def readItems (m : Moment) (cs : List Char) : List Item → Option (Moment × List Char)
  | [] => some (m, cs)
  | item :: items => do
    let (m, cs) ← item.read m cs
    readItems m cs items

def readBy? (pattern : List Item) (cs : List Char) : Option Moment := do
  let (m, rest) ← readItems Moment.start cs pattern
  if rest = [] ∧ m.isValid then some m else none

def datePattern : List Item := [.year, .mark '-', .month, .mark '-', .day]

def timePattern : List Item := [.hour, .mark ':', .minute, .mark ':', .second]

def patterns : List (List Item) :=
  [datePattern ++ .space :: timePattern, datePattern ++ .mark 'T' :: timePattern,
    datePattern ++ .space :: (timePattern ++ [.fraction]),
    datePattern ++ .mark 'T' :: (timePattern ++ [.fraction]), datePattern]

def fixed? (width : Nat) (cs : List Char) : Option (Nat × List Char) := do
  let (ds, rest) ← digits? width cs
  if ds.length = width then some (Literal.digitsValue ds, rest) else none

def zone? (cs : List Char) : Option Int :=
  match cs with
  | ['Z'] | ['z'] => some 0
  | c :: cs => do
    let west ← if c = '+' then some false else if c = '-' ∨ c = '−' then some true else none
    let (hours, cs) ← fixed? 2 cs
    let cs ← mark? ':' cs
    let (minutes, cs) ← fixed? 2 cs
    if cs = [] ∧ hours ≤ 23 ∧ minutes ≤ 59 then
      let n : Int := hours * 60 + minutes
      some (if west then -n else n)
    else none
  | [] => none

def fixedDate? (cs : List Char) : Option (Date × List Char) := do
  let (year, cs) ← fixed? 4 cs
  let cs ← mark? '-' cs
  let (month, cs) ← fixed? 2 cs
  let cs ← mark? '-' cs
  let (day, cs) ← fixed? 2 cs
  return (⟨year, month, day⟩, cs)

def fixedTime? (date : Date) (cs : List Char) : Option (Moment × List Char) := do
  let (hour, cs) ← fixed? 2 cs
  let cs ← mark? ':' cs
  let (minute, cs) ← fixed? 2 cs
  let cs ← mark? ':' cs
  let (second, cs) ← fixed? 2 cs
  let (millis, cs) ← fraction? cs
  return (⟨date, hour, minute, second, millis⟩, cs)

def separator? : List Char → Option (List Char)
  | c :: cs => if c = 'T' ∨ c = 't' ∨ c = ' ' then some cs else none
  | [] => none

def zoned? (cs : List Char) : Option Int := do
  let (date, cs) ← fixedDate? cs
  let cs ← separator? cs
  let (m, cs) ← fixedTime? date cs
  let offset ← zone? cs
  if m.isValid then some (m.toMillis - offset * 60000) else none

def millis? (s : String) : Option Int :=
  let cs := Text.trim s.toList
  zoned? cs <|> (patterns.findSome? (readBy? · cs)).map Moment.toMillis

def time? (s : String) : Option Moment := readBy? timePattern (Text.trim s.toList)

def padded (width n : Nat) : List Char :=
  let ds := (Nat.repr n).toList
  List.replicate (width - ds.length) '0' ++ ds

def yearText (y : Int) : List Char :=
  if 0 ≤ y ∧ y ≤ 9999 then padded 4 y.toNat
  else (if y < 0 then '-' else '+') :: padded 4 y.natAbs

def Item.write (m : Moment) : Item → List Char
  | .year => yearText m.date.year
  | .month => padded 2 m.date.month
  | .day => padded 2 m.date.day
  | .hour => padded 2 m.hour
  | .minute => padded 2 m.minute
  | .second => padded 2 m.second
  | .fraction => '.' :: padded 3 m.millis
  | .space => [' ']
  | .mark c => [c]

def Moment.write (m : Moment) (pattern : List Item) : String :=
  String.ofList (pattern.flatMap (Item.write m))

end DocQuery.Calendar
