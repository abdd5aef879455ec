namespace DocQuery.Text

def indexOf? (needle : List Char) : List Char → Option Nat
  | [] => if needle = [] then some 0 else none
  | c :: cs => if needle.isPrefixOf (c :: cs) then some 0 else (indexOf? needle cs).map (· + 1)

def occursIn (needle cs : List Char) : Bool := (indexOf? needle cs).isSome

def consPart (c : Char) : List (List Char) → List (List Char)
  | [] => [[c]]
  | part :: parts => (c :: part) :: parts

/-- The parts around the occurrences of a delimiter, found from the left without overlap; the
first number of characters belongs to one found already. -/
def partsFrom (delimiter : List Char) : Nat → List Char → List (List Char)
  | _, [] => [[]]
  | taken + 1, _ :: cs => partsFrom delimiter taken cs
  | 0, c :: cs =>
    if delimiter.isPrefixOf (c :: cs) then [] :: partsFrom delimiter (delimiter.length - 1) cs
    else consPart c (partsFrom delimiter 0 cs)

def parts (delimiter cs : List Char) : List (List Char) := partsFrom delimiter 0 cs

def replace (old new cs : List Char) : List Char := new.intercalate (parts old cs)

def cycle (cs : List Char) (n : Nat) : List Char :=
  (List.range n).filterMap fun i => cs[i % cs.length]?

end DocQuery.Text
