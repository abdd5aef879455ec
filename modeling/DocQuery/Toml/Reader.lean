import DocQuery.Toml.Tree

namespace DocQuery.Toml

def maxDepth : Nat := 80

def skipComment : List Char → List Char
  | '#' :: cs => cs.dropWhile isText
  | cs => cs

def skipLines : Nat → List Char → List Char
  | 0, cs => cs
  | fuel + 1, cs =>
    match skipSpace cs with
    | '#' :: cs => skipLines fuel (cs.dropWhile isText)
    | cs => cs

def lineEnd? (cs : List Char) : Option (List Char) :=
  match skipComment (skipBlanks cs) with
  | [] => some []
  | cs => lineBreak? cs

def assignment? (cs : List Char) : Option (Key × List Char) := do
  let (key, cs) ← key? (maxDepth - 1) cs
  match cs with
  | '=' :: cs => some (key, skipBlanks cs)
  | _ => none

mutual

def value? : Nat → Nat → List Char → Option (Scalar × List Char)
  | 0, _, _ => none
  | fuel + 1, depth, cs =>
    match cs with
    | '"' :: _ | '\'' :: _ => (string? cs).map fun (s, cs) => (.string s, cs)
    | '[' :: cs =>
      if depth + 1 < maxDepth then (items? fuel (depth + 1) cs).map fun cs => (.other, cs) else none
    | '\x7b' :: cs =>
      if depth + 1 < maxDepth then (fields? fuel (depth + 1) .root true cs).map fun cs => (.other, cs)
      else none
    | cs => plain? cs

def items? : Nat → Nat → List Char → Option (List Char)
  | 0, _, _ => none
  | fuel + 1, depth, cs =>
    match skipLines cs.length cs with
    | ']' :: cs => some cs
    | cs => do
      let (_, cs) ← value? fuel depth cs
      match skipLines cs.length cs with
      | ',' :: cs => items? fuel depth cs
      | ']' :: cs => some cs
      | _ => none

def fields? : Nat → Nat → Table → Bool → List Char → Option (List Char)
  | 0, _, _, _, _ => none
  | fuel + 1, depth, t, start, cs =>
    match skipBlanks cs, start with
    | '\x7d' :: cs, true => some cs
    | cs, _ => do
      let (key, cs) ← assignment? cs
      let (v, cs) ← value? fuel depth cs
      let t ← t.assign key v
      match skipBlanks cs with
      | ',' :: cs => fields? fuel depth t false cs
      | '\x7d' :: cs => some cs
      | _ => none

end

structure Document where
  root : Table
  current : List String

namespace Document

def empty : Document := ⟨.root, []⟩

def line? (d : Document) (cs : List Char) : Option (Document × List Char) :=
  match cs with
  | '[' :: '[' :: cs => do
    let (key, cs) ← key? (maxDepth - 1) cs
    let root ← d.root.openNext? key
    match cs with
    | ']' :: ']' :: cs => some (⟨root, key.1 ++ [key.2]⟩, cs)
    | _ => none
  | '[' :: cs => do
    let (key, cs) ← key? (maxDepth - 1) cs
    let root ← d.root.open? key
    match cs with
    | ']' :: cs => some (⟨root, key.1 ++ [key.2]⟩, cs)
    | _ => none
  | cs => do
    let (key, cs) ← assignment? cs
    let (v, cs) ← value? (cs.length + 1) 0 cs
    let root ← d.root.change false (Table.assign key v) d.current
    return (⟨root, d.current⟩, cs)

def lines? : Nat → Document → List Char → Option Document
  | 0, _, _ => none
  | fuel + 1, d, cs =>
    if cs = [] then some d
    else
      match lineEnd? cs with
      | some cs => lines? fuel d cs
      | none => do
        let (d, cs) ← d.line? (skipBlanks cs)
        let cs ← lineEnd? cs
        lines? fuel d cs

end Document

def read? (text : String) : Option (Dict Node) :=
  let cs := match text.toList with
    | '\ufeff' :: cs => cs
    | cs => cs
  (Document.lines? (cs.length + 1) .empty cs).map (·.root.fields)

end DocQuery.Toml
