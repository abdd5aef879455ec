import DocQuery.Dict
import DocQuery.Text.Blank
import DocQuery.Text.Letter

/-! Files of environment variables: lines `NAME=value`, with quotes, escapes, comments, and other
variables put in for `$NAME`. Reading ends at the first line that is no such line. -/

namespace DocQuery.EnvFile

inductive Place where
  | plain
  | blank
  | escape
  | double
  | doubleEscape
  | single
  | singleEscape
  deriving DecidableEq

def Place.ofPlain (c : Char) : Place :=
  if c = '\\' then .escape
  else if c = '"' then .double
  else if c = '\'' then .single
  else .plain

def Place.next (p : Place) (c : Char) : Option Place :=
  match p with
  | .plain => some (if Text.isBlank c && c != '\n' && c != '\r' then .blank else .ofPlain c)
  | .blank => if c = '#' then none else some (.ofPlain c)
  | .escape => some .plain
  | .double => some (if c = '\\' then .doubleEscape else if c = '"' then .plain else .double)
  | .doubleEscape => some .double
  | .single => some (if c = '\\' then .singleEscape else if c = '\'' then .plain else .single)
  | .singleEscape => some .single

def scan (p : Place) : List Char → List Char × Option Place
  | [] => ([], some p)
  | c :: cs =>
    match p.next c with
    | none => ([], none)
    | some q =>
      let (read, final) := scan q cs
      (c :: read, final)

def rawLines (cs : List Char) : List (List Char) :=
  cs.foldr (fun c ls =>
    if c = '\n' then [c] :: ls
    else match ls with
      | [] => [[c]]
      | l :: ls => (c :: l) :: ls) []

def dropBreak (cs : List Char) : List Char :=
  match cs.reverse with
  | '\n' :: '\r' :: rest | '\n' :: rest => rest.reverse
  | _ => cs

def isComment (cs : List Char) : Bool := (Text.trimLeft cs).head? == some '#'

/-- Lines put together where quotes or escapes are open at their end; `none` stands for text that the
file breaks off. -/
def lines (read : List Char) (p : Place) : List (List Char) → List (Option (List Char))
  | [] => if read = [] then [] else [none]
  | l :: ls =>
    if isComment (read ++ l) then lines [] .plain ls
    else
      match scan p l with
      | (text, none) => some (read ++ text) :: lines [] .plain ls
      | (_, some .plain) => some (dropBreak (read ++ l)) :: lines [] .plain ls
      | (_, some q) => lines (read ++ l) q ls

def lookup (env : Dict String) (name : List Char) : List Char :=
  ((Dict.find? (String.ofList name) env).getD "").toList

inductive Mode where
  | text
  | escape
  | single
  | name (read : List Char)
  | braced (read : List Char)
  | done

structure Reading where
  mode : Mode
  double : Bool
  read : List Char

def escaped? (c : Char) : Option Char :=
  if ['\\', '\'', '"', '$', ' '].contains c then some c
  else if c = 'n' then some '\n'
  else none

namespace Reading

def start : Reading := ⟨.text, false, []⟩

def put (r : Reading) (cs : List Char) : Reading := { r with mode := .text, read := cs.reverse ++ r.read }

def stepText (r : Reading) (c : Char) : Reading :=
  if c = '$' then { r with mode := .name [] }
  else if c = '"' then { r with double := !r.double }
  else if c = '\\' then { r with mode := .escape }
  else if r.double then r.put [c]
  else if c = '\'' then { r with mode := .single }
  else if c = ' ' ∨ c = '\t' then { r with mode := .done }
  else r.put [c]

/-- The next character. A name without braces is letters and digits; what ends it counts as text,
quotes too. -/
def step (env : Dict String) (r : Reading) (c : Char) : Option Reading :=
  match r.mode with
  | .text => some (r.stepText c)
  | .escape => (escaped? c).map fun c => r.put [c]
  | .single => some (if c = '\'' then { r with mode := .text } else { r with read := c :: r.read })
  | .name name =>
    if Text.isAlphanumeric c then some { r with mode := .name (name ++ [c]) }
    else if c = '\x7b' ∧ name = [] then some { r with mode := .braced [] }
    else if c = '$' then some { r.put (lookup env name) with mode := .name [] }
    else some (r.put (lookup env name ++ [c]))
  | .braced name =>
    some (if c = '\x7d' then r.put (lookup env name) else { r with mode := .braced (name ++ [c]) })
  | .done => if c = ' ' ∨ c = '\t' then some r else none

def run (env : Dict String) (r : Reading) : List Char → Option Reading
  | [] => some r
  | c :: cs =>
    match r.mode, c with
    | .done, '#' => some r
    | _, c => (r.step env c).bind (run env · cs)

def finish (env : Dict String) (r : Reading) : Option String :=
  match r.mode, r.double with
  | .single, _ | .braced _, _ | _, true => none
  | .name name, false => some (String.ofList (r.put (lookup env name)).read.reverse)
  | _, false => some (String.ofList r.read.reverse)

end Reading

def value? (env : Dict String) (cs : List Char) : Option String :=
  if cs = [] ∨ cs.head? = some '#' then some ""
  else (Reading.start.run env cs).bind (Reading.finish env)

def isNamePart (c : Char) : Bool := c.isAlphanum || c == '_' || c == '.'

def name? (cs : List Char) : Option (String × List Char) :=
  let name := cs.takeWhile isNamePart
  if name.head?.any fun c => c.isAlpha || c == '_' then
    some (String.ofList name, Text.trimLeft (cs.drop name.length))
  else none

def assignment? (env : Dict String) (cs : List Char) : Option (String × String) := do
  let (name, rest) ← name? cs
  let (name, rest) ←
    if name = "export" ∧ rest.head? ≠ some '=' then name? rest else some (name, rest)
  match rest with
  | '=' :: cs => return (name, ← value? env (Text.trimLeft cs))
  | _ => none

def loadLines (env : Dict String) : List (Option (List Char)) → Dict String
  | [] => env
  | none :: _ => env
  | some l :: ls =>
    let cs := Text.trim l
    if cs = [] ∨ cs.head? = some '#' then loadLines env ls
    else
      match assignment? env cs with
      | none => env
      | some (name, value) => loadLines (if Dict.contains name env then env else Dict.insert name value env) ls

def load (env : Dict String) (text : String) : Dict String :=
  let cs := match text.toList with
    | '\ufeff' :: cs => cs
    | cs => cs
  loadLines env (lines [] .plain (rawLines cs))

def names (text : String) : List String :=
  let wordsOf (isPart : Char → Bool) := Text.words (text.toList.map fun c => if isPart c then c else ' ')
  (wordsOf isNamePart ++ wordsOf Text.isAlphanumeric ++
    wordsOf fun c => c != '\x7b' && c != '\x7d').map String.ofList

end DocQuery.EnvFile
