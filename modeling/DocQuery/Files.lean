import DocQuery.Dict

namespace DocQuery

inductive Obstacle where
  | missing
  | noDirectory
  | directory
  deriving DecidableEq

def Obstacle.message : Obstacle → String
  | missing => "No such file or directory (os error 2)"
  | noDirectory => "Not a directory (os error 20)"
  | directory => "Is a directory (os error 21)"

structure Files where
  texts : Dict String
  directories : List String

namespace Files

abbrev Place := List String

namespace Place

def name (p : Place) : String := "/".intercalate p

def origin (path : String) : Place := if path.startsWith "/" then [""] else []

def advance (p : Place) (part : String) : Place :=
  if part = "" ∨ part = "." then p
  else if part ≠ ".." then p ++ [part]
  else
    match p.getLast? with
    | none | some ".." => p ++ [".."]
    | some "" => p
    | some _ => p.dropLast

end Place

def ofTexts (texts : Dict String) : Files := ⟨texts, []⟩

def isDirectory (files : Files) (p : Place) : Bool :=
  p.all (· == "..") || p == [""] || files.directories.contains p.name ||
    files.texts.any fun entry => entry.1.startsWith (p.name ++ "/")

def find (files : Files) (p : Place) : Except Obstacle String :=
  match Dict.find? p.name files.texts with
  | some text => .ok text
  | none => .error (if files.isDirectory p then .directory else .missing)

def follow (files : Files) (p : Place) : List String → Except Obstacle Place
  | [] => .ok p
  | part :: parts =>
    match files.find p with
    | .ok _ => .error .noDirectory
    | .error .directory => files.follow (p.advance part) parts
    | .error obstacle => .error obstacle

def place (files : Files) (path : String) : Except Obstacle Place :=
  if path = "" then .error .missing else files.follow (.origin path) (path.splitOn "/")

def text (files : Files) (path : String) : Except Obstacle String := files.place path >>= files.find

def text? (files : Files) (path : String) : Except Obstacle (Option String) :=
  match files.text path with
  | .ok text => .ok (some text)
  | .error .directory => .error .directory
  | .error _ => .ok none

def put (files : Files) (path text : String) : Files :=
  match files.place path with
  | .ok p => { files with texts := Dict.insert p.name text files.texts }
  | .error _ => files

def addDirectory (files : Files) (path : String) : Files :=
  match files.place path with
  | .ok p => { files with directories := p.name :: files.directories }
  | .error _ => files

end Files

end DocQuery
