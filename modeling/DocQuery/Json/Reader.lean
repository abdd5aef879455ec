import DocQuery.Json.Token
import DocQuery.Value

namespace DocQuery.Json

inductive Frame where
  | array (items : List Value)
  | object (fields : List (String × Value))
  | field (fields : List (String × Value)) (key : String)
  | skippedArray
  | skippedObject

namespace Frame

def isSkipped : Frame → Bool
  | skippedArray | skippedObject => true
  | _ => false

def isArray : Frame → Bool
  | array _ | skippedArray => true
  | _ => false

def close? : Frame → Token → Option Value
  | array items, .closeArray => some (.array items.reverse)
  | object fields, .closeObject => some (.object fields.reverse)
  | skippedArray, .closeArray | skippedObject, .closeObject => some .null
  | _, _ => none

def key? : Frame → Token → Option Frame
  | object fields, .string (some k) => some (field fields k)
  | skippedObject, .string _ => some skippedObject
  | _, _ => none

end Frame

inductive Expect where
  | value
  | first
  | key
  | colon
  | separator
  | nothing

structure State where
  frames : List Frame
  expect : Expect
  result : Value

namespace State

def start : State := ⟨[], .value, .null⟩

def put (s : State) (v : Value) : Option State :=
  match s.frames with
  | [] => some ⟨[], .nothing, v⟩
  | .array items :: fs => some ⟨.array (v :: items) :: fs, .separator, .null⟩
  | .field fields k :: fs => some ⟨.object ((k, v) :: fields) :: fs, .separator, .null⟩
  | .object _ :: _ => none
  | f :: fs => some ⟨f :: fs, .separator, .null⟩

/-- At most 127 arrays and objects are open at once, those that are skipped not counted. -/
def push (s : State) (f : Frame) : Option State :=
  if f.isSkipped || s.frames.length < 127 then some ⟨f :: s.frames, .first, .null⟩ else none

def value (skips : List Frame → Bool) (s : State) (t : Token) : Option State :=
  let skipped := skips s.frames || s.frames.head?.any Frame.isSkipped
  match t with
  | .openArray => s.push (if skipped then .skippedArray else .array [])
  | .openObject => s.push (if skipped then .skippedObject else .object [])
  | .null => s.put .null
  | .bool b => s.put (if skipped then .null else .bool b)
  | .number n => if skipped then s.put .null else n.bind fun n => s.put (.number n)
  | .string v => if skipped then s.put .null else v.bind fun v => s.put (.string v)
  | _ => none

def step (skips : List Frame → Bool) (s : State) (t : Token) : Option State :=
  match s.expect, s.frames with
  | .value, _ => s.value skips t
  | .first, f :: fs =>
    match f.close? t, f.key? t with
    | some v, _ => put ⟨fs, .value, .null⟩ v
    | none, some f => some ⟨f :: fs, .colon, .null⟩
    | none, none => if f.isArray then s.value skips t else none
  | .key, f :: fs => (f.key? t).map fun f => ⟨f :: fs, .colon, .null⟩
  | .colon, _ =>
    match t with
    | .colon => some { s with expect := .value }
    | _ => none
  | .separator, f :: fs =>
    match f.close? t, t with
    | some v, _ => put ⟨fs, .value, .null⟩ v
    | none, .comma => some { s with expect := if f.isArray then .value else .key }
    | none, _ => none
  | _, _ => none

end State

def ofTokens? (skips : List Frame → Bool) (ts : List Token) : Option Value := do
  let s ← ts.foldlM (State.step skips) .start
  match s.expect with
  | .nothing => some s.result
  | _ => none

/-- The value a text spells, its objects as they are written: with repeated keys and in the order
of the text. Values are skipped by the frames that they are in, and read as null. -/
def written? (skips : List Frame → Bool) (text : String) : Option Value := lex text >>= ofTokens? skips

def read? (text : String) : Option Value := (written? (fun _ => false) text).map Value.canonical

end DocQuery.Json
