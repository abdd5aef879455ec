import DocQuery.Dict
import DocQuery.Toml.Scalar

/-! The tables of a TOML text: which lines may add to which tables. A table has one header at most,
and what a header or a value defines is closed to dotted keys. -/

namespace DocQuery.Toml

/-- How a table came to be: by a header of its own, by the header of a table in it, or by a dotted
key. -/
inductive Origin where
  | header
  | implied
  | dotted
  deriving DecidableEq

/-- Of a list of tables the last one is kept: lines add to no other. -/
inductive Node where
  | leaf (v : Scalar)
  | table (origin : Origin) (fields : List (String × Node))
  | tables (last : List (String × Node))

structure Table where
  origin : Origin
  fields : Dict Node

namespace Table

def root : Table := ⟨.header, []⟩

def change (dotted : Bool) (f : Table → Option Table) : List String → Table → Option Table
  | [], t => f t
  | k :: ks, t =>
    match (Dict.find? k t.fields).getD (.table (if dotted then .dotted else .implied) []) with
    | .leaf _ => none
    | .tables last => do
      let last ← change dotted f ks ⟨.header, last⟩
      return { t with fields := Dict.insert k (.tables last.fields) t.fields }
    | .table origin fields =>
      if dotted && origin = .header then none
      else do
        let inner ← change dotted f ks ⟨origin, fields⟩
        return { t with fields := Dict.insert k (.table inner.origin inner.fields) t.fields }

def assign (key : Key) (v : Scalar) : Table → Option Table :=
  change true (fun t =>
    if (t.origin == .dotted) == key.1.isEmpty || Dict.contains key.2 t.fields then none
    else some { t with fields := Dict.insert key.2 (.leaf v) t.fields }) key.1

def open? (key : Key) : Table → Option Table :=
  change false (fun t =>
    match Dict.find? key.2 t.fields with
    | none => some { t with fields := Dict.insert key.2 (.table .header []) t.fields }
    | some (.table .implied fields) =>
      some { t with fields := Dict.insert key.2 (.table .header fields) t.fields }
    | some _ => none) key.1

def openNext? (key : Key) : Table → Option Table :=
  change false (fun t =>
    match Dict.find? key.2 t.fields with
    | none | some (.tables _) => some { t with fields := Dict.insert key.2 (.tables []) t.fields }
    | some _ => none) key.1

end Table

end DocQuery.Toml
