import DocQuery.Batch

namespace DocQuery

structure Session where
  store : Store
  connected : Bool

namespace Session

def ofStore (store : Store) : Session := ⟨store, false⟩

def connect (s : Session) : Session := { s with connected := true }

def disconnect (s : Session) : Session := { s with connected := false }

def execute [Source] (s : Session) (schemes : List Scheme) : Except Error (List Value) × Session :=
  if s.connected then
    let (answer, store) := (Batch.run schemes).run s.store
    (answer, { s with store := store })
  else (.error .notConnected, s)

end Session

end DocQuery
