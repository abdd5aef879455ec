import DocQuery.Plan.Builder
import DocQuery.Run

/-! Batches of schemes, run in order. A scheme may refer to the outputs of those before it; the
first one that fails ends the batch. -/

namespace DocQuery

namespace Batch

mutual

def resolveArg (index : Nat) (outputs : List Value) : Arg → Except Error Arg
  | .reference query =>
    match outputs[query]? with
    | some v => .ok (.output (.known v))
    | none => .error (.reference index query)
  | .scope connective items => (resolveArgs index outputs items).map (.scope connective)
  | a => .ok a

def resolveArgs (index : Nat) (outputs : List Value) : List Arg → Except Error (List Arg)
  | [] => .ok []
  | a :: as => do
    let a ← resolveArg index outputs a
    let as ← resolveArgs index outputs as
    .ok (a :: as)

end

def resolve (index : Nat) (outputs : List Value) (s : Scheme) : Except Error Scheme :=
  s.mapM fun o => (resolveArgs index outputs o.args).map fun args => { o with args := args }

variable [Source]

def runScheme (outputs : List Value) (s : Scheme) : Query Value := do
  let s ← resolve outputs.length outputs s
  let p ← Plan.ofScheme [] s
  p.run []

def runFrom (outputs : List Value) : List Scheme → Query (List Value)
  | [] => return outputs
  | s :: ss => do
    let v ← runScheme outputs s
    runFrom (outputs ++ [v]) ss

def run (schemes : List Scheme) : Query (List Value) := runFrom [] schemes

end Batch

end DocQuery
