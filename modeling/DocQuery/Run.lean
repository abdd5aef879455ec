import DocQuery.Run.Change
import DocQuery.Run.Select

namespace DocQuery

variable [Source]

def Plan.run (rs : Results) (p : Plan) : Query Value :=
  match p.command with
  | some .select => Select.run rs p
  | some .insert => Insert.run p
  | some .update => Update.run rs p
  | some .delete => Delete.run rs p
  | none => throw .noCommand

/-- Runs a plan and records its output under a name. An output recorded there before stays, and a plan
that fails records nothing. -/
def Plan.runAs (name : String) (rs : Results) (p : Plan) : Query (Value × Results) := do
  let v ← p.run rs
  return (v, (rs.record name v).2)

end DocQuery
