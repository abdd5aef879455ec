import DocQuery.Settings.EnvFile
import DocQuery.Toml.Reader

namespace DocQuery

structure Settings where
  dataFile : String
  logFilter : String
  pretty : Bool
  deriving DecidableEq

namespace Settings

def default : Settings := ⟨"docsql.json", "docsql=info", false⟩

def fileName : String := "docsql.toml"

def envFileName : String := ".env"

def dataFileVariable : String := "DOCSQL_DATA_FILE"

def logVariable : String := "DOCSQL_LOG"

def prettyVariable : String := "DOCSQL_PRETTY"

def string? : Toml.Node → Option String
  | .leaf (.string s) => some s
  | _ => none

def bool? : Toml.Node → Option Bool
  | .leaf (.bool b) => some b
  | _ => none

def entry? {α : Type} (read : Toml.Node → Option α) (default : α) (name : String) (fields : Dict Toml.Node) :
    Option α :=
  match Dict.find? name fields with
  | some node => read node
  | none => some default

def ofText? (text : String) : Option Settings := do
  let fields ← Toml.read? text
  return ⟨← entry? string? default.dataFile "data_file" fields,
    ← entry? string? default.logFilter "log_filter" fields,
    ← entry? bool? default.pretty "pretty" fields⟩

def boolOfText? : String → Option Bool
  | "true" => some true
  | "false" => some false
  | _ => none

def setValue? (env : Dict String) (name : String) : Option String :=
  (Dict.find? name env).filter (· ≠ "")

def override (env : Dict String) (s : Settings) : Settings :=
  ⟨(setValue? env dataFileVariable).getD s.dataFile, (setValue? env logVariable).getD s.logFilter,
    ((setValue? env prettyVariable).bind boolOfText?).getD s.pretty⟩

/-- The settings of a directory with the texts of its files; `none` if the settings file cannot be
read. The environment file adds to the environment first. -/
def load? (env : Dict String) (envFile file : Option String) : Option Settings := do
  let env := envFile.elim env (EnvFile.load env)
  let s ← file.elim (some default) ofText?
  return override env s

end Settings

end DocQuery
