namespace DocQuery.CommandLine

structure Options where
  config : String
  data : Option String
  queries : List String
  deriving DecidableEq

inductive Stop where
  | help
  | usage
  deriving DecidableEq

inductive Flag where
  | config
  | data
  deriving DecidableEq

structure Draft where
  config : Option String
  data : Option String
  queries : List String
  pending : Option Flag
  filesOnly : Bool

namespace Draft

def empty : Draft := ⟨none, none, [], none, false⟩

def set (d : Draft) (flag : Flag) (value : String) : Except Stop Draft :=
  if value = "" then .error .usage
  else
    match flag, d.config, d.data with
    | .config, none, _ => .ok { d with config := some value, pending := none }
    | .data, _, none => .ok { d with data := some value, pending := none }
    | _, _, _ => .error .usage

def addQuery (d : Draft) (file : String) : Except Stop Draft :=
  if file = "" then .error .usage else .ok { d with queries := d.queries ++ [file] }

def longFlag (d : Draft) (name : List Char) (value : Option String) : Except Stop Draft :=
  match String.ofList name, value with
  | "help", none => .error .help
  | "config", some v => d.set .config v
  | "data", some v => d.set .data v
  | "config", none => .ok { d with pending := some .config }
  | "data", none => .ok { d with pending := some .data }
  | _, _ => .error .usage

def argument (d : Draft) (arg : String) : Except Stop Draft :=
  match arg.toList with
  | ['-', '-'] => .ok { d with filesOnly := true }
  | '-' :: '-' :: cs =>
    match cs.span (· ≠ '=') with
    | (name, _ :: value) => d.longFlag name (some (String.ofList value))
    | (name, []) => d.longFlag name none
  | '-' :: c :: _ => .error (if c = 'h' then .help else .usage)
  | _ => d.addQuery arg

def isFlagLike (arg : String) : Bool :=
  match arg.toList with
  | '-' :: _ :: _ => true
  | _ => false

def step (d : Draft) (arg : String) : Except Stop Draft :=
  if d.filesOnly then d.addQuery arg
  else
    match d.pending with
    | some flag => if isFlagLike arg then .error .usage else d.set flag arg
    | none => d.argument arg

def finish (d : Draft) : Except Stop Options :=
  if d.pending.isSome ∨ d.queries = [] then .error .usage
  else .ok ⟨d.config.getD ".", d.data, d.queries⟩

end Draft

def Options.read (args : List String) : Except Stop Options :=
  args.foldlM Draft.step Draft.empty >>= Draft.finish

def usageText : String := "Usage: docsql [OPTIONS] <QUERIES>..."

def helpText : String :=
  "Run SQL-like query schemes against a JSON document store\n\n" ++ usageText ++
    "\n\nArguments:\n  <QUERIES>...  Query files, each a JSON array of schemes\n\nOptions:\n" ++
    "      --config <CONFIG>  Directory holding docsql.toml and .env [default: .]\n" ++
    "      --data <DATA>      Data file (overrides the config file)\n" ++
    "  -h, --help             Print help\n"

end DocQuery.CommandLine
