import DocQuery.CommandLine.Options
import DocQuery.Files
import DocQuery.Scheme.Reader
import DocQuery.Session
import DocQuery.Settings

namespace DocQuery.CommandLine

def inDirectory (directory name : String) : String := directory ++ "/" ++ name

inductive Fault where
  | settings
  | unopened (obstacle : Obstacle)
  | unread (obstacle : Obstacle)
  | noJson (path : String)
  | query (e : Error)

def Fault.message : Fault → String
  | settings => "Config error: the settings file cannot be read"
  | unopened obstacle => "IO error: " ++ obstacle.message
  | unread obstacle => obstacle.message
  | noJson path => path ++ ": not a JSON text of the expected form"
  | query e => e.message

structure Outcome where
  code : Nat
  output : String
  message : Option String
  files : Files

structure World where
  session : Session
  dataPath : String
  files : Files

abbrev Action := ExceptT Fault (StateM World)

def generatedNumber (key : String) : Nat :=
  let cs := key.toList
  if Source.numberedKey (Literal.digitsValue (cs.drop 5)) = key then Literal.digitsValue (cs.drop 5) else 0

def lastGenerated (tables : Tables) : Nat :=
  (tables.flatMap fun t => Dict.keys t.2).foldl (fun n key => max n (generatedNumber key)) 0

def World.save (w : World) : World :=
  match w.session.store.medium with
  | .file (some text) => { w with files := w.files.put w.dataPath text }
  | _ => w

def skips : List Json.Frame → Bool
  | [.field _ key, .array _, .array _] => !Operation.fieldNames.contains key
  | _ => false

def schemes? (text : String) : Option (List Scheme) :=
  (Json.written? skips text).bind (Record.list? Scheme.ofValue?)

def runFile (path : String) : Action (List Value) := do
  match (← get).files.text path with
  | .error obstacle => throw (.unread obstacle)
  | .ok text =>
    match schemes? text with
    | none => throw (.noJson path)
    | some schemes =>
      let w ← get
      let (answer, session) := w.session.execute schemes
      set { w with session := session }.save
      match answer with
      | .ok outputs => return outputs
      | .error e => throw (.query e)

def runFiles : List String → Action (List Value)
  | [] => return []
  | path :: paths => do
    let outputs ← runFile path
    return outputs ++ (← runFiles paths)

def failed (files : Files) (fault : Fault) : Outcome := ⟨1, "", some fault.message, files⟩

def outputText (pretty : Bool) (outputs : List Value) : String :=
  (if pretty then Json.pretty (.array outputs) else Json.compact (.array outputs)) ++ "\n"

def settings (env : Dict String) (files : Files) (o : Options) : Except Fault Settings :=
  match files.text? (inDirectory o.config Settings.fileName) with
  | .error obstacle => .error (.unopened obstacle)
  | .ok file =>
    match Settings.load? env (files.text (inDirectory o.config Settings.envFileName)).toOption file with
    | none => .error .settings
    | some s => .ok s

def dataPath (o : Options) (s : Settings) : String := o.data.getD s.dataFile

def openData (files : Files) (path : String) : Except Fault Store :=
  match files.text? path with
  | .error obstacle => .error (.unopened obstacle)
  | .ok text =>
    match Store.openFile text with
    | .error .noJson => .error (.noJson path)
    | .error (.noData fault) => .error (.query (.dataFile fault))
    | .ok store =>
      let medium := match files.place path with
        | .ok _ => store.medium
        | .error obstacle => .nowhere obstacle
      .ok { store with issued := lastGenerated store.tables, medium := medium }

def world (files : Files) (path : String) : Except Fault World :=
  (openData files path).map fun store => ⟨(Session.ofStore store).connect, path, files⟩

def runOptions (env : Dict String) (files : Files) (o : Options) : Outcome :=
  match settings env files o with
  | .error fault => failed files fault
  | .ok s =>
    match world files (dataPath o s) with
    | .error fault => failed files fault
    | .ok w =>
      match (runFiles o.queries).run w with
      | (.ok outputs, w) => ⟨0, outputText s.pretty outputs, none, w.files⟩
      | (.error fault, w) => failed w.files fault

def run (env : Dict String) (files : Files) (args : List String) : Outcome :=
  match Options.read args with
  | .error .help => ⟨0, helpText, none, files⟩
  | .error .usage => ⟨2, "", none, files⟩
  | .ok o => runOptions env files o

end DocQuery.CommandLine
