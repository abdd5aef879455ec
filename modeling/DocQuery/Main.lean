import DocQuery.CommandLine

namespace DocQuery.CommandLine

def readText (path : String) : IO (Except Obstacle String) := do
  try
    return .ok (← IO.FS.readFile path)
  catch
    | .inappropriateType _ 21 _ => return .error .directory
    | .inappropriateType .. => return .error .noDirectory
    | .noFileOrDirectory .. => return .error .missing
    | e => throw e

def addFiles (files : Files) (paths : List String) : IO Files := do
  let mut files := files
  for path in paths do
    let parts := path.splitOn "/"
    for n in List.range parts.length do
      let path := "/".intercalate (parts.take (n + 1))
      match ← readText path with
      | .ok text => files := files.put path text
      | .error .directory => files := files.addDirectory path
      | .error _ => continue
  return files

def environment (names : List String) : IO (Dict String) := do
  let mut env : Dict String := []
  for name in names do
    if let some value ← IO.getEnv name then env := Dict.insert name value env
  return env

def gather (o : Options) : IO (Dict String × Files) := do
  let envPath := inDirectory o.config Settings.envFileName
  let files ← addFiles (.ofTexts []) [envPath, inDirectory o.config Settings.fileName]
  let env ← environment
    ([Settings.dataFileVariable, Settings.logVariable, Settings.prettyVariable] ++
      EnvFile.names ((files.text envPath).toOption.getD ""))
  match settings env files o with
  | .ok s => return (env, ← addFiles files (dataPath o s :: o.queries))
  | .error _ => return (env, files)

def replaceFile (path text : String) : IO Unit := do
  let draft := path ++ ".new"
  IO.FS.writeFile draft text
  IO.FS.rename draft path

def writeBack (o : Options) (env : Dict String) (before after : Files) : IO Unit := do
  match settings env before o with
  | .error _ => return
  | .ok s =>
    let path := dataPath o s
    match after.text path with
    | .ok text => if (before.text path).toOption != some text then replaceFile path text
    | .error _ => return

def report (outcome : Outcome) : IO Unit := do
  IO.print outcome.output
  match outcome.message with
  | some message => IO.eprintln ("Error: " ++ message)
  | none => if outcome.code = 2 then IO.eprintln usageText

def start (args : List String) : IO UInt32 := do
  match Options.read args with
  | .ok o =>
    let (env, files) ← gather o
    let outcome := run env files args
    writeBack o env files outcome.files
    report outcome
    return outcome.code.toUInt32
  | .error _ =>
    let outcome := run [] (.ofTexts []) args
    report outcome
    return outcome.code.toUInt32

end DocQuery.CommandLine

def main (args : List String) : IO UInt32 := DocQuery.CommandLine.start args
