import RowQuery.Program.Run

/-!
# The program

Collects the variables and files that a run looks at, and prints what the run reports. Sockets are
not opened here: a service that starts is reported as listening and ends.
-/
namespace RowQuery.Program

def readEntry (path : String) : IO (Option Settings.Entry) := do
  try
    if ← (← IO.FS.realPath path).isDir then return some .directory
    return some (.text (← IO.FS.readFile path))
  catch _ => return none

def readEntries (paths : List String) : IO (String → Option Settings.Entry) := do
  let entries ← paths.mapM fun path => do return (path, ← readEntry path)
  return fun path => (entries.lookup path).join

/-- The names that a file of assignments may refer to. -/
def namesIn (entry : Option Settings.Entry) : List String :=
  match entry with
  | some (.text content) =>
    (content.toList.splitOnP fun c => !Environment.isNameChar c).map String.ofList
  | _ => []

def readVariables (names : List String) : IO Environment :=
  names.filterMapM fun name => do
    if name = "" then return none
    return (← IO.getEnv name).map (name, ·)

def settingsPath (env : Environment) (words : List String) : Option String :=
  match CommandLine.read env words with
  | .ok i => i.given.config
  | .error _ => none

def print (report : Report) : IO Unit := do
  for output in report.output do
    match output with
    | .text s => IO.print s
    | .log level line => IO.println s!"{level.label} {line}"
  IO.eprint report.errors

def usage : String :=
  let parameters := CommandLine.Parameter.all.map fun p => s!"  --{p.longName}  ({p.variableName})"
  "\n".intercalate (["Usage: " ++ name ++ " [parameters] [start | prompt HEADER... | help]"] ++
    parameters)

def printUsage (env : Environment) (words : List String) : IO Unit :=
  match CommandLine.read env words with
  | .error .help => IO.println usage
  | .error (.misuse _) => IO.eprintln usage
  | _ => return ()

end RowQuery.Program

open RowQuery in
def main (words : List String) : IO UInt32 := do
  let assignments ← Program.readEntry Program.environmentFile
  let names := (Program.variableNames ++ Program.namesIn assignments).eraseDups
  let env ← Program.readVariables names
  let paths := [Program.environmentFile, Settings.fileName]
  let full := Program.fullEnvironment env (← Program.readEntries paths)
  let files ← Program.readEntries (paths ++ (Program.settingsPath full words).toList)
  let report := Program.run env files words
  Program.printUsage full words
  Program.print report
  return report.exitCode.toUInt32
