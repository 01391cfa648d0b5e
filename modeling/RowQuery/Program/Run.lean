import RowQuery.CommandLine.Reader
import RowQuery.Log.Filter
import RowQuery.Program.Banner
import RowQuery.Program.Environment
import RowQuery.Server.Listening
import RowQuery.Settings.Load

/-!
# Running the program

The program reads the environment file and then its command line. It prints a prompt, or it loads
its settings, shows the banner and listens until it is told to stop. What it reports on the way goes
to the log, as far as the filter of the environment admits it.
-/
namespace RowQuery.Program

inductive Output
  | text (s : String)
  | log (level : Log.Level) (line : String)
deriving DecidableEq, Repr

/-- What a run leaves behind. One that listens goes on until a signal stops it, and then it has the
exit code given. -/
structure Report where
  listens : Bool
  exitCode : Nat
  output : List Output
  errors : String
deriving DecidableEq, Repr

inductive Failure
  | load (error : Settings.LoadError)
  | server (error : Server.Error)

def Failure.message : Failure → String
  | .load e => e.message
  | .server e => e.message

def environmentFile : String := ".env"

def name : String := "querygenie"

def defaultFilter : String := s!"info,{name}=info"

def filterText (env : Environment) : String :=
  (env.lookup "QUERYGENIE_LOG" <|> env.lookup "RUST_LOG").getD defaultFilter

def settingsSource : String := "querygenie_server::core::config"

def originsSource : String := "querygenie_server::api::middleware"

def serverSource : String := "querygenie_server::api::server"

def recordOf (source : String) (w : Warning) : Log.Record := ⟨source, .warn, w.message, w.details⟩

def listeningRecord (place : String) : Log.Record :=
  ⟨serverSource, .info, "Listening", [("addr", place)]⟩

def logged (filter : Log.Filter) (records : List Log.Record) : List Output :=
  (records.filter filter.admits).map fun r => .log r.level r.line

def serve (filter : Log.Filter) (env : Environment) (files : String → Option Settings.Entry)
    (given : CommandLine.Given) : Except Failure Unit × List Output :=
  match Settings.load files given.config given.layer (env.lookup Settings.keyVariable) with
  | (.error e, ws) => (.error (.load e), logged filter (ws.map (recordOf settingsSource)))
  | (.ok s, ws) =>
    let (started, originWarnings) := Server.start s.host s.port false s.origins s.generation
    let before := logged filter (ws.map (recordOf settingsSource)) ++ [.text (Banner.text s)] ++
      logged filter (originWarnings.map (recordOf originsSource))
    match started with
    | .error e => (.error (.server e), before)
    | .ok server =>
      (.ok (), before ++ logged filter [listeningRecord server.place])

/-- What the program does about a command line that is not carried out. The texts of help and of
misuse are left to the caller. -/
def stopped : CommandLine.Stop → Report
  | .version => ⟨false, 0, [.text s!"{name} {Http.Docs.version}\n"], ""⟩
  | .help => ⟨false, 0, [], ""⟩
  | .misuse _ => ⟨false, 2, [], ""⟩

def variableNames : List String :=
  ["QUERYGENIE_LOG", "RUST_LOG", Settings.keyVariable] ++
    CommandLine.Parameter.all.map CommandLine.Parameter.variableName

def fullEnvironment (env : Environment) (files : String → Option Settings.Entry) : Environment :=
  match files environmentFile with
  | some (.text content) => env.addFile content
  | _ => env

def run (env : Environment) (files : String → Option Settings.Entry) (words : List String) :
    Report :=
  let env := fullEnvironment env files
  let text := filterText env
  let notes := String.join ((Log.Filter.ignored text).map (· ++ "\n"))
  let report :=
    match CommandLine.read env words with
    | .error s => stopped s
    | .ok ⟨_, some (.prompt headers)⟩ =>
      ⟨false, 0, [.text (Prompt.system headers ++ "\n")], ""⟩
    | .ok ⟨given, _⟩ =>
      match serve (Log.Filter.ofText text) env files given with
      | (.ok _, output) => ⟨true, 0, output, ""⟩
      | (.error e, output) => ⟨false, 1, output, s!"\nError: {e.message}\n\n"⟩
  { report with errors := notes ++ report.errors }

end RowQuery.Program
