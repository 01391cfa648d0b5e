import RowQuery.Settings.Basic
import RowQuery.Settings.Directory

/-!
# Loading settings

A settings file may be named, and then it has to be there; else the one of the usual name is taken
if there is one. It is read before anything else is looked at.
-/
namespace RowQuery.Settings
open Json

inductive LoadError
  | notFound (path : String)
  | isDirectory (path : String)
  | invalid (path : String) (fault : Fault)
  | unusable (error : Error)

def LoadError.message : LoadError → String
  | .notFound path => s!"Config file not found: {path}"
  | .isDirectory path => s!"Failed to read config file: {path}: Is a directory (os error 21)"
  | .invalid path fault => s!"Failed to parse config file: {path}: {fault.message}"
  | .unusable error => error.message

def fileName : String := "querygenie.json"

def readEntry (path : String) : Entry → Except LoadError File
  | .text content => (File.read content).mapError (.invalid path)
  | .directory => .error (.isDirectory path)

def findFile (files : String → Option Entry) (path : Option String) : Except LoadError File :=
  match path with
  | some path =>
    match files path with
    | some entry => readEntry path entry
    | none => .error (.notFound path)
  | none =>
    match files fileName with
    | some entry => readEntry fileName entry
    | none => .ok .empty

def File.warnings (f : File) : List Warning :=
  if f.unknown = [] then [] else [.unknownFields f.unknown.names]

def load (files : String → Option Entry) (path : Option String) (command : Layer)
    (key : Option String) : Except LoadError Settings × List Warning :=
  match findFile files path with
  | .error e => (.error e, [])
  | .ok file =>
    match ofSources command file key with
    | .error e => (.error (.unusable e), file.warnings)
    | .ok s => (.ok s, file.warnings ++ s.warnings)

end RowQuery.Settings
