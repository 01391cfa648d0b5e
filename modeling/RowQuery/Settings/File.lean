import RowQuery.Json.Decoder
import RowQuery.Settings.Layer

/-!
# The settings file

A settings file is a JSON object with the sections `server`, `llm` and `cors` and the flag `debug`,
all of them optional. Members of other names are kept, so that they can be reported. Those within a
section are skipped.
-/
namespace RowQuery.Settings
open Json

structure File where
  layer : Layer := .empty
  origins : Option (List String) := none
  unknown : Members := []

namespace File

def empty : File := {}

def policies : List (String × Generation.Policy) :=
  [(Generation.Policy.fail.text, .fail), (Generation.Policy.unfiltered.text, .unfiltered)]

def setting {α : Type} (name : String) (d : Decoder α) (set : Option α → Layer → Layer) :
    Json.Field File :=
  .maybe name d fun value f => { f with layer := set value f.layer }

def server : Record File := .strict "ServerFileConfig" [
  setting "host" Decoder.string fun host l => { l with host },
  setting "port" (Decoder.natural 16) fun port l => { l with port }]

def llm : Record File := .strict "LlmFileConfig" [
  setting "base_url" Decoder.string fun baseUrl l => { l with baseUrl },
  setting "model" Decoder.string fun model l => { l with model },
  setting "timeout_secs" (Decoder.natural 64) fun timeoutSeconds l => { l with timeoutSeconds },
  setting "max_attempts" (Decoder.natural 32) fun maxAttempts l => { l with maxAttempts },
  setting "on_exhausted" (Decoder.variant policies) fun policy l => { l with policy }]

def cors : Record File := .strict "CorsFileConfig" [
  .maybe "allowed_origins" (Decoder.list Decoder.string) fun origins f => { f with origins }]

def sectionField (name : String) (r : Record File) : Json.Field File :=
  ⟨name, true, false, fun room t f =>
    match t with
    | .null => .ok f
    | t => r.decode f room t⟩

def keepUnknown (room : Nat) (name : String) (t : Tree) (f : File) : Except Failure File := do
  let value ← Decoder.any room t
  return { f with unknown := f.unknown.insert name value }

def form : Record File where
  name := "FileConfig"
  fields := [sectionField "server" server, sectionField "llm" llm, sectionField "cors" cors,
    setting "debug" Decoder.bool fun debug l => { l with debug := debug.getD false }]
  other := keepUnknown
  hasListForm := false

def read (text : String) : Except Fault File :=
  ((form.decode empty).ofBytes text.toUTF8).mapError Failure.fault

end File
end RowQuery.Settings
