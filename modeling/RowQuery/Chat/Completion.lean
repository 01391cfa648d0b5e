import RowQuery.Chat.Message
import RowQuery.Http.Message
import RowQuery.Http.Target
import RowQuery.Json.Decoder
import RowQuery.Text.Blank
import RowQuery.Text.Octets

/-!
# Chat completions

A conversation is posted to a chat completion service as one JSON object. The content of the first
choice of its answer is the reply; a blank one counts as none. An answer of any other status than
200 to 299 is a failure that keeps the start of the body.
-/
namespace RowQuery.Chat.Completion
open Json

structure Service where
  baseUrl : String
  model : String
  apiKey : String
  timeoutSeconds : Nat

/-- What comes back on a connection: nothing in time, nothing before it is closed, or an answer with
the length it declares and the octets that came. -/
inductive Delivery
  | silence
  | closed
  | answer (status : Nat) (length : Nat) (octets : ByteArray)

structure Choice where
  content : Option String

def serviceKind : String := "openai-compatible"

def userAgent : String := "QueryGenie/1.0.0"

def maxFailureLength : Nat := 512

def temperatureValue (t : Option Single) : String :=
  match t with
  | some x => String.ofList (Number.realText x)
  | none => "null"

/-- The text of a posted conversation; the temperature is written in its own format. -/
def bodyText (model : String) (r : Request) : String :=
  let messages := Value.list (r.messages.map Message.toValue)
  let format := if r.jsonOutput then ",\"response_format\":\x7b\"type\":\"json_object\"\x7d" else ""
  "\x7b\"model\":" ++ (Value.string model).text ++ ",\"messages\":" ++ messages.text ++
    ",\"temperature\":" ++ temperatureValue r.temperature ++ format ++ "\x7d"

def Service.endpoint (s : Service) : String := s.baseUrl ++ "/chat/completions"

/-- The request of a conversation; `none` when the address names no server or the key cannot be a
header value. -/
def Service.post? (s : Service) (r : Request) : Option Http.Request := do
  let target ← Http.Target.ofUrl? s.endpoint
  let authorization := s!"Bearer {s.apiKey}"
  if Http.isField authorization then
    some ⟨"POST", target, [("authorization", authorization), ("content-type", "application/json"),
      ("user-agent", userAgent)], (bodyText s.model r).toUTF8⟩
  else none

def messageForm : Record Choice := .strict "ResponseMessage" [
  .ofDecoder "content" true true Decoder.string.optional fun content c => { c with content }]

def choiceForm : Record Choice := .strict "Choice" [
  .required "message" (messageForm.decode ⟨none⟩) fun m _ => m]

def answerForm : Record (List Choice) := .strict "ChatCompletionResponse" [
  .defaulted "choices" (Decoder.list (choiceForm.decode ⟨none⟩)) fun choices _ => choices]

def choices? (octets : ByteArray) : Option (List Choice) :=
  ((answerForm.decode []).ofBytes octets).toOption

def content (choices : List Choice) : Option String :=
  (choices.head?.bind Choice.content).filter (!Text.isBlankText ·)

def isSuccess (status : Nat) : Bool := 200 ≤ status && status < 300

/-- Whether an answer of the status has no body, whatever its headers say. -/
def isBodiless (status : Nat) : Bool := status = 101 || status = 204 || status = 304

def isFinal (status : Nat) : Bool := status = 101 || (200 ≤ status && status < 1000)

def body? (status length : Nat) (octets : ByteArray) : Option ByteArray :=
  if isBodiless status then some .empty
  else if length ≤ octets.size then some (octets.extract 0 length)
  else none

def failureText (body : Option ByteArray) : String :=
  match body with
  | some octets => String.ofList ((Text.Octets.chars octets.data.toList).take maxFailureLength)
  | none => ""

def Service.reply (s : Service) : Delivery → Reply
  | .silence => .error (.timeout s.timeoutSeconds)
  | .closed => .error (.connection "the connection was closed")
  | .answer status length octets =>
    if !isFinal status then .error (.connection "the answer is no final one")
    else
      let body := body? status length octets
      if isSuccess status then
        match body.bind choices? with
        | some choices => .ok (content choices)
        | none => .error (.invalidResponse "error decoding response body")
      else .error (.http status (failureText body))

def Service.complete (s : Service) (r : Request) (d : Delivery) : Option Http.Request × Reply :=
  match s.post? r with
  | some post => (some post, s.reply d)
  | none => (none, .error (.connection "the request cannot be built"))

end RowQuery.Chat.Completion
