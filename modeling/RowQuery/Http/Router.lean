import RowQuery.Http.Cors
import RowQuery.Http.Docs
import RowQuery.Http.NotFound
import RowQuery.Http.QueryBody

/-!
# Routes

What the service answers to a request. A route is found by its exact path; one that can be read can
also be asked for its head alone. Every `OPTIONS` request is answered by the rules for other
origins. A request to no route gets an empty 404, and is described to a listening debug log.

Responses are those before compression: that a client which accepts it gets the body as gzip, with
the headers `content-encoding` and `vary`, is left out.
-/
namespace RowQuery.Http
open Json

inductive Route
  | root
  | health
  | description
  | docs
  | query
deriving DecidableEq, Repr

namespace Route

def ofPath? : String → Option Route
  | "/" => some .root
  | "/api/v1/health" => some .health
  | "/api/openapi.json" => some .description
  | "/api/docs" => some .docs
  | "/api/docs/" => some .docs
  | "/query" => some .query
  | _ => none

def methods : Route → List String
  | .query => ["POST"]
  | _ => ["GET", "HEAD"]

def allow (route : Route) : String × String := ("allow", ",".intercalate route.methods)

def page : Route → Response
  | .root => .json 200 (.object [("message", .string (Docs.appName ++ " API is running!"))])
  | .health =>
    .json 200 (.object [("status", .string "ok"), ("version", .string Docs.version)])
  | .description => .json 200 Docs.description
  | .docs => .html Docs.page
  | .query => .empty 405

end Route

/-- A response, the requests sent to the model for it, the events logged, the line for the debug log
of unknown routes, and the replies not asked for. -/
structure Exchange where
  response : Response
  requests : List Chat.Request
  events : List Event
  notFound : Option String
  unused : List Chat.Reply

structure Router where
  cors : Cors
  settings : Generation.Settings

namespace Router

def ofOrigins (origins : List String) (settings : Generation.Settings) : Router × List Warning :=
  let (cors, warnings) := Cors.ofOrigins origins
  (⟨cors, settings⟩, warnings)

def plain (response : Response) (replies : List Chat.Reply) : Exchange :=
  ⟨response, [], [], none, replies⟩

def postQuery (r : Router) (request : Request) (replies : List Chat.Reply) : Exchange :=
  match QueryBody.ofRequest request with
  | .error problem => plain problem.response replies
  | .ok body =>
    let answer := Query.run r.settings body.query body.data replies
    let response :=
      match answer.result with
      | .ok rows => Response.json 200 (.list (rows.map .object))
      | .error e => (Problem.ofQueryError e).response
    ⟨response, answer.requests, answer.events, none, answer.unused⟩

def notFound (listening : Bool) (request : Request) (replies : List Chat.Reply) : Exchange :=
  ⟨.empty 404, [], [], if listening then some (NotFound.line request) else none, replies⟩

def withoutBody (response : Response) : Response := { response with body := "" }

def serve (r : Router) (route : Route) (request : Request) (replies : List Chat.Reply) : Exchange :=
  if !route.methods.contains request.method then
    plain ((Response.empty 405).withField route.allow.1 route.allow.2) replies
  else if request.method = "POST" then r.postQuery request replies
  else if request.method = "HEAD" then plain (withoutBody route.page) replies
  else plain route.page replies

def preflight (r : Router) (request : Request) (replies : List Chat.Reply) : Exchange :=
  let allow := (Route.ofPath? request.path).toList.map Route.allow
  plain ⟨200, r.cors.preflightFields ++ allow, ""⟩ replies

def route (r : Router) (listening : Bool) (request : Request) (replies : List Chat.Reply) :
    Exchange :=
  if request.method = "OPTIONS" then r.preflight request replies
  else
    match Route.ofPath? request.path with
    | some route => r.serve route request replies
    | none => notFound listening request replies

/-- Answers a request; `listening` tells whether anyone reads the debug log. -/
def handle (r : Router) (listening : Bool) (request : Request) (replies : List Chat.Reply) :
    Exchange :=
  let exchange := r.route listening request replies
  let headers := r.cors.fields (request.field? "origin") ++ exchange.response.headers
  { exchange with response := { exchange.response with headers } }

/-- Answers requests one after another, each with the replies that the earlier ones left. -/
def handleAll (r : Router) (listening : Bool) (replies : List Chat.Reply) :
    List Request → List Exchange
  | [] => []
  | request :: requests =>
    let exchange := r.handle listening request replies
    exchange :: handleAll r listening exchange.unused requests

end Router
end RowQuery.Http
