import RowQuery.Http.Docs
import RowQuery.Settings.Basic

/-!
# The banner

What a starting service shows of itself: where it can be reached, the model and the attempts.
-/
namespace RowQuery.Program.Banner

def code (n : Nat) : String := "\x1b[" ++ toString n ++ "m"

def styled (n : Nat) (text : String) : String := code n ++ text ++ code 0

def bold (text : String) : String := styled 1 text

def gray (text : String) : String := styled 90 text

def label (name : String) : String := name ++ String.ofList (List.replicate (12 - name.length) ' ')

def arrow : String := "➜"

def shownHost (host : String) : String :=
  if Settings.isOnAllInterfaces host then "localhost" else host

def item (color : Nat) (name text : String) : String :=
  s!"  {styled color arrow}  {bold (label name)} {text}"

def hint (name text : String) : String := "  " ++ gray s!"{arrow}  {label name} {text}"

def lines (s : Settings) : List String :=
  let place := s!"http://{shownHost s.host}:{s.port}"
  let title := code 1 ++ styled 36 Http.Docs.appName ++ " " ++ gray ("v" ++ Http.Docs.version)
  let reach := if s.host = "127.0.0.1" ∨ s.host = "localhost" then
    [hint "Network:" "use --host 0.0.0.0 to expose"] else []
  ["", "  " ++ title, "",
    item 32 "Query:" (place ++ "/query"), item 32 "Docs:" (place ++ "/api/docs"),
    item 33 "Model:" (s.model ++ " " ++ gray s!"({s.baseUrl})"),
    hint "Retries:" s!"{s.maxAttempts} attempts, then {s.policy.text}"] ++ reach ++ [""]

def text (s : Settings) : String := String.join ((lines s).map (· ++ "\n"))

end RowQuery.Program.Banner
