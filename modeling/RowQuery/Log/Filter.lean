import RowQuery.Log.Directive

/-!
# Log filters

A filter is a list of directives, separated by commas; what is no directive is reported and left
out. Of the directives that concern a record the one that prevails sets the level up to which the
record is logged. Without any directive errors are logged.
-/
namespace RowQuery.Log

abbrev Filter := List Directive

namespace Filter

def parts (text : String) : List String :=
  (((text.toList.splitOnP (· = ',')).filter (· ≠ [])).map String.ofList)

def ofText (text : String) : Filter :=
  match (parts text).filterMap fun p => (Directive.read p).toOption with
  | [] => [.ofLevel .error]
  | ds => ds

def ignored (text : String) : List String :=
  (parts text).filterMap fun p =>
    match Directive.read p with
    | .ok _ => none
    | .error e => some s!"ignoring `{p}`: {e.message}"

def directiveFor? (ds : Filter) (r : Record) : Option Directive :=
  (ds.filter (·.concerns r)).foldl (fun best d =>
    match best with
    | some b => if d.prevails b then some d else some b
    | none => some d) none

def admits (ds : Filter) (r : Record) : Bool :=
  r.level.rank ≤ ((ds.directiveFor? r).elim .off Directive.level).rank

end Filter
end RowQuery.Log
