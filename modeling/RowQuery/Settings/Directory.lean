/-!
# A working directory

Texts and empty directories by name. A path leads from the working directory through its entries;
nothing but directories lies above it.
-/
namespace RowQuery.Settings

inductive Entry
  | text (content : String)
  | directory
deriving DecidableEq, Repr

abbrev Directory := List (String × Entry)

namespace Directory

inductive Location
  | above
  | here
  | inside
  | at (content : String)
deriving DecidableEq, Repr

def step? (d : Directory) (segment : List Char) : Location → Option Location
  | .at _ => none
  | .above => if segment ∈ [[], ['.'], ['.', '.']] then some .above else none
  | .here =>
    if segment ∈ [[], ['.']] then some .here
    else if segment = ['.', '.'] then some .above
    else
      match d.lookup (String.ofList segment) with
      | some (.text content) => some (.at content)
      | some .directory => some .inside
      | none => none
  | .inside =>
    if segment ∈ [[], ['.']] then some .inside
    else if segment = ['.', '.'] then some .here
    else none

def walk (d : Directory) (start : Location) (path : List Char) : Option Location :=
  (path.splitOnP (· = '/')).foldlM (fun location segment => d.step? segment location) start

/-- What a path leads to. A path that starts with a separator starts above the directory. -/
def find? (d : Directory) (path : String) : Option Entry :=
  let start := if path.startsWith "/" then .above else .here
  if path = "" then none
  else
    match d.walk start path.toList with
    | some (.at content) => some (.text content)
    | some _ => some .directory
    | none => none

end Directory
end RowQuery.Settings
