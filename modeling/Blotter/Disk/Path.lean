/-!
# Paths

Paths are texts whose parts are separated by slashes. `parent?` takes the last part off and leaves the text in front of
it as it is; slashes and dots that name nothing count for nothing.
-/

namespace Blotter.Path

/-- The pieces between the slashes, empty ones included. -/
def pieces (p : String) : List String := (p.toList.splitOnP (· == '/')).map String.ofList

/-- Whether a piece behind the first one names nothing. -/
def isVoid (piece : String) : Bool := piece == "" || piece == "."

/-- The pieces without the void ones at the end. -/
def dropVoid (ps : List String) : List String := (ps.reverse.dropWhile isVoid).reverse

/-- The path without its last part; the root and the empty path have no parent. -/
def parent? (p : String) : Option String :=
  match pieces p with
  | [] => none
  | first :: rest =>
    match (dropVoid rest).dropLast, dropVoid rest with
    | _, [] => if first == "" then none else some ""
    | front, _ =>
      let front := dropVoid front
      some (if front.isEmpty && first == "" then "/" else "/".intercalate (first :: front))

/-- The parent of a path, its parent and so on; `fuel` bounds their number. -/
def ancestorsUpTo : Nat → String → List String
  | 0, _ => []
  | fuel + 1, p =>
    match parent? p with
    | none => []
    | some q => q :: ancestorsUpTo fuel q

/-- The parent of a path, its parent and so on. -/
def ancestors (p : String) : List String := ancestorsUpTo (p.length + 1) p

/-- The path of the backup beside a file. -/
def backup (p : String) : String := p ++ ".bak"

end Blotter.Path
