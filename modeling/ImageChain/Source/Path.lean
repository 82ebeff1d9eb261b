import ImageChain.Failure
import ImageChain.Text.Fields

/-!
# Paths below a directory

A path from a request is followed segment by segment, without looking at the file system.  A step
up takes back the segment before it; one that has nothing to take back would leave the directory
and is refused, even if the path came back in later.
-/

namespace ImageChain.Path

/-- Follows the segments of a path from a place below the directory, which is given by its own
segments, innermost first.  The result is in the same form. -/
def follow (stack : List String) : List String → Option (List String)
  | [] => some stack
  | segment :: rest =>
    if segment = "" || segment = "." then follow stack rest
    else if segment = ".." then
      match stack with
      | [] => none
      | _ :: outer => follow outer rest
    else follow (segment :: stack) rest

/-- A path with one more segment. -/
def push (path segment : String) : String :=
  if path = "" || path.toList.getLast? = some '/' then path ++ segment else path ++ "/" ++ segment

/-- A path with more segments, outermost first. -/
def extend (path : String) (segments : List String) : String :=
  segments.foldl push path

/-- The path below `base` that `relative` leads to.  A leading slash means `base` itself, and the
path must lead strictly below it. -/
def resolveWithin (base relative : String) : Except Failure String :=
  match follow [] (fields '/' relative) with
  | none =>
    .error (.argument ("File name is invalid: " ++ relative ++ " escapes " ++ base))
  | some [] => .error (.argument ("File name is invalid: " ++ quote relative))
  | some stack => .ok (extend base stack.reverse)

end ImageChain.Path
