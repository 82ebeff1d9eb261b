import ImageChain.Text.Fields

/-!
# A described file system

Directories and files are described by their paths.  A path is followed segment by segment from the
root or from the current directory, and what can go wrong on the way is told in the words of the
operating system.
-/

namespace ImageChain

/-- Directories, which have no content, and files. -/
structure FileTree where
  /-- The segments of every path there is, and the content of the files. -/
  entries : List (List String × Option ByteArray)
  /-- The current directory. -/
  current : List String

namespace FileTree

/-- The message about a path that is not there. -/
def missing : String := "No such file or directory (os error 2)"

/-- The message about a file on the way to something else. -/
def notDirectory : String := "Not a directory (os error 20)"

/-- The message about a directory in the place of a file. -/
def isDirectory : String := "Is a directory (os error 21)"

/-- The message about a path or a segment with too many bytes. -/
def tooLong : String := "File name too long (os error 36)"

/-- The message about a character that can not be part of a path. -/
def hasZero : String := "file name contained an unexpected NUL byte"

/-- The paths on the way to a path. -/
def ancestors (path : List String) : List (List String) :=
  (List.range path.length).map path.take

/-- The tree with a file or a directory in a place, and all directories on the way to it. -/
def put (tree : FileTree) (path : List String) (content : Option ByteArray) : FileTree :=
  let directories := (ancestors path).map fun path => (path, none)
  { tree with entries := (path, content) :: (directories ++ tree.entries) }

/-- The tree of a directory, which is the current one, and nothing else. -/
def ofDirectory (path : List String) : FileTree :=
  put ⟨[], path⟩ path none

/-- Follows segments from a place.  The last one need not be there. -/
def follow (tree : FileTree) (place : List String) : List String → Except String (List String)
  | [] => .ok place
  | segment :: rest =>
    match tree.entries.lookup place with
    | none => .error missing
    | some (some _) => .error notDirectory
    | some none =>
      if segment = "" || segment = "." then follow tree place rest
      else if segment = ".." then follow tree place.dropLast rest
      else if 255 < segment.utf8ByteSize then .error tooLong
      else follow tree (place ++ [segment]) rest

/-- The place that a path leads to. -/
def resolve (tree : FileTree) (path : String) : Except String (List String) :=
  if path.toList.contains '\x00' then .error hasZero
  else if path = "" then .error missing
  else if 4095 < path.utf8ByteSize then .error tooLong
  else
    let start := if path.toList.head? = some '/' then [] else tree.current
    follow tree start (fields '/' path)

/-- The content of a file. -/
def read (tree : FileTree) (path : String) : Except String ByteArray :=
  match tree.resolve path with
  | .error reason => .error reason
  | .ok place =>
    match tree.entries.lookup place with
    | none => .error missing
    | some none => .error isDirectory
    | some (some content) => .ok content

/-- The tree after a file has been written, in a directory that is there.  A path that ends in a
slash names a directory. -/
def write (tree : FileTree) (path : String) (content : ByteArray) : Except String FileTree :=
  let named := String.ofList (path.toList.reverse.dropWhile (· == '/')).reverse
  match tree.resolve (if named = "" then path else named) with
  | .error reason => .error reason
  | .ok place =>
    match tree.entries.lookup place with
    | some none => .error isDirectory
    | _ => if named ≠ path then .error isDirectory else .ok (tree.put place (some content))

end FileTree

end ImageChain
