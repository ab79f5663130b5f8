import ChatServer.SystemFault
import ChatServer.Text.Split

/-!
Files, as far as the service reads some: trees of directories and files in which a path is
followed part by part, and why the file at a path cannot be read.
-/

namespace ChatServer

/-- A place in a tree: the parts of the path to it from the root. -/
abbrev Place := List String

/-- The directories but the root, and the files that can be read. Paths that do not begin at the
root begin at the current directory. -/
structure FileTree where
  directories : List Place
  files : List Place
  current : Place := []

namespace FileTree

/-- The size in bytes from which on a path is too long. -/
def pathLimit : Nat := 4096

/-- The greatest size in bytes of a part of a path. -/
def partLimit : Nat := 255

/-- Goes from a place to what a part of a path leads to. An empty part leads nowhere else. -/
def enter (tree : FileTree) (place : Place) (part : String) : Except SystemFault Place :=
  if part = "" then .ok place
  else if tree.files.contains place then .error .notADirectory
  else if part = "." then .ok place
  else if part = ".." then .ok place.dropLast
  else if part.utf8ByteSize > partLimit then .error .nameTooLong
  else
    let next := place ++ [part]
    if tree.directories.contains next || tree.files.contains next then .ok next
    else .error .notFound

def follow (tree : FileTree) (path : String) : Except SystemFault Place :=
  if path = "" then .error .notFound
  else if path.utf8ByteSize ≥ pathLimit then .error .nameTooLong
  else
    let start := if path.toList.head? = some '/' then [] else tree.current
    ((Text.fields '/' path.toList).map String.ofList).foldlM tree.enter start

/-- Does a path insist on a directory? -/
def wantsDirectory (path : String) : Bool :=
  path.toList.getLast? = some '/'

/-- Why the file at a path cannot be read, if it cannot. -/
def fault? (tree : FileTree) (path : String) : Option SystemFault :=
  match tree.follow path with
  | .error fault => some fault
  | .ok place =>
    if !tree.files.contains place then some .isADirectory
    else if wantsDirectory path then some .notADirectory
    else none

end FileTree

end ChatServer
