/-!
A tree of files and directories, and what a path leads to in it. A path is followed name by name
through directories: a name that is empty or a single dot stays where it is, two dots go back to
the directory before, and a path that starts with a slash starts at the root. A file leads nowhere
further, and the empty path leads nowhere at all.
-/

set_option autoImplicit false
set_option relaxedAutoImplicit false

namespace DatasetSearch

inductive FileTree where
  | file (content : List UInt8)
  | directory (entries : List (String × FileTree))
  deriving Repr, Inhabited

namespace FileTree

def entry? (name : String) : FileTree → Option FileTree
  | file _ => none
  | directory entries => entries.lookup name

/-- Follows names from the place at the end of `way`, which lists the places passed, last first. -/
def follow? (way : List FileTree) : List String → Option (List FileTree)
  | [] => some way
  | name :: names =>
    match way with
    | directory entries :: before =>
      if name = "" ∨ name = "." then follow? way names
      else if name = ".." then follow? (if before.isEmpty then way else before) names
      else match entry? name (directory entries) with
        | none => none
        | some place => follow? (place :: way) names
    | _ => none

/-- The names between the slashes of a path; there is always at least one. -/
def splitNames (path : String) : List String :=
  (path.toList.splitOn '/').map String.ofList

def isAbsolute (path : String) : Bool :=
  path.toList.head? == some '/'

/-- A path behind another one; an absolute path stands alone. -/
def join (base path : String) : String :=
  if isAbsolute path || base.isEmpty then path
  else if base.toList.getLast? == some '/' then base ++ path
  else base ++ "/" ++ path

/-- What a path leads to, from the root of the tree or from the working directory. -/
def find? (root : FileTree) (workingDirectory : List String) (path : String) :
    Option FileTree := do
  guard !path.isEmpty
  let start ← if isAbsolute path then some [root] else follow? [root] workingDirectory
  (← follow? start (splitNames path)).head?

end FileTree

end DatasetSearch
