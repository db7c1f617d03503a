/-!
# File trees

The files that a program finds, as a tree below a root, with a directory in which
the program is run.
-/

namespace WalletLedger.CommandLine

/-- Files below a root, each with the names that lead to it and its contents. -/
structure FileTree where
  files : List (List String × ByteArray)
  /-- The names that lead to the directory in which the program is run. -/
  workingDirectory : List String

namespace FileTree

/-- The tree with files at the given paths below a working directory, and apart from them only with
the null device. As the directory is known to no one, it has a name that no path can have. -/
def ofFiles (files : List (String × ByteArray)) : FileTree where
  workingDirectory := ["tmp", ""]
  files :=
    (["dev", "null"], .empty) :: files.map fun file => ("tmp" :: "" :: file.1.splitOn "/", file.2)

/-- Whether names lead to a directory: to the one in which the program is run, or to one on the way
there or to a file. -/
def hasDirectory (tree : FileTree) (place : List String) : Bool :=
  place.isPrefixOf tree.workingDirectory
    || tree.files.any fun file => place.isPrefixOf file.1 && file.1 ≠ place

/-- The contents of the file that names lead to from a place. The root is above itself. -/
def walk? (tree : FileTree) (place : List String) : List String → Option ByteArray
  | [] => tree.files.lookup place
  | name :: rest =>
    if tree.hasDirectory place then
      if name = "" || name = "." then tree.walk? place rest
      else if name = ".." then tree.walk? place.dropLast rest
      else tree.walk? (place ++ [name]) rest
    else none

/-- The size in bytes that a path must stay below. -/
def pathLimit : Nat := 4096

/-- The contents of the file at a path, in which slashes separate names. A slash in front leads to
the root. -/
def contents? (tree : FileTree) (path : String) : Option ByteArray :=
  if pathLimit ≤ path.utf8ByteSize then none
  else match path.splitOn "/" with
  | "" :: names => tree.walk? [] names
  | names => tree.walk? tree.workingDirectory names

end FileTree

end WalletLedger.CommandLine
