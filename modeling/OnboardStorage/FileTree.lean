import OnboardStorage.Host

/-!
# Files held in memory

A tree of files is the list of its files by place, that is, by the names that
lead to them from the root, and the directory that relative paths start in.  A
directory exists as long as a file lies below it; the root and the directories
on the way to the starting directory always do.
-/

namespace OnboardStorage

/-- Files by place, and where relative paths start. -/
structure FileTree where
  start : List String
  files : List (List String × ByteArray)

namespace FileTree

/-- Bytes of the longest name of a file or directory. -/
def longestName : Nat :=
  255

/-- Bytes of the longest path. -/
def longestPath : Nat :=
  4095

/-- The file at a place, if there is one. -/
def content? (tree : FileTree) (place : List String) : Option ByteArray :=
  tree.files.lookup place

/-- Whether a directory is at a place. -/
def isDirectory (tree : FileTree) (place : List String) : Bool :=
  place.isPrefixOf tree.start ||
    tree.files.any fun file => place.isPrefixOf file.1 && place ≠ file.1

/-- What keeps names from being looked up at a place, if anything does. -/
def obstacle? (tree : FileTree) (place : List String) : Option FileFault :=
  if (tree.content? place).isSome then some .notDirectory
  else if !tree.isDirectory place then some .missing
  else none

/-- The place that names lead to.  Each name is looked up in a directory, and
nothing is above the root. -/
def walk (tree : FileTree) (place : List String) :
    List String → Except FileFault (List String)
  | [] => .ok place
  | name :: rest =>
      match tree.obstacle? place with
      | some fault => .error fault
      | none =>
          if name = "." then tree.walk place rest
          else if name = ".." then tree.walk place.dropLast rest
          else if longestName < name.utf8ByteSize then .error .nameTooLong
          else tree.walk (place ++ [name]) rest

/-- Names of a path, without the empty ones. -/
def names (path : String) : List String :=
  (path.splitOn "/").filter fun name => name ≠ ""

/-- Where a path starts. -/
def origin (tree : FileTree) (path : String) : List String :=
  if path.startsWith "/" then [] else tree.start

/-- Read the file at a path. -/
def read (tree : FileTree) (path : String) : Except FileFault ByteArray :=
  if longestPath < path.utf8ByteSize then .error .nameTooLong
  else match tree.walk (tree.origin path) (names path) with
    | .error fault => .error fault
    | .ok place =>
        if tree.isDirectory place then .error .isDirectory
        else match tree.content? place with
          | none => .error .missing
          | some content =>
              if path.endsWith "/" then .error .notDirectory else .ok content

/-- Why no file is written at a path that ends like that of a directory: the
path leads to none, or its last name is not looked at. -/
def directoryFault (tree : FileTree) (path : String) : FileFault :=
  match tree.walk (tree.origin path) (names path).dropLast with
  | .error fault => fault
  | .ok parent => (tree.obstacle? parent).getD .isDirectory

/-- The place at which a file is written. -/
def target (tree : FileTree) (path : String) : Except FileFault (List String) :=
  if longestPath < path.utf8ByteSize then .error .nameTooLong
  else if path.endsWith "/" then .error (tree.directoryFault path)
  else match tree.walk (tree.origin path) (names path) with
    | .error fault => .error fault
    | .ok place => if tree.isDirectory place then .error .isDirectory else .ok place

/-- Give the file at a path, new or not, a content. -/
def write (tree : FileTree) (path text : String) : Except FileFault FileTree :=
  match tree.target path with
  | .error fault => .error fault
  | .ok place =>
      let others := tree.files.filter fun file => file.1 ≠ place
      .ok { tree with files := (place, text.toUTF8) :: others }

/-- The tree as a host: reading leaves it alone, writing replaces it. -/
def host : Host (StateM FileTree) where
  read := fun path => do return (← get).read path
  write := fun path text => do
    match (← get).write path text with
    | .error fault => return .error fault
    | .ok tree =>
        set tree
        return .ok ()

end FileTree

end OnboardStorage
