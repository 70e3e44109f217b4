import IndexerSettings.Files.Basic

/-!
# Trees of files

A file system that is a value: directories with named entries, files with
their bytes, and symbolic links with their targets.  Paths are followed from
the root or from a current directory, name by name, links included.
-/

namespace IndexerSettings

/-- A directory, a file or a symbolic link. -/
inductive FileTree
  | file (content : ByteArray)
  | directory (entries : List (String × FileTree))
  | link (target : String)

namespace FileTree

instance : Inhabited FileTree := ⟨directory []⟩

/-- The entry of a directory. -/
def entry? (name : String) : FileTree → Option FileTree
  | directory entries => entries.lookup name
  | _ => none

/-- The node at the end of some names, none of them followed if it is a
link. -/
def at? : List String → FileTree → Option FileTree
  | [], node => some node
  | name :: names, node => (node.entry? name).bind (at? names)

/-- The tree with a node put at the end of some names.  Missing directories on
the way are created, and a file or link on the way makes room for one. -/
def put (node : FileTree) : List String → FileTree → FileTree
  | [], _ => node
  | name :: names, tree =>
    let entries := match tree with
      | directory entries => entries
      | _ => []
    let inner := put node names ((entries.lookup name).getD (directory []))
    directory ((name, inner) :: entries.filter (·.1 != name))

/-- The parts of a path between its slashes. -/
def parts (path : String) : List String := path.splitOn "/"

/-- A link in a path is followed at most so often. -/
def linkLimit : Nat := 40

/-- The bytes of a name and of a path that the system takes. -/
def nameLimit : Nat := 255

def pathLimit : Nat := 4095

/-- Follows the parts of a path from the directory at `here`, which is given
by its names from the innermost outward.  A path ends at a directory if it
has an empty last part. -/
def follow (tree : FileTree) (links : Nat) :
    Nat → List String → List String → Except FileError FileTree
  | 0, _, _ => .error .tooManyLinks
  | steps + 1, here, parts =>
    match tree.at? here.reverse with
    | none => .error .notFound
    | some node =>
      match parts with
      | [] => .ok node
      | part :: rest =>
        match node with
        | directory _ =>
          if part = "" ∨ part = "." then follow tree links steps here rest
          else if part = ".." then follow tree links steps here.tail rest
          else if nameLimit < part.utf8ByteSize then .error .nameTooLong
          else match node.entry? part with
            | none => .error .notFound
            | some (link target) =>
              match links with
              | 0 => .error .tooManyLinks
              | links + 1 =>
                let start := if target.startsWith "/" then [] else here
                follow tree links steps start (FileTree.parts target ++ rest)
            | some _ => follow tree links steps (part :: here) rest
        | _ => .error .notDirectory

/-- More steps than any path can take, links included: the parts of a path,
as of the target of a link, are at most one more than its bytes. -/
def stepLimit : Nat := (linkLimit + 1) * (pathLimit + 2)

/-- What a path leads to, from a directory given by its names from the root
on. -/
def resolve (tree : FileTree) (here : List String) (path : String) :
    Except FileError FileTree :=
  if path.contains '\x00' then .error .nulInPath
  else if path.isEmpty then .error .notFound
  else if pathLimit < path.utf8ByteSize then .error .nameTooLong
  else
    follow tree linkLimit stepLimit
      (if path.startsWith "/" then [] else here.reverse) (parts path)

/-- The answers that a tree gives to a program in the directory `here`. -/
def toFileSystem (tree : FileTree) (here : List String) : FileSystem where
  content path := do
    match ← tree.resolve here path with
    | file content => .ok content
    | directory _ => .error .isDirectory
    | link _ => .error .tooManyLinks
  status path := do
    let _ ← tree.resolve here path
    .ok ()

end FileTree

end IndexerSettings
