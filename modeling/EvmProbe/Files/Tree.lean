import EvmProbe.Files.Operations
import EvmProbe.Files.Path

/-!
A model of a file system: a tree of directories and files.

`FileTree.files` are the operations on the model.
-/

namespace EvmProbe

/-- A tree of directories and files, as what there is at every path. The root is always there. -/
structure FileTree where
  /-- A directory has no content. -/
  entries : List (List String × Option String) := []
  deriving Repr

namespace FileTree

/-- What there is at a path: a directory or the content of a file. -/
def find? (tree : FileTree) (path : List String) : Option (Option String) :=
  if path.isEmpty then some none else tree.entries.lookup path

/-- Puts a directory or a file at a path. -/
def put (tree : FileTree) (path : List String) (content : Option String) : FileTree :=
  ⟨(path, content) :: tree.entries.filter (·.1 != path)⟩

/-- Takes away what there is at a path. -/
def erase (tree : FileTree) (path : List String) : FileTree :=
  ⟨tree.entries.filter (·.1 != path)⟩

/-- The place that steps from a directory lead to. All but the last have to lead to directories. -/
def locate (tree : FileTree) (place : List String) : List String → Except FileError (List String)
  | [] => .ok place
  | ".." :: rest => locate tree place.dropLast rest
  | [step] => .ok (place ++ [step])
  | step :: rest =>
    match tree.find? (place ++ [step]) with
    | none => .error .notFound
    | some (some _) => .error .notADirectory
    | some none => locate tree (place ++ [step]) rest

/-- The text of a file. -/
def read (tree : FileTree) (path : String) : Except FileError String := do
  match tree.find? (← tree.locate [] (Path.steps path)) with
  | none => .error .notFound
  | some none => .error .isADirectory
  | some (some content) => .ok content

/-- Writes a file. -/
def write (tree : FileTree) (path content : String) : Except FileError FileTree := do
  let place ← tree.locate [] (Path.steps path)
  match tree.find? place with
  | some none => .error .isADirectory
  | _ => .ok (tree.put place content)

/-- Removes a file. -/
def remove (tree : FileTree) (path : String) : Except FileError FileTree := do
  let place ← tree.locate [] (Path.steps path)
  match tree.find? place with
  | none => .error .notFound
  | some none => .error .isADirectory
  | some (some _) => .ok (tree.erase place)

/-- Creates the directories that steps from a directory lead through. -/
def createFrom (tree : FileTree) (place : List String) : List String → Except FileError FileTree
  | [] => .ok tree
  | ".." :: rest => createFrom tree place.dropLast rest
  | step :: rest =>
    let next := place ++ [step]
    match tree.find? next with
    | some none => createFrom tree next rest
    | some (some _) => .error (if rest.isEmpty then .alreadyExists else .notADirectory)
    | none => createFrom (tree.put next none) next rest

/-- Creates a directory, together with those above it. -/
def createDirectories (tree : FileTree) (path : String) : Except FileError FileTree :=
  tree.createFrom [] (Path.steps path)

/-- Whether there is a file or a directory. -/
def isPresent (tree : FileTree) (path : String) : Bool :=
  match tree.locate [] (Path.steps path) with
  | .ok place => (tree.find? place).isSome
  | .error _ => false

/-- The files of the tree and their contents. -/
def contents (tree : FileTree) : List (List String × String) :=
  tree.entries.filterMap fun (path, content) => content.map (path, ·)

/-- Changes the tree, unless that fails. -/
def change (act : FileTree → Except FileError FileTree) : StateM FileTree (Except FileError Unit) :=
  fun tree =>
    match act tree with
    | .ok changed => (.ok (), changed)
    | .error cause => (.error cause, tree)

/-- The operations on the model. -/
def files : Files (StateM FileTree) where
  read path tree := (tree.read path, tree)
  write path content := change (·.write path content)
  remove path := change (·.remove path)
  createDirectories path := change (·.createDirectories path)
  isPresent path tree := (tree.isPresent path, tree)

end FileTree

end EvmProbe
