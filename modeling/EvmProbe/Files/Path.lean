import EvmProbe.Text.Fields

/-!
Paths of files.
-/

namespace EvmProbe.Path

/-- A path below a directory; an absolute path stands for itself. -/
def join (directory path : String) : String :=
  if path.startsWith "/" ∨ directory.isEmpty then path
  else if directory.endsWith "/" then directory ++ path
  else directory ++ "/" ++ path

/-- A path below a directory, one step after the other. -/
def joinAll (directory : String) (steps : List String) : String := steps.foldl join directory

/-- The steps of a path. -/
def steps (path : String) : List String :=
  ((Text.fields (· == '/') path.toList).map String.ofList).filter fun step =>
    step ≠ "" ∧ step ≠ "."

end EvmProbe.Path
