import EvmProbe.Failure

/-!
What the library asks of a file system.

The operations run in a monad of their own, so that the same code works on files and on a model of
them.
-/

namespace EvmProbe

/-- The operations of a file system. -/
structure Files (m : Type → Type) where
  /-- The text of a file. -/
  read : (path : String) → m (Except FileError String)
  /-- Writes a file. Its directory has to be there. -/
  write : (path content : String) → m (Except FileError Unit)
  /-- Removes a file. -/
  remove : (path : String) → m (Except FileError Unit)
  /-- Creates a directory, together with those above it. -/
  createDirectories : (path : String) → m (Except FileError Unit)
  /-- Whether there is a file or a directory. -/
  isPresent : (path : String) → m Bool

end EvmProbe
