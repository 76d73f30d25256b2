/-!
Failures: an error with the causes below it, outermost first.
-/

namespace EvmProbe

/-- What a file operation can fail with. -/
inductive FileError where
  | notFound
  | alreadyExists
  | notADirectory
  | isADirectory
  /-- Any other failure, as the system words it. -/
  | other (message : String)
  deriving DecidableEq, Repr

/-- The wording of the system. -/
def FileError.message : FileError → String
  | .notFound => "No such file or directory (os error 2)"
  | .alreadyExists => "File exists (os error 17)"
  | .notADirectory => "Not a directory (os error 20)"
  | .isADirectory => "Is a directory (os error 21)"
  | .other message => message

/-- One level of a failure. -/
inductive Cause where
  /-- A message. -/
  | text (message : String)
  /-- A file operation failed. -/
  | file (error : FileError)
  /-- Data has not the form that was asked for. -/
  | form (message : String)
  /-- The answer of a node has not the form that was asked for; its fault is named if found. -/
  | answer (fault : Option String)
  deriving DecidableEq, Repr

/-- The wording of a cause. -/
def Cause.message : Cause → String
  | .text message => message
  | .file error => error.message
  | .form message => message
  | .answer none => "deserialization error"
  | .answer (some fault) => s!"deserialization error: {fault}"

/-- A failure: its causes, outermost first. -/
structure Failure where
  causes : List Cause
  deriving DecidableEq, Repr

namespace Failure

/-- A failure without further causes. -/
def ofText (message : String) : Failure := ⟨[.text message]⟩

/-- Messages from the outermost on. -/
def ofTexts (messages : List String) : Failure := ⟨messages.map .text⟩

/-- Puts a message in front. -/
def within (failure : Failure) (message : String) : Failure := ⟨.text message :: failure.causes⟩

end Failure

end EvmProbe
