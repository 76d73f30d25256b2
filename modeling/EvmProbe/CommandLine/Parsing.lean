import EvmProbe.CommandLine.Argument

/-!
Parsing the arguments of a command.

The value of an option is only looked at when the next argument has been recognised, or at the end.
An argument that is not known is therefore reported before a fault in the value before it.
-/

namespace EvmProbe.CommandLine

/-- What has been parsed. -/
structure Progress where
  settings : Settings := []
  /-- The option that was named last, with its value if that has been given. -/
  pending : Option (Parameter × Option String) := none
  /-- Whether the positional parameter has been given. -/
  isPlaced : Bool := false
  deriving Repr

namespace Progress

/-- Records a parameter, which must not have been given before. -/
def record (progress : Progress) (parameter : Parameter) (text : Option String) :
    Except Rejection Progress :=
  if progress.settings.has parameter.name then .error .conflict
  else
    match parameter.kind, text with
    | some kind, some text => do
      let value ← kind.read text
      return { progress with settings := progress.settings ++ [(parameter.name, some value)] }
    | _, _ => .ok { progress with settings := progress.settings ++ [(parameter.name, none)] }

/-- Looks at the value of the option that was named last. -/
def settle (progress : Progress) : Except Rejection Progress :=
  match progress.pending with
  | none => .ok progress
  | some (_, none) => .error .missingValue
  | some (parameter, some text) => { progress with pending := none }.record parameter (some text)

/-- Goes on to an option whose value follows. -/
def await (progress : Progress) (parameter : Parameter) : Except Rejection Progress := do
  return { ← progress.settle with pending := some (parameter, none) }

/-- Goes on to a parameter that is complete. -/
def take (progress : Progress) (parameter : Parameter) (text : Option String) :
    Except Rejection Progress := do
  (← progress.settle).record parameter text

/-- Help was asked for. -/
def askHelp (progress : Progress) : Except Rejection Progress := do
  let _ ← progress.settle
  .error .help

/-- A parameter that is named in full, with a value behind an equals sign or without one. -/
def takeLong (progress : Progress) (grammar : Grammar) (name : String) (value : Option String) :
    Except Rejection Progress :=
  if name = "help" then
    if value.isSome then .error .unexpectedValue else progress.askHelp
  else
    match grammar.parameters.find? (·.name = name) with
    | none => .error .unknownArgument
    | some parameter =>
      match parameter.kind, value with
      | none, some _ => .error .unexpectedValue
      | none, none => progress.take parameter none
      | some _, some text => progress.take parameter (some text)
      | some _, none => progress.await parameter

/-- Letters behind a single dash. What follows the letter of an option is its value. -/
def takeLetters (progress : Progress) (grammar : Grammar) : List Char → Except Rejection Progress
  | [] => .ok progress
  | letter :: rest =>
    if letter = 'h' then progress.askHelp
    else
      match grammar.parameters.find? (·.letter = some letter) with
      | none => .error .unknownArgument
      | some parameter =>
        match parameter.kind, rest with
        | none, rest => do (← progress.take parameter none).takeLetters grammar rest
        | some _, [] => progress.await parameter
        | some _, '=' :: value => progress.take parameter (some (String.ofList value))
        | some _, value => progress.take parameter (some (String.ofList value))

/-- An argument that is not named. -/
def place (progress : Progress) (grammar : Grammar) (text : String) : Except Rejection Progress :=
  match grammar.positional with
  | none => .error .unknownArgument
  | some parameter =>
    if progress.isPlaced then .error .unknownArgument
    else do
      return { ← progress.settle with pending := some (parameter, some text), isPlaced := true }

/-- An argument in front of the two dashes. -/
def takeArgument (progress : Progress) (grammar : Grammar) (text : String) :
    Except Rejection Progress :=
  match text.toList with
  | '-' :: '-' :: rest =>
    let name := String.ofList (rest.takeWhile (· ≠ '='))
    match rest.dropWhile (· ≠ '=') with
    | [] => progress.takeLong grammar name none
    | _ :: value => progress.takeLong grammar name (some (String.ofList value))
  | '-' :: letter :: rest => progress.takeLetters grammar (letter :: rest)
  | _ =>
    match progress.pending with
    | some (parameter, none) => .ok { progress with pending := some (parameter, some text) }
    | _ => progress.place grammar text

/-- Arguments up to two dashes, behind which none is named. -/
def takeAll (progress : Progress) (grammar : Grammar) : List String → Except Rejection Progress
  | [] => progress.settle
  | "--" :: rest => do (← rest.foldlM (·.place grammar ·) progress).settle
  | text :: rest => do (← progress.takeArgument grammar text).takeAll grammar rest

/-- The parameters that are given by environment variables, unless they have been given. -/
def takeEnvironment (progress : Progress) (grammar : Grammar)
    (environment : List (String × String)) : Except Rejection Progress :=
  grammar.parameters.foldlM (fun progress parameter =>
    match parameter.environmentName.bind (List.lookup · environment) with
    | none => .ok progress
    | some text =>
      if progress.settings.has parameter.name then .ok progress
      else progress.record parameter (some text)) progress

end Progress

/-- Whether two parameters that exclude each other were given. -/
def hasConflict (grammar : Grammar) (settings : Settings) : Bool :=
  (grammar.parameters ++ grammar.positional.toList).any fun parameter =>
    settings.has parameter.name && parameter.conflicts.any settings.has

/-- Parses the arguments of a command. -/
def parse (grammar : Grammar) (environment : List (String × String)) (arguments : List String) :
    Except Rejection Settings := do
  let progress ← ({} : Progress).takeAll grammar arguments
  let settings := (← progress.takeEnvironment grammar environment).settings
  if hasConflict grammar settings then .error .conflict
  else if !grammar.required.isEmpty && !grammar.required.any settings.has then
    .error .missingArgument
  else .ok settings

end EvmProbe.CommandLine
