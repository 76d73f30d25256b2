import EvmProbe.Image.AccountRouters
import EvmProbe.Image.JumpRouter
import EvmProbe.Program.Encoding

/-!
Images: deployed code with its instrumented copy behind it.

An image is laid out as

    preamble | deployed code | 32 zeros | runtime | library | jump router | account routers

so that code that reads itself still finds the deployed bytes, five bytes further on.  Of the zeros
a push that is cut off at the end of the deployed code can swallow no more than there are.
-/

namespace EvmProbe

/-- The selectors of the hooks contract. -/
structure HookSelectors where
  sstore : Selector := 0
  log : Selector := 0
  call : Selector := 0
  deriving DecidableEq, Repr

/-- How deployed code is patched. -/
structure PatchOptions where
  /-- The account that hooks call into. -/
  hooksAddress : Address := 0
  /-- What ORIGIN reports. -/
  origin : Address := 0
  /-- Only logs are reported. -/
  logsOnly : Bool := false
  selectors : HookSelectors := {}
  /-- The deployed code of every account that carries an image. -/
  accounts : Accounts := AddressMap.empty
  deriving Repr

/-- Why there is no image. -/
inductive PatchError where
  | environment (cause : Environment.ShapeMismatch)
  | fragment (cause : Fragment.Error)
  | preambleSize (got : Nat)
  | program (cause : ProgramError)
  deriving DecidableEq, Repr

/-- The wording of an error, followed by its causes. -/
def PatchError.causes : PatchError → List String
  | .environment cause => [cause.message]
  | .fragment cause => cause.causes
  | .preambleSize got => [s!"preamble must be {Environment.preambleSize} bytes, got {got}"]
  | .program cause => [cause.message]

/-- Patches code; the fragments are assembled once and used for every image. -/
structure Patcher where
  options : PatchOptions
  fragments : Fragments

namespace Patcher

/-- The constants that the fragments use. -/
def environment (options : PatchOptions) : Except Environment.ShapeMismatch Environment := do
  let env ← Environment.defaults.bind .hooksContractAddress (.address options.hooksAddress)
  let env ← env.bind .handleSpySstoreSelector (.selector options.selectors.sstore)
  let env ← env.bind .handleSpyLogSelector (.selector options.selectors.log)
  env.bind .handleSpyCallSelector (.selector options.selectors.call)

/-- A patcher whose fragments belong to scopes from `first` on. -/
def new (options : PatchOptions) (first : Scope) : Except PatchError Patcher :=
  match environment options with
  | .error cause => .error (.environment cause)
  | .ok env =>
    match Fragments.assemble env first with
    | .error cause => .error (.fragment cause)
    | .ok fragments => .ok ⟨options, fragments⟩

/-- Records the deployed code of an account. Images patched from now on report it. -/
def insertAccount (patcher : Patcher) (address : Address) (code : DeployedCode) : Patcher :=
  { patcher with options :=
    { patcher.options with accounts := patcher.options.accounts.insert address code } }

/-- The number of zeros behind the deployed code. -/
def padding : Nat := 32

/-- The sections of an image, in order. Scopes are handed out from `first` on. -/
def sections (patcher : Patcher) (first : Scope) (code : Bytes) : List (List Instruction) :=
  let settings : Image.Settings := ⟨patcher.options.origin, patcher.options.logsOnly⟩
  let program := disassemble first code
  let inner := first.after (scopesOf program)
  let runtime := Image.runtime settings patcher.fragments code.length inner program
  let behind := inner.after program.length
  [patcher.fragments.get .preamble, [.data code], [.data (List.replicate padding 0)], runtime] ++
    Fragment.library.map patcher.fragments.get ++
    [Image.jumpRouter behind runtime] ++
    Image.accountRouters (behind.after 1) patcher.options.accounts

/-- Lays out sections one behind the other. -/
def layOutAll (start : Nat) : List (List Instruction) → List (List Instruction) × Nat
  | [] => ([], start)
  | group :: rest =>
    let (group, stop) := layOut start group
    let (rest, stop) := layOutAll stop rest
    (group :: rest, stop)

/-- Writes sections one after the other. -/
def encodeAll (buffer : Array UInt8) :
    List (List Instruction) → Array UInt8 × Except Encoding.Error Unit
  | [] => (buffer, .ok ())
  | group :: rest =>
    match encodeInto 0 buffer group with
    | (buffer, .ok ()) => encodeAll buffer rest
    | (buffer, .error cause) => (buffer, .error cause)

/-- Lays out, links and writes sections. -/
def encodeSections (sections : List (List Instruction)) : Except ProgramError Bytes :=
  let (placed, size) := layOutAll 0 sections
  match link placed with
  | (_, .error cause) => .error (.link cause)
  | (linked, .ok ()) =>
    match encodeAll (Array.replicate size 0) linked with
    | (_, .error cause) => .error (.encode cause)
    | (buffer, .ok ()) => .ok buffer.toList

/-- The image of deployed code; no code has no image. Scopes are handed out from `first` on. -/
def patchFrom (patcher : Patcher) (first : Scope) (code : Bytes) : Except PatchError Bytes :=
  if code.isEmpty then .ok []
  else
    let preambleSize := codeSize (patcher.fragments.get .preamble)
    if preambleSize ≠ Environment.preambleSize then .error (.preambleSize preambleSize)
    else match encodeSections (patcher.sections first code) with
      | .ok image => .ok image
      | .error cause => .error (.program cause)

/-- The first scope that is not taken by a fragment. -/
def firstScope : Scope := ⟨Fragment.all.length⟩

/-- The image of deployed code. -/
def patch (patcher : Patcher) (code : Bytes) : Except PatchError Bytes :=
  patcher.patchFrom firstScope code

end Patcher

/-- Patches the code of a single account. -/
def patchCode (options : PatchOptions) (code : Bytes) : Except PatchError Bytes := do
  (← Patcher.new options ⟨0⟩).patch code

end EvmProbe
