import EvmProbe.Fragment.Hooks
import EvmProbe.Fragment.Name
import EvmProbe.Fragment.Sites
import EvmProbe.Listing.Assembly

/-!
The fragments, assembled against one environment.
-/

namespace EvmProbe

/-- The listing of a fragment. -/
def Fragment.template : Fragment → Fragment.Template
  | .preamble => Fragment.Template.preamble
  | .jumpPatch => Fragment.Template.jumpPatch
  | .jumpiPatch => Fragment.Template.jumpiPatch
  | .codecopyPatch => Fragment.Template.codecopyPatch
  | .sstorePatch => Fragment.Template.sstorePatch
  | .logPatch => Fragment.Template.logPatch
  | .callPatch => Fragment.Template.callPatch
  | .callcodePatch => Fragment.Template.callcodePatch
  | .delegatecallPatch => Fragment.Template.delegatecallPatch
  | .staticcallPatch => Fragment.Template.staticcallPatch
  | .returndatasizePatch => Fragment.Template.returndatasizePatch
  | .returndatacopyPatch => Fragment.Template.returndatacopyPatch
  | .extcodesizePatch => Fragment.Template.extcodesizePatch
  | .extcodehashPatch => Fragment.Template.extcodehashPatch
  | .extcodecopyPatch => Fragment.Template.extcodecopyPatch
  | .checkedDelegatecall => Fragment.Template.checkedDelegatecall
  | .sstoreHook => Fragment.Template.sstoreHook
  | .logHook => Fragment.Template.logHook
  | .callHook => Fragment.Template.callHook
  | .returndatacopy => Fragment.Template.returndatacopy

/-- A fragment does not assemble. -/
structure Fragment.Error where
  fragment : Fragment
  cause : Listing.Error
  deriving DecidableEq, Repr

/-- The wording of an error and of its cause. -/
def Fragment.Error.causes (e : Fragment.Error) : List String :=
  [s!"failed to assemble fragment {e.fragment.name}", e.cause.message]

/-- The code of every fragment. -/
structure Fragments where
  entries : List (Fragment × List Instruction)

namespace Fragments

/-- Assembles one fragment. -/
def assembleOne (env : Environment) (first : Scope) (entry : Fragment × Nat) :
    Except Fragment.Error (Fragment × List Instruction) :=
  match Listing.assembleLines env (first.after entry.2) (entry.1.template.map .ok) with
  | .ok code => .ok (entry.1, code)
  | .error cause => .error ⟨entry.1, cause⟩

/-- Assembles the fragments in order, each in a scope of its own from `first` on. -/
def assemble (env : Environment) (first : Scope) : Except Fragment.Error Fragments :=
  (Fragment.all.zipIdx.mapM (assembleOne env first)).map Fragments.mk

/-- The code of a fragment. -/
def get (fragments : Fragments) (fragment : Fragment) : List Instruction :=
  (fragments.entries.lookup fragment).getD []

end Fragments

end EvmProbe
