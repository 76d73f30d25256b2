/-!
The fragments that images are put together from.

Site fragments take the place of an instruction, or stand in front of one; library fragments are
laid out once in every image, and the site fragments jump to them.
-/

namespace EvmProbe

/-- A piece of code that images are put together from. -/
inductive Fragment where
  | preamble
  | jumpPatch
  | jumpiPatch
  | codecopyPatch
  | sstorePatch
  | logPatch
  | callPatch
  | callcodePatch
  | delegatecallPatch
  | staticcallPatch
  | returndatasizePatch
  | returndatacopyPatch
  | extcodesizePatch
  | extcodehashPatch
  | extcodecopyPatch
  | checkedDelegatecall
  | sstoreHook
  | logHook
  | callHook
  | returndatacopy
  deriving DecidableEq, Repr

namespace Fragment

/-- Every fragment, in the order in which they are assembled. -/
def all : List Fragment :=
  [.preamble, .jumpPatch, .jumpiPatch, .codecopyPatch, .sstorePatch, .logPatch, .callPatch,
    .callcodePatch, .delegatecallPatch, .staticcallPatch, .returndatasizePatch,
    .returndatacopyPatch, .extcodesizePatch, .extcodehashPatch, .extcodecopyPatch,
    .checkedDelegatecall, .sstoreHook, .logHook, .callHook, .returndatacopy]

/-- The library fragments, in the order in which an image holds them. -/
def library : List Fragment :=
  [.checkedDelegatecall, .sstoreHook, .logHook, .callHook, .returndatacopy]

/-- The name of a fragment. -/
def name : Fragment → String
  | .preamble => "preamble"
  | .jumpPatch => "jump-patch"
  | .jumpiPatch => "jumpi-patch"
  | .codecopyPatch => "codecopy-patch"
  | .sstorePatch => "sstore-patch"
  | .logPatch => "log-patch"
  | .callPatch => "call-patch"
  | .callcodePatch => "callcode-patch"
  | .delegatecallPatch => "delegatecall-patch"
  | .staticcallPatch => "staticcall-patch"
  | .returndatasizePatch => "returndatasize-patch"
  | .returndatacopyPatch => "returndatacopy-patch"
  | .extcodesizePatch => "extcodesize-patch"
  | .extcodehashPatch => "extcodehash-patch"
  | .extcodecopyPatch => "extcodecopy-patch"
  | .checkedDelegatecall => "checked-delegatecall"
  | .sstoreHook => "sstore-hook"
  | .logHook => "log-hook"
  | .callHook => "call-hook"
  | .returndatacopy => "returndatacopy"

theorem mem_all (fragment : Fragment) : fragment ∈ all := by
  cases fragment <;> decide

end Fragment

end EvmProbe
