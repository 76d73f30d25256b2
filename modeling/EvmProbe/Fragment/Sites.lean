import EvmProbe.Fragment.Template

/-!
The code that takes the place of single instructions.

Remarks show the stack on entry, top first.  A site that needs an answer from a library routine or
a router pushes the label `:resume` as the return address.
-/

namespace EvmProbe.Fragment.Template

/-- The first instructions of an image: it enters the runtime. -/
def preamble : Template :=
  [ remark "Image entry. Must assemble to exactly $PREAMBLE_SIZE bytes.",
    pushLabel (.global "runtime"), op .jump ]

/-- Stands for JUMP: the router finds the relocated destination. -/
def jumpPatch : Template :=
  [ remark "[dest]",
    pushLabel (.global "jump-router"), op .jump ]

/-- Stands for JUMPI: the destination is dropped if the condition is zero. -/
def jumpiPatch : Template :=
  [ remark "[dest, cond]",
    swap 1, op .iszero, pushLabel (.lexical "skip"), op .jumpi,
    pushLabel (.global "jump-router"), op .jump,
    label (.lexical "skip"),
    op .jumpdest, op .pop ]

/-- Stands for CODECOPY: the deployed code lies behind the preamble. -/
def codecopyPatch : Template :=
  [ remark "[dst, src, size] -> CODECOPY(dst, src + PREAMBLE_SIZE, size)",
    swap 1, pushConstant 1 .preambleSize, op .add, swap 1, op .codecopy ]

/-- Stands in front of SSTORE. -/
def sstorePatch : Template :=
  [ remark "[slot, value], followed by the site's SSTORE",
    pushLabel (.lexical "resume"), pushLabel (.global "sstore-hook"), op .jump,
    label (.lexical "resume"),
    op .jumpdest ]

/-- Stands in front of LOGn, behind a push of `n`. -/
def logPatch : Template :=
  [ remark "[n, offset, size, topics...], followed by the site's LOGn",
    pushLabel (.lexical "resume"), pushLabel (.global "log-hook"), op .jump,
    label (.lexical "resume"),
    op .jumpdest ]

/-- Stands for CALL. -/
def callPatch : Template :=
  [ remark "[gas, addr, value, argsOffset, argsSize, retOffset, retSize] -> [success]",
    dup 7, dup 7, dup 7, dup 7, dup 7, dup 7, dup 7,
    remark "stash the input before the call can overwrite it",
    dup 5, pushConstant 2 .scratchMemLoc, push 2 0x0104, op .add, dup 7, dup 7, push 1 0x04,
    op .gas, op .staticcall, op .pop, op .call, push 1 0x00, pushLabel (.lexical "resume"),
    pushLabel (.global "call-hook"), op .jump,
    label (.lexical "resume"),
    op .jumpdest ]

/-- Stands for CALLCODE. -/
def callcodePatch : Template :=
  [ remark "[gas, addr, value, argsOffset, argsSize, retOffset, retSize] -> [success]",
    dup 7, dup 7, dup 7, dup 7, dup 7, dup 7, dup 7,
    remark "stash the input before the call can overwrite it",
    dup 5, pushConstant 2 .scratchMemLoc, push 2 0x0104, op .add, dup 7, dup 7, push 1 0x04,
    op .gas, op .staticcall, op .pop, op .callcode, push 1 0x04, pushLabel (.lexical "resume"),
    pushLabel (.global "call-hook"), op .jump,
    label (.lexical "resume"),
    op .jumpdest ]

/-- Stands for DELEGATECALL; the reported value is zero. -/
def delegatecallPatch : Template :=
  [ remark "[gas, addr, argsOffset, argsSize, retOffset, retSize] -> [success]",
    dup 6, dup 6, dup 6, dup 6, dup 6, dup 6,
    remark "stash the input before the call can overwrite it",
    dup 4, pushConstant 2 .scratchMemLoc, push 2 0x0104, op .add, dup 6, dup 6, push 1 0x04,
    op .gas, op .staticcall, op .pop, op .delegatecall,
    remark "value = 0",
    push 1 0x00, swap 3, swap 2, swap 1, push 1 0x02, pushLabel (.lexical "resume"),
    pushLabel (.global "call-hook"), op .jump,
    label (.lexical "resume"),
    op .jumpdest ]

/-- Stands for STATICCALL; the reported value is zero. -/
def staticcallPatch : Template :=
  [ remark "[gas, addr, argsOffset, argsSize, retOffset, retSize] -> [success]",
    dup 6, dup 6, dup 6, dup 6, dup 6, dup 6,
    remark "stash the input before the call can overwrite it",
    dup 4, pushConstant 2 .scratchMemLoc, push 2 0x0104, op .add, dup 6, dup 6, push 1 0x04,
    op .gas, op .staticcall, op .pop, op .staticcall,
    remark "value = 0",
    push 1 0x00, swap 3, swap 2, swap 1, push 1 0x01, pushLabel (.lexical "resume"),
    pushLabel (.global "call-hook"), op .jump,
    label (.lexical "resume"),
    op .jumpdest ]

/-- Stands for RETURNDATASIZE: the size of the saved return data. -/
def returndatasizePatch : Template :=
  [ pushConstant 2 .fakeReturndataMemLoc, op .mload ]

/-- Stands for RETURNDATACOPY. -/
def returndatacopyPatch : Template :=
  [ remark "[dst, offset, size]",
    pushLabel (.lexical "resume"), pushLabel (.global "returndatacopy"), op .jump,
    label (.lexical "resume"),
    op .jumpdest ]

/-- Stands for EXTCODESIZE. -/
def extcodesizePatch : Template :=
  [ remark "[addr] -> [size]",
    pushLabel (.lexical "resume"), swap 1, pushLabel (.global "extcodesize-router"), op .jump,
    label (.lexical "resume"),
    op .jumpdest ]

/-- Stands for EXTCODEHASH. -/
def extcodehashPatch : Template :=
  [ remark "[addr] -> [hash]",
    pushLabel (.lexical "resume"), swap 1, pushLabel (.global "extcodehash-router"), op .jump,
    label (.lexical "resume"),
    op .jumpdest ]

/-- Stands for EXTCODECOPY. -/
def extcodecopyPatch : Template :=
  [ remark "[addr, dst, offset, size] -> router with [addr, dst, offset, size, ret]",
    pushLabel (.lexical "resume"), swap 4, swap 3, swap 2, swap 1,
    pushLabel (.global "extcodecopy-router"), op .jump,
    label (.lexical "resume"),
    op .jumpdest ]

end EvmProbe.Fragment.Template
