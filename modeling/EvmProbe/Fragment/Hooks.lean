import EvmProbe.Fragment.Template

/-!
The routines that every image holds once.

Remarks show the stack on entry, top first.  The hooks put calldata together in scratch memory and
pass it to the hooks contract by delegate call.
-/

namespace EvmProbe.Fragment.Template

/-- Calls the hooks contract with the calldata in scratch memory, and reverts if that fails. -/
def checkedDelegatecall : Template :=
  [ remark "[ret, argsSize]: delegate-calls the hooks contract with calldata at $SCRATCH_MEM_LOC.",
    label (.global "checked-delegatecall"),
    op .jumpdest, push 1 0x00, push 1 0x00, dup 4, pushConstant 2 .scratchMemLoc,
    pushConstant 20 .hooksContractAddress, op .gas, op .delegatecall, pushLabel (.lexical "ok"),
    op .jumpi, pushConstant 32 .hookCallFailedError, push 1 0x00, op .mstore, push 1 0x20,
    push 1 0x00, op .revert,
    label (.lexical "ok"),
    op .jumpdest, swap 1, op .pop, op .jump ]

/-- Reports a storage write. -/
def sstoreHook : Template :=
  [ remark "[ret, slot, value] -> handleSpySstore(slot, value)",
    label (.global "sstore-hook"),
    op .jumpdest, pushConstant 4 .handleSpySstoreSelector, push 1 0xe0, op .shl,
    pushConstant 2 .scratchMemLoc, op .mstore, dup 2, pushConstant 2 .scratchMemLoc, push 1 0x04,
    op .add, op .mstore, dup 3, pushConstant 2 .scratchMemLoc, push 1 0x24, op .add, op .mstore,
    push 1 0x44, pushLabel (.lexical "recorded"), pushLabel (.global "checked-delegatecall"),
    op .jump,
    label (.lexical "recorded"),
    op .jumpdest, op .jump ]

/-- Reports a log. -/
def logHook : Template :=
  [ remark "[ret, n, offset, size, topic0..] -> handleSpyLog(n, topic0, .., topic3, data)",
    label (.global "log-hook"),
    op .jumpdest, pushConstant 4 .handleSpyLogSelector, push 1 0xe0, op .shl,
    pushConstant 2 .scratchMemLoc, op .mstore, dup 2, pushConstant 2 .scratchMemLoc, push 1 0x04,
    op .add, op .mstore, push 1 0x00, pushConstant 2 .scratchMemLoc, push 1 0x24, op .add,
    op .mstore, push 1 0x00, pushConstant 2 .scratchMemLoc, push 1 0x44, op .add, op .mstore,
    push 1 0x00, pushConstant 2 .scratchMemLoc, push 1 0x64, op .add, op .mstore, push 1 0x00,
    pushConstant 2 .scratchMemLoc, push 1 0x84, op .add, op .mstore,
    remark "unused topics stay zero; fall through from the highest one present",
    dup 2, push 1 0x04, op .eq, pushLabel (.lexical "topic3"), op .jumpi, dup 2, push 1 0x03,
    op .eq, pushLabel (.lexical "topic2"), op .jumpi, dup 2, push 1 0x02, op .eq,
    pushLabel (.lexical "topic1"), op .jumpi, dup 2, push 1 0x01, op .eq,
    pushLabel (.lexical "topic0"), op .jumpi, pushLabel (.lexical "data"), op .jump,
    label (.lexical "topic3"),
    op .jumpdest, dup 8, pushConstant 2 .scratchMemLoc, push 1 0x84, op .add, op .mstore,
    label (.lexical "topic2"),
    op .jumpdest, dup 7, pushConstant 2 .scratchMemLoc, push 1 0x64, op .add, op .mstore,
    label (.lexical "topic1"),
    op .jumpdest, dup 6, pushConstant 2 .scratchMemLoc, push 1 0x44, op .add, op .mstore,
    label (.lexical "topic0"),
    op .jumpdest, dup 5, pushConstant 2 .scratchMemLoc, push 1 0x24, op .add, op .mstore,
    label (.lexical "data"),
    op .jumpdest, push 1 0xc0, pushConstant 2 .scratchMemLoc, push 1 0xa4, op .add, op .mstore,
    dup 4, pushConstant 2 .scratchMemLoc, push 1 0xc4, op .add, op .mstore,
    remark "identity precompile copies the data after the head",
    dup 4, pushConstant 2 .scratchMemLoc, push 1 0xe4, op .add, dup 6, dup 6, push 1 0x04,
    op .gas, op .staticcall, op .pop, dup 4, push 1 0xe4, op .add, pushLabel (.lexical "logged"),
    pushLabel (.global "checked-delegatecall"), op .jump,
    label (.lexical "logged"),
    op .jumpdest, swap 1, op .pop, op .jump ]

/-- Reports a call that was just made, and saves its return data. -/
def callHook : Template :=
  [ remark "[ret, type, success, gas, addr, value, args, argsSize, ret, retSize] -> [success]",
    remark "Reports handleSpyCall(type, addr, value, gas, success, input, output). The call site",
    remark "has already copied the input to $SCRATCH_MEM_LOC + 0x104.",
    label (.global "call-hook"),
    op .jumpdest,
    remark "save the real return data before the hook call replaces it",
    op .returndatasize, pushConstant 2 .fakeReturndataMemLoc, op .mstore, op .returndatasize,
    push 1 0x00, pushConstant 2 .fakeReturndataMemLoc, push 1 0x20, op .add, op .returndatacopy,
    pushConstant 4 .handleSpyCallSelector, push 1 0xe0, op .shl, pushConstant 2 .scratchMemLoc,
    op .mstore, dup 2, pushConstant 2 .scratchMemLoc, push 1 0x04, op .add, op .mstore, dup 5,
    push 20 0xffffffffffffffffffffffffffffffffffffffff, op .and, pushConstant 2 .scratchMemLoc,
    push 1 0x24, op .add, op .mstore, dup 6, pushConstant 2 .scratchMemLoc, push 1 0x44, op .add,
    op .mstore, dup 4, pushConstant 2 .scratchMemLoc, push 1 0x64, op .add, op .mstore, dup 3,
    pushConstant 2 .scratchMemLoc, push 1 0x84, op .add, op .mstore, push 1 0xe0,
    pushConstant 2 .scratchMemLoc, push 1 0xa4, op .add, op .mstore,
    remark "output offset = 0x100 + ceil32(argsSize)",
    dup 8, push 1 0x1f, op .add, push 1 0x1f, op .not, op .and, push 2 0x0100, op .add,
    pushConstant 2 .scratchMemLoc, push 1 0xc4, op .add, op .mstore, dup 8,
    pushConstant 2 .scratchMemLoc, push 1 0xe4, op .add, op .mstore,
    remark "[outPtr, ...]",
    dup 8, push 1 0x1f, op .add, push 1 0x1f, op .not, op .and, push 2 0x0104, op .add,
    pushConstant 2 .scratchMemLoc, op .add, pushConstant 2 .fakeReturndataMemLoc, op .mload,
    dup 2, op .mstore, pushConstant 2 .fakeReturndataMemLoc, op .mload, dup 2, push 1 0x20,
    op .add, pushConstant 2 .fakeReturndataMemLoc, op .mload,
    pushConstant 2 .fakeReturndataMemLoc, push 1 0x20, op .add, push 1 0x04, op .gas,
    op .staticcall, op .pop,
    remark "argsSize = outPtr + 0x20 + returndatasize - $SCRATCH_MEM_LOC",
    pushConstant 2 .fakeReturndataMemLoc, op .mload, op .add, push 1 0x20, op .add,
    pushConstant 2 .scratchMemLoc, swap 1, op .sub, pushLabel (.lexical "recorded"),
    pushLabel (.global "checked-delegatecall"), op .jump,
    label (.lexical "recorded"),
    op .jumpdest, swap 1, op .pop, swap 1, swap 8, op .pop, swap 6, op .pop, op .pop, op .pop,
    op .pop, op .pop, op .pop, op .jump ]

/-- Copies from the saved return data, with the bounds of RETURNDATACOPY. -/
def returndatacopy : Template :=
  [ remark "[ret, dst, offset, size]: RETURNDATACOPY over the saved return data",
    label (.global "returndatacopy"),
    op .jumpdest, dup 4, dup 4, op .add, pushConstant 2 .fakeReturndataMemLoc, op .mload, op .lt,
    pushLabel (.lexical "oob"), op .jumpi, dup 4, dup 3, dup 6, dup 6,
    pushConstant 2 .fakeReturndataMemLoc, push 1 0x20, op .add, op .add, push 1 0x04, op .gas,
    op .staticcall, op .pop, swap 3, op .pop, op .pop, op .pop, op .jump,
    label (.lexical "oob"),
    op .jumpdest, op .invalid ]

end EvmProbe.Fragment.Template
