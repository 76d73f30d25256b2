import EvmProbe.Hex

/-!
The opcodes of the EVM.

Every byte decodes to an opcode (`Opcode.ofByte`); a byte without a defined instruction stays
`undefined`.  `data` is no opcode of the machine: it stands for a run of raw bytes in a stream of
instructions.  Families of opcodes (pushes, duplications, swaps, logs) are one constructor with
an index.

* `toByte?_ofByte`: decoding and encoding a byte gives it back;
* `width_ofByte`: a decoded opcode has immediate bytes exactly if its byte is one of
  PUSH1..PUSH32.
-/

namespace EvmProbe

/-- An EVM opcode, or a run of raw bytes. -/
inductive Opcode where
  | stop | add | mul | sub | div | sdiv | mod | smod | addmod | mulmod | exp | signextend | lt
  | gt | slt | sgt | eq | iszero | and | or | xor | not | byte | shl | shr | sar | keccak256
  | address | balance | origin | caller | callvalue | calldataload | calldatasize
  | calldatacopy | codesize | codecopy | gasprice | extcodesize | extcodecopy | returndatasize
  | returndatacopy | extcodehash | blockhash | coinbase | timestamp | number | prevrandao
  | gaslimit | chainid | selfbalance | basefee | blobhash | blobbasefee | pop | mload | mstore
  | mstore8 | sload | sstore | jump | jumpi | pc | msize | gas | jumpdest | tload | tstore
  | mcopy | create | call | callcode | return_ | delegatecall | create2 | staticcall | revert
  | invalid | selfdestruct
  /-- PUSHn: pushes the `n` bytes that follow, for PUSH0 the number zero. -/
  | push (width : Fin 33)
  /-- DUPn, with `depth = n - 1`. -/
  | dup (depth : Fin 16)
  /-- SWAPn, with `depth = n - 1`. -/
  | swap (depth : Fin 16)
  /-- LOGn. -/
  | log (topics : Fin 5)
  /-- A byte kept as it is. -/
  | undefined (byte : UInt8)
  /-- A run of raw bytes. -/
  | data
  deriving DecidableEq, Repr, Inhabited

namespace Opcode

/-- The byte an opcode is encoded as. -/
def toByte? : Opcode → Option UInt8
  | .stop => some 0x00
  | .add => some 0x01
  | .mul => some 0x02
  | .sub => some 0x03
  | .div => some 0x04
  | .sdiv => some 0x05
  | .mod => some 0x06
  | .smod => some 0x07
  | .addmod => some 0x08
  | .mulmod => some 0x09
  | .exp => some 0x0a
  | .signextend => some 0x0b
  | .lt => some 0x10
  | .gt => some 0x11
  | .slt => some 0x12
  | .sgt => some 0x13
  | .eq => some 0x14
  | .iszero => some 0x15
  | .and => some 0x16
  | .or => some 0x17
  | .xor => some 0x18
  | .not => some 0x19
  | .byte => some 0x1a
  | .shl => some 0x1b
  | .shr => some 0x1c
  | .sar => some 0x1d
  | .keccak256 => some 0x20
  | .address => some 0x30
  | .balance => some 0x31
  | .origin => some 0x32
  | .caller => some 0x33
  | .callvalue => some 0x34
  | .calldataload => some 0x35
  | .calldatasize => some 0x36
  | .calldatacopy => some 0x37
  | .codesize => some 0x38
  | .codecopy => some 0x39
  | .gasprice => some 0x3a
  | .extcodesize => some 0x3b
  | .extcodecopy => some 0x3c
  | .returndatasize => some 0x3d
  | .returndatacopy => some 0x3e
  | .extcodehash => some 0x3f
  | .blockhash => some 0x40
  | .coinbase => some 0x41
  | .timestamp => some 0x42
  | .number => some 0x43
  | .prevrandao => some 0x44
  | .gaslimit => some 0x45
  | .chainid => some 0x46
  | .selfbalance => some 0x47
  | .basefee => some 0x48
  | .blobhash => some 0x49
  | .blobbasefee => some 0x4a
  | .pop => some 0x50
  | .mload => some 0x51
  | .mstore => some 0x52
  | .mstore8 => some 0x53
  | .sload => some 0x54
  | .sstore => some 0x55
  | .jump => some 0x56
  | .jumpi => some 0x57
  | .pc => some 0x58
  | .msize => some 0x59
  | .gas => some 0x5a
  | .jumpdest => some 0x5b
  | .tload => some 0x5c
  | .tstore => some 0x5d
  | .mcopy => some 0x5e
  | .create => some 0xf0
  | .call => some 0xf1
  | .callcode => some 0xf2
  | .return_ => some 0xf3
  | .delegatecall => some 0xf4
  | .create2 => some 0xf5
  | .staticcall => some 0xfa
  | .revert => some 0xfd
  | .invalid => some 0xfe
  | .selfdestruct => some 0xff
  | .push width => some (UInt8.ofNat (0x5f + width.val))
  | .dup depth => some (UInt8.ofNat (0x80 + depth.val))
  | .swap depth => some (UInt8.ofNat (0x90 + depth.val))
  | .log topics => some (UInt8.ofNat (0xa0 + topics.val))
  | .undefined b => some b
  | .data => none

/-- The opcode of a byte outside the families. -/
def ofPlainByte (byte : UInt8) : Opcode :=
  match byte.toNat with
  | 0x00 => .stop
  | 0x01 => .add
  | 0x02 => .mul
  | 0x03 => .sub
  | 0x04 => .div
  | 0x05 => .sdiv
  | 0x06 => .mod
  | 0x07 => .smod
  | 0x08 => .addmod
  | 0x09 => .mulmod
  | 0x0a => .exp
  | 0x0b => .signextend
  | 0x10 => .lt
  | 0x11 => .gt
  | 0x12 => .slt
  | 0x13 => .sgt
  | 0x14 => .eq
  | 0x15 => .iszero
  | 0x16 => .and
  | 0x17 => .or
  | 0x18 => .xor
  | 0x19 => .not
  | 0x1a => .byte
  | 0x1b => .shl
  | 0x1c => .shr
  | 0x1d => .sar
  | 0x20 => .keccak256
  | 0x30 => .address
  | 0x31 => .balance
  | 0x32 => .origin
  | 0x33 => .caller
  | 0x34 => .callvalue
  | 0x35 => .calldataload
  | 0x36 => .calldatasize
  | 0x37 => .calldatacopy
  | 0x38 => .codesize
  | 0x39 => .codecopy
  | 0x3a => .gasprice
  | 0x3b => .extcodesize
  | 0x3c => .extcodecopy
  | 0x3d => .returndatasize
  | 0x3e => .returndatacopy
  | 0x3f => .extcodehash
  | 0x40 => .blockhash
  | 0x41 => .coinbase
  | 0x42 => .timestamp
  | 0x43 => .number
  | 0x44 => .prevrandao
  | 0x45 => .gaslimit
  | 0x46 => .chainid
  | 0x47 => .selfbalance
  | 0x48 => .basefee
  | 0x49 => .blobhash
  | 0x4a => .blobbasefee
  | 0x50 => .pop
  | 0x51 => .mload
  | 0x52 => .mstore
  | 0x53 => .mstore8
  | 0x54 => .sload
  | 0x55 => .sstore
  | 0x56 => .jump
  | 0x57 => .jumpi
  | 0x58 => .pc
  | 0x59 => .msize
  | 0x5a => .gas
  | 0x5b => .jumpdest
  | 0x5c => .tload
  | 0x5d => .tstore
  | 0x5e => .mcopy
  | 0xf0 => .create
  | 0xf1 => .call
  | 0xf2 => .callcode
  | 0xf3 => .return_
  | 0xf4 => .delegatecall
  | 0xf5 => .create2
  | 0xfa => .staticcall
  | 0xfd => .revert
  | 0xfe => .invalid
  | 0xff => .selfdestruct
  | _ => .undefined byte

/-- Decodes a byte. -/
def ofByte (byte : UInt8) : Opcode :=
  let n := byte.toNat
  if h : 0x5f ≤ n ∧ n ≤ 0x7f then .push ⟨n - 0x5f, by omega⟩
  else if h : 0x80 ≤ n ∧ n ≤ 0x8f then .dup ⟨n - 0x80, by omega⟩
  else if h : 0x90 ≤ n ∧ n ≤ 0x9f then .swap ⟨n - 0x90, by omega⟩
  else if h : 0xa0 ≤ n ∧ n ≤ 0xa4 then .log ⟨n - 0xa0, by omega⟩
  else ofPlainByte byte

/-- The name of an opcode in listings; an undefined byte has none. -/
def mnemonic : Opcode → Option String
  | .stop => some "STOP"
  | .add => some "ADD"
  | .mul => some "MUL"
  | .sub => some "SUB"
  | .div => some "DIV"
  | .sdiv => some "SDIV"
  | .mod => some "MOD"
  | .smod => some "SMOD"
  | .addmod => some "ADDMOD"
  | .mulmod => some "MULMOD"
  | .exp => some "EXP"
  | .signextend => some "SIGNEXTEND"
  | .lt => some "LT"
  | .gt => some "GT"
  | .slt => some "SLT"
  | .sgt => some "SGT"
  | .eq => some "EQ"
  | .iszero => some "ISZERO"
  | .and => some "AND"
  | .or => some "OR"
  | .xor => some "XOR"
  | .not => some "NOT"
  | .byte => some "BYTE"
  | .shl => some "SHL"
  | .shr => some "SHR"
  | .sar => some "SAR"
  | .keccak256 => some "KECCAK256"
  | .address => some "ADDRESS"
  | .balance => some "BALANCE"
  | .origin => some "ORIGIN"
  | .caller => some "CALLER"
  | .callvalue => some "CALLVALUE"
  | .calldataload => some "CALLDATALOAD"
  | .calldatasize => some "CALLDATASIZE"
  | .calldatacopy => some "CALLDATACOPY"
  | .codesize => some "CODESIZE"
  | .codecopy => some "CODECOPY"
  | .gasprice => some "GASPRICE"
  | .extcodesize => some "EXTCODESIZE"
  | .extcodecopy => some "EXTCODECOPY"
  | .returndatasize => some "RETURNDATASIZE"
  | .returndatacopy => some "RETURNDATACOPY"
  | .extcodehash => some "EXTCODEHASH"
  | .blockhash => some "BLOCKHASH"
  | .coinbase => some "COINBASE"
  | .timestamp => some "TIMESTAMP"
  | .number => some "NUMBER"
  | .prevrandao => some "PREVRANDAO"
  | .gaslimit => some "GASLIMIT"
  | .chainid => some "CHAINID"
  | .selfbalance => some "SELFBALANCE"
  | .basefee => some "BASEFEE"
  | .blobhash => some "BLOBHASH"
  | .blobbasefee => some "BLOBBASEFEE"
  | .pop => some "POP"
  | .mload => some "MLOAD"
  | .mstore => some "MSTORE"
  | .mstore8 => some "MSTORE8"
  | .sload => some "SLOAD"
  | .sstore => some "SSTORE"
  | .jump => some "JUMP"
  | .jumpi => some "JUMPI"
  | .pc => some "PC"
  | .msize => some "MSIZE"
  | .gas => some "GAS"
  | .jumpdest => some "JUMPDEST"
  | .tload => some "TLOAD"
  | .tstore => some "TSTORE"
  | .mcopy => some "MCOPY"
  | .create => some "CREATE"
  | .call => some "CALL"
  | .callcode => some "CALLCODE"
  | .return_ => some "RETURN"
  | .delegatecall => some "DELEGATECALL"
  | .create2 => some "CREATE2"
  | .staticcall => some "STATICCALL"
  | .revert => some "REVERT"
  | .invalid => some "INVALID"
  | .selfdestruct => some "SELFDESTRUCT"
  | .push width => some s!"PUSH{width.val}"
  | .dup depth => some s!"DUP{depth.val + 1}"
  | .swap depth => some s!"SWAP{depth.val + 1}"
  | .log topics => some s!"LOG{topics.val}"
  | .undefined _ => none
  | .data => some "DATA"

/-- Every opcode that has a name. -/
def named : List Opcode :=
  [.stop, .add, .mul, .sub, .div, .sdiv, .mod, .smod, .addmod, .mulmod, .exp, .signextend,
    .lt, .gt, .slt, .sgt, .eq, .iszero, .and, .or, .xor, .not, .byte, .shl, .shr, .sar,
    .keccak256, .address, .balance, .origin, .caller, .callvalue, .calldataload, .calldatasize,
    .calldatacopy, .codesize, .codecopy, .gasprice, .extcodesize, .extcodecopy,
    .returndatasize, .returndatacopy, .extcodehash, .blockhash, .coinbase, .timestamp, .number,
    .prevrandao, .gaslimit, .chainid, .selfbalance, .basefee, .blobhash, .blobbasefee, .pop,
    .mload, .mstore, .mstore8, .sload, .sstore, .jump, .jumpi, .pc, .msize, .gas, .jumpdest,
    .tload, .tstore, .mcopy, .create, .call, .callcode, .return_, .delegatecall, .create2,
    .staticcall, .revert, .invalid, .selfdestruct] ++
    (List.finRange 33).map push ++ (List.finRange 16).map dup ++
    (List.finRange 16).map swap ++ (List.finRange 5).map log ++ [.data]

/-- PUSHn, for widths up to 32. -/
def pushN (width : Nat) : Opcode := .push ⟨width % 33, Nat.mod_lt _ (by decide)⟩

/-- DUPn, for depths from 1 to 16. -/
def dupN (depth : Nat) : Opcode := .dup ⟨(depth - 1) % 16, Nat.mod_lt _ (by decide)⟩

/-- SWAPn, for depths from 1 to 16. -/
def swapN (depth : Nat) : Opcode := .swap ⟨(depth - 1) % 16, Nat.mod_lt _ (by decide)⟩

/-- The opcodes by name, with the two names that were given up for newer ones. -/
def dictionary : List (String × Opcode) :=
  named.filterMap (fun op => op.mnemonic.map (·, op)) ++
    [("SHA3", .keccak256), ("DIFFICULTY", .prevrandao)]

/-- Looks up an upper-case name. -/
def ofMnemonic? (name : String) : Option Opcode := dictionary.lookup name

/-- The number of immediate bytes that follow an encoded byte: PUSH1..PUSH32 have some. -/
def widthOfByte (byte : UInt8) : Nat :=
  if 0x60 ≤ byte.toNat ∧ byte.toNat ≤ 0x7f then byte.toNat - 0x5f else 0

/-- The number of immediate bytes of an opcode, read off its byte. -/
def width (op : Opcode) : Nat :=
  match op.toByte? with
  | some b => widthOfByte b
  | none => 0

/-- Whether the opcode takes immediate bytes. -/
def isPush (op : Opcode) : Bool := 0 < op.width

/-- The encoded size of an opcode with its immediate bytes; raw bytes bring their own. -/
def size : Opcode → Nat
  | .data => 0
  | op => 1 + op.width

/-- The number of topics of LOG0..LOG4. -/
def logTopics (op : Opcode) : Option Nat :=
  match op.toByte? with
  | some b => if 0xa0 ≤ b.toNat ∧ b.toNat ≤ 0xa4 then some (b.toNat - 0xa0) else none
  | none => none

/-- Whether control never passes from the opcode to the instruction behind it. -/
def isTerminator : Opcode → Bool
  | .stop | .return_ | .revert | .invalid | .selfdestruct | .jump => true
  | _ => false

/-- The text of an opcode in listings. -/
def text : Opcode → String
  | .undefined b => "UNKNOWN_0x" ++ Hex.encode [b]
  | op => op.mnemonic.getD ""

/-! ## Bytes and opcodes -/

private theorem toByte?_ofByte_fin : ∀ n : Fin 256, (ofByte (UInt8.ofNat n.val)).toByte? =
    some (UInt8.ofNat n.val) := by
  decide +kernel

/-- Decoding a byte and encoding it again gives the byte. -/
@[simp] theorem toByte?_ofByte (byte : UInt8) : (ofByte byte).toByte? = some byte := by
  simpa using toByte?_ofByte_fin ⟨byte.toNat, byte.toNat_lt⟩

/-- A decoded opcode has the width of its byte. -/
@[simp] theorem width_ofByte (byte : UInt8) : (ofByte byte).width = widthOfByte byte := by
  simp [width]

theorem widthOfByte_le (byte : UInt8) : widthOfByte byte ≤ 32 := by
  unfold widthOfByte; split <;> omega

end Opcode

end EvmProbe
