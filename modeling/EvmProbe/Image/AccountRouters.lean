import EvmProbe.AddressMap
import EvmProbe.Environment
import EvmProbe.Keccak

/-!
The routers that answer for other accounts.

An account that carries an image must go on to report the code it was deployed with.  Each router
compares the address with those of the accounts in a table, answers from the table for these, and
uses the real opcode for all others.  The table is sorted by address.
-/

namespace EvmProbe

/-- What is known of the code an account was deployed with. -/
structure DeployedCode where
  size : Nat
  hash : Word
  deriving DecidableEq, Repr

/-- The size and the hash of code. -/
def DeployedCode.of (code : Bytes) : DeployedCode := ⟨code.length, keccak256 code⟩

/-- Accounts with the code they were deployed with. -/
abbrev Accounts := AddressMap DeployedCode

namespace Image

open Instruction

/-- The entry of a router: the address loses the bits above its 160. -/
def routerEntry (name : String) : List Instruction :=
  [(plain .jumpdest).labelled (.global name), pushBytes (.pushN 20) (List.replicate 20 0xff),
    plain .and]

/-- Goes on at `skip` unless the address is `address`; the address stays on the stack. -/
def matchAddress (address : Address) (skip : Label) : List Instruction :=
  [plain (.dupN 1), pushBytes (.pushN 20) (wordBytes address), plain .eq, plain .iszero,
    pushLabel (.pushN 3) skip, plain .jumpi]

/-- The label behind the test for the entry of index `i`. -/
def skipLabel (i : Nat) : Label := .lexical s!"skip-{i}"

/-- The tests for all entries, each with what is done for it. -/
def accountCases (accounts : Accounts) (answer : DeployedCode → List Instruction) :
    List Instruction :=
  accounts.entries.zipIdx.flatMap fun ((address, code), i) =>
    matchAddress address (skipLabel i) ++ answer code ++
      [(plain .jumpdest).labelled (skipLabel i)]

/-- Answers with one word: the stack goes from `[address, ret]` to `[answer]`. -/
def wordRouter (name : String) (opcode : Opcode) (answer : DeployedCode → Instruction)
    (accounts : Accounts) : List Instruction :=
  routerEntry name ++
    accountCases accounts (fun code => [plain .pop, answer code, plain (.swapN 1), plain .jump]) ++
    [plain opcode, plain (.swapN 1), plain .jump]

/-- Answers EXTCODESIZE. -/
def extcodesizeRouter : Accounts → List Instruction :=
  wordRouter "extcodesize-router" .extcodesize fun code => pushInt (.pushN 3) code.size

/-- Answers EXTCODEHASH. -/
def extcodehashRouter : Accounts → List Instruction :=
  wordRouter "extcodehash-router" .extcodehash fun code =>
    pushBytes (.pushN 32) (wordBytes code.hash)

/-- Copies from deployed code of `len` bytes that lies behind the preamble of an image. The stack
goes from `[len, address, dst, src, size, ret]` to `[]`. -/
def copyDeployed : List Instruction :=
  [(plain .jumpdest).labelled (.lexical "copy"),
    -- zeros first, from behind the end of the calldata
    plain (.dupN 5), plain .calldatasize, plain (.dupN 5), plain .calldatacopy,
    -- nothing to copy if `len` is not above `src`
    plain (.dupN 4), plain (.dupN 2), plain .gt, plain .iszero,
    pushLabel (.pushN 3) (.lexical "done"), plain .jumpi,
    -- `[len - src, len, ...]`
    plain (.dupN 4), plain (.dupN 2), plain .sub,
    -- `[size, len - src, len, ...]`
    plain (.dupN 6), plain (.dupN 2), plain (.dupN 2), plain .lt,
    pushLabel (.pushN 3) (.lexical "use-size"), plain .jumpi,
    plain .pop, pushLabel (.pushN 3) (.lexical "have-n"), plain .jump,
    (plain .jumpdest).labelled (.lexical "use-size"), plain (.swapN 1), plain .pop,
    -- `[n, len, address, dst, src, size, ret]`
    (plain .jumpdest).labelled (.lexical "have-n"),
    plain (.dupN 5), pushInt (.pushN 1) Environment.preambleSize, plain .add, plain (.dupN 5),
    plain (.dupN 5), plain .extcodecopy,
    -- `[len, address, dst, src, size, ret]`
    (plain .jumpdest).labelled (.lexical "done"),
    plain .pop, plain .pop, plain .pop, plain .pop, plain .pop, plain .jump]

/-- Answers EXTCODECOPY. -/
def extcodecopyRouter (accounts : Accounts) : List Instruction :=
  routerEntry "extcodecopy-router" ++
    accountCases accounts (fun code =>
      [pushInt (.pushN 3) code.size, pushLabel (.pushN 3) (.lexical "copy"), plain .jump]) ++
    [plain .extcodecopy, plain .jump] ++ copyDeployed

/-- The three routers, in the order in which an image holds them. -/
def accountRouters (first : Scope) (accounts : Accounts) : List (List Instruction) :=
  [duplicate (first.after 0) (extcodesizeRouter accounts),
    duplicate (first.after 1) (extcodehashRouter accounts),
    duplicate (first.after 2) (extcodecopyRouter accounts)]

end Image

end EvmProbe
