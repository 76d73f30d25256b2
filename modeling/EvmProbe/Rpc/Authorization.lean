import EvmProbe.Json.Reading

/-!
Authorizations, as transactions and receipts list them.

With an authorization an account allows the code of another account to run in its name.  Its chain
and its nonce are plain numbers.  A transaction lists authorizations with their signatures, and a
receipt lists them without.
-/

namespace EvmProbe.Authorization

/-- The fields of an authorization. -/
def fieldNames : List String := ["chainId", "address", "nonce"]

/-- Checks the fields of an authorization. -/
def checkFields? (access : Json.Access) (fields : List (String × Json)) : Option Unit := do
  let _ ← Json.required? (Json.natural? Text.limit64) fields "chainId"
  let _ ← Json.required? (Json.address? access) fields "address"
  let _ ← Json.nullable? (Json.natural? Text.limit64) fields "nonce"

/-- Whether a number tells which of two public keys signed: by itself, with 27 added, or together
with a chain. -/
def isParity (n : Nat) : Bool := n ≤ 1 || n = 27 || n = 28 || 35 ≤ n

/-- Checks the parity of a signature and says whether there is one. The field `yParity` counts only
while there has been no `v`. -/
def parity? (hasParity : Bool) : List (String × Json) → Option Bool
  | [] => some hasParity
  | (name, value) :: rest =>
    if name = "v" ∨ name = "yParity" then do
      let n ← value.quantity64?
      if isParity n ∨ (name = "yParity" ∧ hasParity) then parity? true rest else none
    else parity? hasParity rest

/-- Checks one part of a signature. Where it is repeated, each has to be a word. -/
def checkPart? (fields : List (String × Json)) (name : String) : Option Unit := do
  let parts := fields.filter (·.1 == name)
  if !parts.isEmpty ∧ parts.all (·.2.word?.isSome) then some () else none

/-- Checks the signature among the fields. -/
def checkSignature? (fields : List (String × Json)) : Option Unit := do
  checkPart? fields "r"
  checkPart? fields "s"
  if ← parity? false fields then some () else none

/-- Checks an authorization with its signature, an object that is read as a whole. -/
def checkSigned? (j : Json) : Option Unit := do
  let fields ← j.wholeObject? fieldNames []
  checkFields? .whole fields
  checkSignature? fields

/-- Checks an authorization without a signature. -/
def checkUnsigned? (j : Json) : Option Unit := do
  checkFields? .direct (← j.record? fieldNames)

end EvmProbe.Authorization
