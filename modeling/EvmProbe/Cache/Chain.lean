/-!
Names of chains.

Which chains have a name is not settled here.  It is asked of a table that the machine brings along.
-/

namespace EvmProbe

/-- A table of chains. -/
structure Chains where
  /-- The name of a chain, if it has one. -/
  name? : (id : Nat) → Option String
  /-- Whether a chain is one that developers run for themselves. -/
  isLocal : (id : Nat) → Bool

/-- A chain by its name, or by its number if it has none. -/
def Chains.text (chains : Chains) (id : Nat) : String := (chains.name? id).getD (toString id)

end EvmProbe
