import EvmProbe.Cache.Chain
import EvmProbe.Files.Path

/-!
Where chain data is kept.
-/

namespace EvmProbe

/-- The directories of the cache, below a root or, without one, below the home directory. -/
structure CacheLayout where
  root : Option String
  /-- The home directory. -/
  home : Option String
  deriving DecidableEq, Repr

namespace CacheLayout

/-- The directory of the cache. -/
def directory? (layout : CacheLayout) : Option String :=
  layout.root.or (layout.home.map (Path.joinAll · [".spyglass", "cache"]))

/-- A directory below that of the cache. -/
def below? (layout : CacheLayout) (steps : List String) : Option String :=
  layout.directory?.map (Path.joinAll · steps)

/-- Where what nodes answered is kept. -/
def rpc? (layout : CacheLayout) : Option String := layout.below? ["rpc"]

section

variable (layout : CacheLayout) (chains : Chains) (chain : Nat)

/-- Where the data of a chain is kept. -/
def chain? : Option String := layout.below? ["rpc", chains.text chain]

/-- Where the code of accounts at a block is kept. -/
def code? (block : Nat) : Option String :=
  layout.below? ["rpc", chains.text chain, toString block, "code"]

/-- Where transactions are kept. -/
def transactions? : Option String := layout.below? ["rpc", chains.text chain, "tx"]

/-- Where receipts are kept. -/
def receipts? : Option String := layout.below? ["rpc", chains.text chain, "receipt"]

end

end CacheLayout

end EvmProbe
