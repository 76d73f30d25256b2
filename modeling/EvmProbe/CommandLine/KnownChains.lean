import EvmProbe.Cache.Chain

/-!
The chains that the commands know by name.

This is the table of this program.  Nothing else depends on which chains it lists.
-/

namespace EvmProbe.Chains

/-- Chains and their names. -/
def knownNames : List (Nat × String) :=
  [(1, "mainnet"), (2, "morden"), (5, "goerli"), (10, "optimism"), (56, "bsc"), (100, "xdai"),
    (137, "polygon"), (250, "fantom"), (1337, "dev"), (8453, "base"), (17000, "holesky"),
    (31337, "anvil-hardhat"), (42161, "arbitrum"), (42220, "celo"), (43114, "avalanche"),
    (59144, "linea"), (534352, "scroll"), (11155111, "sepolia")]

/-- The chains of the commands. -/
def known : Chains where
  name? id := knownNames.lookup id
  isLocal id := id = 1337 || id = 31337

end EvmProbe.Chains
