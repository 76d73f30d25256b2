import EvmProbe.Trace.Node
import EvmProbe.Trace.Simulation

/-!
A model of a node, which answers from tables, and a record of what a node is asked.

`NodeModel.node` reports in every simulation what the accounts with replaced code do, and nothing of
any other account.  `Node.recording` asks a node and records the requests.
-/

namespace EvmProbe

/-- Tables that a node answers from. -/
structure NodeModel where
  /-- The code of accounts; any other account has none. -/
  codes : AddressMap Bytes := AddressMap.empty
  /-- The accounts whose code the node does not give. -/
  withheld : List Address := []
  /-- The answer to every request for an access list, if there is one. -/
  accessList : Option (List Address) := none
  /-- What calls are answered with, by their numbers, instead of a simulation. -/
  replies : List (Nat × Except String Bytes) := []
  /-- The simulation that fails, if one does. -/
  failing : Option Nat := none
  output : Bytes := []
  gasUsed : Word := 0
  /-- What accounts do, with the first simulation in which they do it. -/
  calls : List (Nat × Simulation.Call) := []
  logs : List (Nat × Simulation.Log) := []
  stores : List (Nat × Simulation.Store) := []

namespace NodeModel

/-- The code of an account. -/
def codeAt (model : NodeModel) (address : Address) : Except String Bytes :=
  if model.withheld.contains address then .error s!"no code for {Hex.literal (wordBytes address)}"
  else .ok ((model.codes.find? address).getD [])

/-- The access list of any call. -/
def accessed (model : NodeModel) : Except String (List Address) :=
  match model.accessList with
  | none => .error "eth_createAccessList unsupported"
  | some addresses => .ok addresses

/-- What accounts with replaced code do in simulation `k`. -/
def observed {α : Type} (k : Nat) (replaced : List Address) (context : α → Address)
    (table : List (Nat × α)) : List α :=
  (table.filter fun (first, entry) => first ≤ k && replaced.contains (context entry)).map (·.2)

/-- The result of simulation `k`. -/
def simulate (model : NodeModel) (k : Nat) (replaced : List Address) : Simulation where
  success := model.failing != some k
  output := model.output
  gasUsed := model.gasUsed
  calls := observed k replaced Simulation.Call.context model.calls
  logs := observed k replaced Simulation.Log.context model.logs
  stores := observed k replaced Simulation.Store.context model.stores

/-- The answer to call number `k`; the first has number one. -/
def reply (model : NodeModel) (k : Nat) (replaced : List Address) : Except String Bytes :=
  (model.replies.lookup k).getD (.ok (model.simulate k replaced).encode)

/-- An answer, with its message as a failure. -/
def answer {α : Type} : Except String α → Except Failure α
  | .ok a => .ok a
  | .error message => .error (.ofText message)

/-- The model as a node. It counts the calls it has answered. -/
def node (model : NodeModel) : Node (StateM Nat) where
  codeAt address _ := return answer (model.codeAt address)
  accessList _ _ := return answer model.accessed
  call _ _ overrides _ := modifyGet fun made =>
    (answer (model.reply (made + 1) overrides.keys), made + 1)

end NodeModel

/-- A request to a node. -/
inductive NodeRequest where
  | codeAt (address : Address) (block : BlockId)
  | accessList (request : CallRequest) (block : BlockId)
  | call (target : Address) (input : Bytes) (overrides : CodeOverrides) (block : BlockId)

/-- A node that records what it is asked, the last request first. -/
def Node.recording {m : Type → Type} [Monad m] (node : Node m) :
    Node (StateT (List NodeRequest) m) where
  codeAt address block := do
    modify (.codeAt address block :: ·)
    node.codeAt address block
  accessList request block := do
    modify (.accessList request block :: ·)
    node.accessList request block
  call target input overrides block := do
    modify (.call target input overrides block :: ·)
    node.call target input overrides block

end EvmProbe
