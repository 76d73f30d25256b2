import EvmProbe.Trace.Tracer

/-!
Runs of an action on a node, with all that the node is asked and what it replies.

A node may reply anything, and something else each time: its state is whatever its replies depend
on.  `Ensures` says of every run, in whatever state the node is, what the run comes to and which
exchanges there were by then.

* `Ensures.bind` takes a run apart.
* `ensures_codeAt`, `ensures_accessList`, `ensures_call`: a single exchange.
-/

namespace EvmProbe

/-! ## Exchanges -/

/-- A request to a node, with the reply. -/
inductive Exchange where
  | codeAt (address : Address) (block : BlockId) (reply : Except Failure Bytes)
  | accessList (request : CallRequest) (block : BlockId) (reply : Except Failure (List Address))
  | call (target : Address) (input : Bytes) (overrides : CodeOverrides) (block : BlockId)
    (reply : Except Failure Bytes)

namespace Exchange

/-- The account whose code is requested. -/
def codeOf? : Exchange → Option Address
  | .codeAt address _ _ => some address
  | .accessList .. | .call .. => none

/-- The code that is given, with its account. -/
def given? : Exchange → Option (Address × Bytes)
  | .codeAt address _ (.ok code) => some (address, code)
  | .codeAt _ _ (.error _) | .accessList .. | .call .. => none

/-- Whether a simulation is requested. -/
def isCall : Exchange → Bool
  | .call .. => true
  | .codeAt .. | .accessList .. => false

/-- The accounts whose code was requested. -/
def fetched (log : List Exchange) : List Address := log.filterMap codeOf?

/-- The code that was given, with its accounts. -/
def codes (log : List Exchange) : List (Address × Bytes) := log.filterMap given?

/-- The number of simulations that were requested. -/
def simulations (log : List Exchange) : Nat := log.countP isCall

/-- The exchanges in which code is given, the last one first. -/
def answers (block : BlockId) (codes : List (Address × Bytes)) : List Exchange :=
  codes.reverse.map fun (address, code) => .codeAt address block (.ok code)

section
variable {address : Address} {block : BlockId} {log later : List Exchange} {cause : Failure}

@[simp] theorem fetched_nil : fetched [] = [] := rfl

@[simp] theorem fetched_codeAt {reply : Except Failure Bytes} :
    fetched (.codeAt address block reply :: log) = address :: fetched log := rfl

@[simp] theorem fetched_accessList {request : CallRequest}
    {reply : Except Failure (List Address)} :
    fetched (.accessList request block reply :: log) = fetched log := rfl

@[simp] theorem fetched_call {input : Bytes} {overrides : CodeOverrides}
    {reply : Except Failure Bytes} :
    fetched (.call address input overrides block reply :: log) = fetched log := rfl

@[simp] theorem fetched_append : fetched (later ++ log) = fetched later ++ fetched log :=
  List.filterMap_append

@[simp] theorem codes_nil : codes [] = [] := rfl

@[simp] theorem codes_error :
    codes (.codeAt address block (.error cause) :: log) = codes log := rfl

@[simp] theorem codes_accessList {request : CallRequest}
    {reply : Except Failure (List Address)} :
    codes (.accessList request block reply :: log) = codes log := rfl

@[simp] theorem codes_call {input : Bytes} {overrides : CodeOverrides}
    {reply : Except Failure Bytes} :
    codes (.call address input overrides block reply :: log) = codes log := rfl

@[simp] theorem codes_append : codes (later ++ log) = codes later ++ codes log :=
  List.filterMap_append

@[simp] theorem simulations_nil : simulations [] = 0 := rfl

@[simp] theorem simulations_codeAt {reply : Except Failure Bytes} :
    simulations (.codeAt address block reply :: log) = simulations log := rfl

@[simp] theorem simulations_accessList {request : CallRequest}
    {reply : Except Failure (List Address)} :
    simulations (.accessList request block reply :: log) = simulations log := rfl

@[simp] theorem simulations_call {input : Bytes} {overrides : CodeOverrides}
    {reply : Except Failure Bytes} :
    simulations (.call address input overrides block reply :: log) = simulations log + 1 :=
  List.countP_cons_of_pos rfl

@[simp] theorem simulations_append :
    simulations (later ++ log) = simulations later + simulations log :=
  List.countP_append

theorem exists_call_of_simulations_pos (h : 0 < simulations log) :
    ∃ later target input overrides block reply earlier,
      log = later ++ .call target input overrides block reply :: earlier := by
  obtain ⟨exchange, hm, hc⟩ := List.countP_pos_iff.1 h
  obtain ⟨later, earlier, rfl⟩ := List.append_of_mem hm
  cases exchange with
  | call target input overrides block reply =>
    exact ⟨later, target, input, overrides, block, reply, earlier, rfl⟩
  | codeAt | accessList => cases hc

@[simp] theorem answers_nil : answers block [] = [] := rfl

theorem answers_cons (entry : Address × Bytes) (rest : List (Address × Bytes)) :
    answers block (entry :: rest) =
      answers block rest ++ [.codeAt entry.1 block (.ok entry.2)] := by
  simp [answers]

theorem mem_answers {exchange : Exchange} {entries : List (Address × Bytes)} :
    exchange ∈ answers block entries ↔
      ∃ entry ∈ entries, exchange = .codeAt entry.1 block (.ok entry.2) := by
  simp [answers, eq_comm]

@[simp] theorem fetched_answers (entries : List (Address × Bytes)) :
    fetched (answers block entries) = (entries.map (·.1)).reverse := by
  induction entries with
  | nil => rfl
  | cons entry entries ih => simp [answers_cons, ih]

@[simp] theorem codes_answers (entries : List (Address × Bytes)) :
    codes (answers block entries) = entries.reverse := by
  induction entries with
  | nil => rfl
  | cons entry entries ih =>
    rw [answers_cons, codes_append, ih, List.reverse_cons]
    rfl

@[simp] theorem simulations_answers (entries : List (Address × Bytes)) :
    simulations (answers block entries) = 0 := by
  induction entries with
  | nil => rfl
  | cons entry entries ih => simp [answers_cons, ih]

end

/-- Every exchange is allowed after those in front of it. -/
def Each (allowed : Exchange → List Exchange → Prop) (log : List Exchange) : Prop :=
  ∀ later exchange earlier, log = later ++ exchange :: earlier → allowed exchange earlier

section
variable {allowed : Exchange → List Exchange → Prop} {exchange : Exchange}
  {log later : List Exchange}

theorem each_nil : Each allowed [] := by
  intro later exchange earlier h
  simp at h

theorem each_cons : Each allowed (exchange :: log) ↔ allowed exchange log ∧ Each allowed log := by
  constructor
  · intro h
    exact ⟨h [] exchange log rfl, fun later e earlier he => h (exchange :: later) e earlier (by
      rw [he, List.cons_append])⟩
  · rintro ⟨h, hlog⟩ later e earlier he
    cases later with
    | nil =>
      obtain ⟨rfl, rfl⟩ := List.cons.inj he
      exact h
    | cons first later =>
      exact hlog later e earlier (List.cons.inj he).2

/-- Exchanges in which code is given may be left out if they always are allowed. -/
theorem each_answers_append (h : ∀ address block reply earlier,
      allowed (.codeAt address block reply) earlier) {block : BlockId}
    {given : List (Address × Bytes)} :
    Each allowed (answers block given ++ log) ↔ Each allowed log := by
  induction given generalizing log with
  | nil => rfl
  | cons entry given ih =>
    rw [answers_cons, List.append_assoc, List.singleton_append, ih, each_cons]
    exact and_iff_right (h ..)

end

end Exchange

/-- A node whose exchanges are kept, the last one first. -/
def Node.keeping {m : Type → Type} [Monad m] (node : Node m) :
    Node (StateT (List Exchange) m) where
  codeAt address block := do
    let reply ← node.codeAt address block
    modify (.codeAt address block reply :: ·)
    return reply
  accessList request block := do
    let reply ← node.accessList request block
    modify (.accessList request block reply :: ·)
    return reply
  call target input overrides block := do
    let reply ← node.call target input overrides block
    modify (.call target input overrides block reply :: ·)
    return reply

/-- Whatever its state, a node replies as a condition says. -/
structure Node.Replies {σ : Type} (node : Node (StateM σ)) (said : Exchange → Prop) : Prop where
  codeAt : ∀ address block s,
    said (.codeAt address block (Id.run ((node.codeAt address block).run s)).1)
  accessList : ∀ request block s,
    said (.accessList request block (Id.run ((node.accessList request block).run s)).1)
  call : ∀ target input overrides block s, said
    (.call target input overrides block (Id.run ((node.call target input overrides block).run s)).1)

/-- Of any node nothing is known. -/
theorem Node.replies_true {σ : Type} (node : Node (StateM σ)) : node.Replies fun _ => True :=
  ⟨fun _ _ _ => trivial, fun _ _ _ => trivial, fun _ _ _ _ _ => trivial⟩

/-! ## Runs -/

/-- Actions on a node with a state, whose exchanges are kept. -/
abbrev Recorded (σ α : Type) : Type := StateT (List Exchange) (StateM σ) α

namespace Recorded

variable {σ α β : Type}

/-- What an action comes to, with all exchanges by then, the last one first. -/
def outcome (action : Recorded σ α) (log : List Exchange) (s : σ) : α × List Exchange :=
  (Id.run ((action.run log).run s)).1

/-- A condition on the outcome of an action holds in whatever state the node is. -/
def Ensures (action : Recorded σ α) (log : List Exchange)
    (post : α → List Exchange → Prop) : Prop :=
  ∀ s, post (action.outcome log s).1 (action.outcome log s).2

section
variable {action : Recorded σ α} {next : α → Recorded σ β} {log : List Exchange}
  {mid post : α → List Exchange → Prop} {a : α}

theorem ensures_pure (h : post a log) : Ensures (pure a : Recorded σ α) log post := fun _ => h

theorem Ensures.bind {post : β → List Exchange → Prop} (h : Ensures action log mid)
    (hn : ∀ a log, mid a log → Ensures (next a) log post) :
    Ensures (action >>= next) log post := fun s => hn _ _ (h s) _

end

section
variable {node : Node (StateM σ)} {said : Exchange → Prop} {block : BlockId}
  {log : List Exchange} (hr : node.Replies said)
include hr

theorem ensures_codeAt (address : Address) :
    Ensures (node.keeping.codeAt address block) log fun reply log' =>
      said (.codeAt address block reply) ∧ log' = .codeAt address block reply :: log :=
  fun s => ⟨hr.codeAt address block s, rfl⟩

theorem ensures_accessList (request : CallRequest) :
    Ensures (node.keeping.accessList request block) log fun reply log' =>
      said (.accessList request block reply) ∧ log' = .accessList request block reply :: log :=
  fun s => ⟨hr.accessList request block s, rfl⟩

theorem ensures_call (target : Address) (input : Bytes) (overrides : CodeOverrides) :
    Ensures (node.keeping.call target input overrides block) log fun reply log' =>
      said (.call target input overrides block reply) ∧
        log' = .call target input overrides block reply :: log :=
  fun s => ⟨hr.call target input overrides block s, rfl⟩

end

end Recorded

/-- What tracing on a node comes to, and all exchanges with the node, the last one first. -/
def Tracer.traced {σ : Type} (node : Node (StateM σ)) (settings : Settings)
    (contracts : HookContracts) (tx : Transaction) (s : σ) :
    Except Error Trace × List Exchange :=
  Recorded.outcome (trace node.keeping settings contracts tx) [] s

end EvmProbe
