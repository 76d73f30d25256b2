import EvmProbe.Proofs.Machine.Step

/-!
Runs with an eye on where they pass.

A run may have to be followed from one place of the code to another, and must not touch certain
places in between.  `Passes` is such a run: `inner` says which counters it may pass.

* `Passes.trans`: runs are joined at a state that may be passed.
* `Passes.reaches₁`: such a run has at least one step.
* `Stays`: the run ends at a state that may be passed too, so that others can follow.
-/

namespace EvmProbe

open StateTransition

variable {μ ω : Type}

/-- A run may pass a state: it has halted, or its counter is one of the inner ones. -/
def State.Within (inner : Nat → Prop) : State μ ω → Prop
  | .running counter _ => inner counter
  | .halted _ => True

namespace Machine

/-- A run of at least one step that passes inner counters only, but for its ends. -/
inductive Passes (machine : Machine μ ω) (code : Bytes) (inner : Nat → Prop) :
    State μ ω → State μ ω → Prop where
  | single {a b : State μ ω} (h : machine.step code a = some b) : Passes machine code inner a b
  | head {a b c : State μ ω} (h : machine.step code a = some b) (hb : b.Within inner)
      (rest : Passes machine code inner b c) : Passes machine code inner a c

variable {machine : Machine μ ω} {code : Bytes} {inner : Nat → Prop} {a b c : State μ ω}

/-- **Runs are joined at a state that may be passed.** -/
theorem Passes.trans (h : machine.Passes code inner a b) (hb : b.Within inner)
    (h' : machine.Passes code inner b c) : machine.Passes code inner a c := by
  induction h with
  | single h => exact .head h hb h'
  | head h hm _ ih => exact .head h hm (ih hb h')

theorem Passes.reaches₁ (h : machine.Passes code inner a b) : Reaches₁ (machine.step code) a b := by
  induction h with
  | single h => exact .single h
  | head h _ _ ih => exact .head h ih

/-- A run that ends at a state that may be passed. -/
def Stays (machine : Machine μ ω) (code : Bytes) (inner : Nat → Prop) (a b : State μ ω) : Prop :=
  machine.Passes code inner a b ∧ b.Within inner

theorem Stays.trans (h : machine.Stays code inner a b) (h' : machine.Stays code inner b c) :
    machine.Stays code inner a c :=
  ⟨h.1.trans h.2 h'.1, h'.2⟩

theorem Stays.passes (h : machine.Stays code inner a b) (h' : machine.Passes code inner b c) :
    machine.Passes code inner a c :=
  h.1.trans h.2 h'

end Machine

end EvmProbe
