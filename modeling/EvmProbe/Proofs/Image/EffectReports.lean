import EvmProbe.Proofs.Image.Calldata
import EvmProbe.Proofs.Image.ReturnData

/-!
What an image reports of logs and storage writes.

The opcode stands behind its report, and finds the stack and the memory that it was to find
(`Announces`): reports are put together in scratch memory only.

* `announces_log`, `announces_sstore`: the calldata of the reports.
* `reportsEffects_of_patchFrom`: every image reports them so, and the hooks account is told what is
  to happen.
-/

namespace EvmProbe

open Bytecode Linking StateTransition

theorem Opcode.width_log : ∀ count, (Opcode.log count).width = 0 := by decide

namespace Patcher

/-- **An opcode is announced** with calldata: from its site a run delegate-calls the hooks account
with exactly that, and gets to the opcode, at the end of its expansion, with the stack that it was
to find and the memory below scratch memory as it was. If the hooks account fails, the run
reverts. -/
def Announces {Ω : Type} (outside : Outside Ω) (origin : Address) (patcher : Patcher)
    (first : Scope) (code image : Bytes) (i : Nat) (opcode : Opcode) (stack : List Word)
    (m : Memory) (world : World Ω) (calldata : Bytes) : Prop :=
  ∃ (position : Nat) (size : Word) (m' : Memory) (buffer : Bytes),
    image[position]? = opcode.toByte? ∧
    position + 1 = expansionStart patcher first code (i + 1) ∧
    m'.read Environment.scratchMemLoc size.toNat = calldata ∧
    (∀ address < Environment.scratchMemLoc, m' address = m address) ∧
    Delegates outside origin patcher first code image
      (.running (expansionStart patcher first code i) ⟨stack, m, world⟩) size m'
      ⟨buffer, world.outer⟩ fun later => .running position ⟨stack, m', later⟩

section
variable {Ω : Type} (outside : Outside Ω) (origin : Address) {patcher : Patcher}
  {base first : Scope} {code image : Bytes} {table : Table} {i : Nat} {inst : Instruction}
  (hp : patcher.Assembled base)

section
variable (w : Written (patcher.leading code ++ patcher.instrumented first code) table image)
  (hi : (disassemble first code)[i]? = some inst) (hsize : image.length ≤ 2 ^ 256) (m : Memory)
  (world : World Ω)
include hp w hi

/-- The opcode at the end of an expansion, and where it stands. -/
theorem getElem?_last {n : Nat} {byte : UInt8}
    (hlast : (patcher.expansion first code (inst, i)).drop n = [inst])
    (hbyte : inst.opcode.toByte? = some byte) (hwidth : inst.opcode.width = 0) :
    image[address (expansionStart patcher first code i)
        (patcher.expansion first code (inst, i)) n]? = inst.opcode.toByte? ∧
      address (expansionStart patcher first code i)
          (patcher.expansion first code (inst, i)) n + 1 =
        expansionStart patcher first code (i + 1) := by
  have hget : (patcher.expansion first code (inst, i))[n]? = some inst := by
    rw [← Nat.add_zero n, ← List.getElem?_drop, hlast]
    rfl
  have hlength : (patcher.expansion first code (inst, i)).length = n + 1 := by
    have hdrop := congrArg List.length hlast
    rw [List.length_drop, List.length_singleton] at hdrop
    omega
  have hsucc := address_succ (expansionStart patcher first code i) hget hbyte
  rw [hwidth] at hsucc
  refine ⟨((segment_expansion hp hi).getElem?_image w hget hbyte).trans hbyte.symm, ?_⟩
  rw [← address_expansion patcher hi, hlength, hsucc]

include hsize

/-- **A log is announced** with its topics and its data. -/
theorem announces_log {count : Fin 5} (ho : inst.opcode = .log count) {topics : List Word}
    (ht : topics.length = count.val) {offset size : Word} (hb : Below (offset, size))
    (s : List Word) :
    Announces outside origin patcher first code image i inst.opcode
      (offset :: size :: (topics ++ s)) m world
      (logCalldata patcher.options.selectors.log topics (m.read offset.toNat size.toNat)) := by
  have hb : size.toNat = 0 ∨ offset.toNat + size.toNat ≤ 0x8000 := hb
  have hc : topics.length ≤ 4 := ht ▸ Nat.lt_succ_iff.1 count.isLt
  have hcalldata : (0xe4#256 + size).toNat = 0xe4 + size.toNat := by
    rw [BitVec.toNat_add]
    exact Nat.mod_eq_of_lt (by simp; omega)
  have hstack : count.val ≤ (topics ++ s).length := by simp [ht]
  have hreport := delegates_log outside origin hp w hi m world hsize ho offset size hstack
  obtain ⟨hbyte, hlast⟩ := getElem?_last (n := 5) hp w hi
    (by rw [expansion_log hp first code i ho]; rfl) (by rw [ho]; rfl)
    (by rw [ho]; exact Opcode.width_log count)
  rw [← ht] at hreport
  refine ⟨_, _, _, _, hbyte, hlast, ?_, ?_, hreport⟩
  · rw [hcalldata]
    exact m.read_withLog _ hc hb s
  · exact fun address hlt =>
      m.changesWithin_withLog _ hc offset size (topics ++ s) address (.inl hlt)

/-- **A storage write is announced** with its slot and its value. -/
theorem announces_sstore (hl : patcher.options.logsOnly = false) (ho : inst.opcode = .sstore)
    (slot value : Word) (s : List Word) :
    Announces outside origin patcher first code image i inst.opcode (slot :: value :: s) m world
      (sstoreCalldata patcher.options.selectors.sstore slot value) := by
  have hreport := delegates_sstore outside origin hp w hi m world hsize hl ho slot value s
  obtain ⟨hbyte, hlast⟩ := getElem?_last (n := 4) hp w hi
    (by rw [expansion_sstore hp first code i hl ho]; rfl) (by rw [ho]; rfl) (by rw [ho]; rfl)
  exact ⟨_, _, _, _, hbyte, hlast, m.read_withWrite _ slot value,
    fun address hlt => m.changesWithin_withWrite _ slot value address (.inl hlt), hreport⟩

end

/-! ## Every image -/

/-- How an image reports logs and storage writes. -/
structure ReportsEffects {Ω : Type} (outside : Outside Ω) (origin : Address) (patcher : Patcher)
    (first : Scope) (code image : Bytes) : Prop where
  /-- A log is announced with its topics and its data, and so the hooks account is told of it. -/
  log : ∀ i inst (count : Fin 5) topics offset size s m world,
    (disassemble first code)[i]? = some inst → inst.opcode = .log count →
    topics.length = count.val → Below (offset, size) →
    Announces outside origin patcher first code image i inst.opcode
      (offset :: size :: (topics ++ s)) m world
      (logCalldata patcher.options.selectors.log topics (m.read offset.toNat size.toNat)) ∧
    decoded? patcher.options.selectors.log LogArguments.read
      (logCalldata patcher.options.selectors.log topics (m.read offset.toNat size.toNat)) =
        some ⟨BitVec.ofNat 256 count.val, topics ++ List.replicate (4 - count.val) 0,
          m.read offset.toNat size.toNat⟩
  /-- Unless only logs are reported, a storage write is announced with its slot and its value, and
  so the hooks account is told of it. -/
  sstore : patcher.options.logsOnly = false → ∀ i inst slot value s m world,
    (disassemble first code)[i]? = some inst → inst.opcode = .sstore →
    Announces outside origin patcher first code image i inst.opcode (slot :: value :: s) m world
      (sstoreCalldata patcher.options.selectors.sstore slot value) ∧
    decoded? patcher.options.selectors.sstore SstoreArguments.read
      (sstoreCalldata patcher.options.selectors.sstore slot value) = some ⟨slot, value⟩

/-- **An image reports logs and storage writes exactly**, and leaves the program's state alone. -/
theorem reportsEffects_of_patchFrom {options : PatchOptions}
    (hp : Patcher.new options base = .ok patcher) (hc : code ≠ [])
    (h : patcher.patchFrom first code = .ok image) (hsize : image.length ≤ 2 ^ 256) :
    ReportsEffects outside origin patcher first code image := by
  have hp := (assembled_of_new hp).2
  obtain ⟨table, w⟩ := patchFrom_ok hc h
  refine ⟨fun i inst count topics offset size s m world hi ho ht hb => ⟨?_, ?_⟩,
    fun hl i inst slot value s m world hi ho => ⟨?_, ?_⟩⟩
  · exact announces_log outside origin hp w hi hsize m world ho ht hb s
  · have hb : size.toNat = 0 ∨ offset.toNat + size.toNat ≤ 0x8000 := hb
    rw [← ht]
    exact LogArguments.decoded?_logCalldata _ (ht ▸ Nat.lt_succ_iff.1 count.isLt) (by simp; omega)
  · exact announces_sstore outside origin hp w hi hsize m world hl ho slot value s
  · exact SstoreArguments.decoded?_sstoreCalldata _ slot value

end

/-- An image that reports a log with a topic and two bytes of data, and a storage write. -/
theorem reportsEffects_log_and_sstore : ∃ patcher image,
    Patcher.new {} ⟨0⟩ = .ok patcher ∧ patcher.patch [0xa1, 0x55, 0x00] = .ok image ∧
    image.length ≤ 2 ^ 256 ∧
    ReportsEffects (.answering 0x2a) 0 patcher firstScope [0xa1, 0x55, 0x00] image ∧
    ∀ s m world,
      Announces (.answering 0x2a) 0 patcher firstScope [0xa1, 0x55, 0x00] image 0 (.log 1)
        (0 :: 2 :: 7 :: s) m world (logCalldata patcher.options.selectors.log [7] (m.read 0 2)) ∧
      Announces (.answering 0x2a) 0 patcher firstScope [0xa1, 0x55, 0x00] image 1 .sstore
        (7 :: 8 :: s) m world (sstoreCalldata patcher.options.selectors.sstore 7 8) := by
  obtain ⟨patcher, image, hp, himg, hl⟩ := exists_image_of_length ⟨0⟩ firstScope [0xa1, 0x55, 0x00]
    {} (by decide) (by simp [AddressMap.empty]) (by decide)
  have hsize : image.length ≤ 2 ^ 256 := Nat.le_trans hl (by decide)
  have hreports := reportsEffects_of_patchFrom (.answering 0x2a) 0 hp (by decide) himg hsize
  have hboth : patcher.options.logsOnly = false := by rw [(assembled_of_new hp).1]
  refine ⟨patcher, image, hp, himg, hsize, hreports, fun s m world => ⟨?_, ?_⟩⟩
  · exact (hreports.log 0 _ 1 [7] 0 2 s m world rfl rfl rfl (.inr (by decide))).1
  · exact (hreports.sstore hboth 1 _ 7 8 s m world rfl rfl).1

end Patcher

end EvmProbe
