import EvmProbe.Proofs.Image.CallHook

/-!
What stands for RETURNDATASIZE and RETURNDATACOPY, unless only logs are reported.

Both read the return data that was saved when the last call was reported.

* `passes_returndatasize`: the size.
* `passes_returndatacopy`: the bytes, up to the end of what is saved.
-/

namespace EvmProbe

open Bytecode Linking

namespace Memory.Saves
variable {memory : Memory} {data : Bytes} {offset size : Word}

/-- The end of what is asked for is compared with the size of what is saved. -/
theorem load_lt_iff (h : memory.Saves data) (hsum : offset.toNat + size.toNat < 2 ^ 256) :
    memory.load 0xa000#256 < offset + size ↔ data.length < offset.toNat + size.toNat := by
  rw [BitVec.lt_def, h.toNat_size, BitVec.toNat_add, Nat.mod_eq_of_lt hsum]

/-- A part of what is saved. -/
theorem read_part (h : memory.Saves data) (hin : offset.toNat + size.toNat ≤ data.length) :
    memory.read (0xa020#256 + offset).toNat size.toNat =
      (data.drop offset.toNat).take size.toNat := by
  have hbounded := h.bounded
  have hplace : (0xa020#256 + offset).toNat = 0xa020 + offset.toNat := by
    rw [BitVec.toNat_add]
    simp only [BitVec.toNat_ofNat]
    omega
  have hpart := memory.take_drop_read 0xa020 hin
  rw [h.bytes] at hpart
  rw [hplace, hpart]

end Memory.Saves

namespace Patcher

section
variable {Ω : Type} (outside : Outside Ω) (origin : Address) {patcher : Patcher}
  {base first : Scope} {code image : Bytes} {table : Table} {target : Nat}
  (hp : patcher.Assembled base)
  (w : Written (patcher.leading code ++ patcher.instrumented first code) table image)
  (m : Memory) (world : World Ω)
include hp w

/-! ## The routine -/

section
variable (hsize : image.length ≤ 2 ^ 256) (ret dst offset size : Word) (s : List Word)
include hsize

/-- The routine that copies return data compares the end of what is asked for with the size of what
is saved. -/
theorem stays_returndatacopy_test :
    (outside.machine origin).Stays image (OffSite patcher first code)
      (.running (routineStart patcher first code .returndatacopy)
        ⟨ret :: dst :: offset :: size :: s, m, world⟩)
      (.running (address (routineStart patcher first code .returndatacopy)
        (Fragment.returndatacopy.code patcher.options (base.after Fragment.returndatacopy.index))
        (if m.load 0xa000#256 < offset + size then 26 else 9))
        ⟨ret :: dst :: offset :: size :: s, m, world⟩) := by
  have seg := segment_routine first code .returndatacopy hp (by decide)
  obtain ⟨hoob, hoff⟩ := seg.inner_label (n := 26) w rfl rfl (by decide)
  have htest := seg.stays_run (outside.machine origin)
    ⟨ret :: dst :: offset :: size :: s, m, world⟩
    ⟨flag (m.load 0xa000#256 < offset + size) :: ret :: dst :: offset :: size :: s, m, world⟩ w
    (n := 0) (k := 7) (by decide) rfl rfl (by simp [Fragment.Template.returndatacopy])
  have hbranch := seg.stays_branch (n := 7) (outside.machine origin) hp w hsize
    ⟨ret :: dst :: offset :: size :: s, m, world⟩ rfl hoob hoff
    (flag (m.load 0xa000#256 < offset + size))
  simp only [flag_eq_zero, ite_not] at hbranch
  rw [apply_ite (address _ _)]
  exact htest.trans hbranch

/-- **The routine copies from saved return data.** -/
theorem stays_returndatacopy (hd : IsDestination image target)
    (htarget : OffSite patcher first code target)
    (hin : ¬ m.load 0xa000#256 < offset + size) :
    (outside.machine origin).Stays image (OffSite patcher first code)
      (.running (routineStart patcher first code .returndatacopy)
        ⟨BitVec.ofNat 256 target :: dst :: offset :: size :: s, m, world⟩)
      (.running target ⟨s, m.write dst.toNat (m.read (0xa020#256 + offset).toNat size.toNat),
        ⟨m.read (0xa020#256 + offset).toNat size.toNat, world.outer⟩⟩) := by
  have htest := stays_returndatacopy_test outside origin hp w m world hsize
    (BitVec.ofNat 256 target) dst offset size s
  rw [if_neg hin] at htest
  have seg := segment_routine first code .returndatacopy hp (by decide)
  exact htest.trans (seg.stays_return (outside.machine origin) w hsize _ (n := 9) (k := 16)
    (by decide) rfl rfl (by simp [Fragment.Template.returndatacopy, Outside.accept]) hd htarget)

/-- **The routine fails behind the end of saved return data.** -/
theorem passes_returndatacopy_failure (hout : m.load 0xa000#256 < offset + size) :
    (outside.machine origin).Passes image (OffSite patcher first code)
      (.running (routineStart patcher first code .returndatacopy)
        ⟨ret :: dst :: offset :: size :: s, m, world⟩) (.halted (.failed m world)) := by
  have htest := stays_returndatacopy_test outside origin hp w m world hsize ret dst offset size s
  rw [if_pos hout] at htest
  have seg := segment_routine first code .returndatacopy hp (by decide)
  exact htest.passes (seg.passes_halt (outside.machine origin) _ _ w (n := 26) (k := 2) (by decide)
    rfl rfl (by simp [Fragment.Template.returndatacopy]))

end

/-- The routine that copies return data fails without its operands. -/
theorem passes_returndatacopy_short {stack : List Word} (h : stack.length < 3) (ret : Word) :
    ∃ outcome, (outside.machine origin).Passes image (OffSite patcher first code)
      (.running (routineStart patcher first code .returndatacopy) ⟨ret :: stack, m, world⟩)
      (.halted outcome) := by
  have seg := segment_routine first code .returndatacopy hp (by decide)
  exact seg.exists_passes_halted (outside.machine origin) ⟨ret :: stack, m, world⟩ w (n := 0)
    (k := 2) (by decide) rfl rfl
    (by simp [Fragment.Template.returndatacopy, List.getElem?_eq_none (Nat.lt_succ_iff.1 h)])

/-! ## Sites -/

section
variable {i : Nat} {inst : Instruction} (hi : (disassemble first code)[i]? = some inst)
  (hl : patcher.options.logsOnly = false)
include hi hl

/-- **RETURNDATASIZE pushes the saved size.** -/
theorem passes_returndatasize (ho : inst.opcode = .returndatasize) (s : List Word) :
    (outside.machine origin).Passes image (OffSite patcher first code)
      (.running (expansionStart patcher first code i) ⟨s, m, world⟩)
      (.running (expansionStart patcher first code (i + 1))
        ⟨m.load 0xa000#256 :: s, m, world⟩) := by
  have seg := segment_expansion hp hi
  have hend := address_expansion patcher hi
  rw [expansion_of_replaced hp (by rw [hl, ho]; rfl)] at seg hend
  rw [← hend]
  exact seg.passes_run (outside.machine origin) _ _ w (n := 0) (k := 2) (by decide) rfl rfl
    (by simp [Fragment.Template.returndatasizePatch])

variable (hsize : image.length ≤ 2 ^ 256) (ho : inst.opcode = .returndatacopy)
include hsize ho

/-- RETURNDATACOPY enters the routine. -/
theorem stays_returndatacopy_enter (stack : List Word) :
    ∃ back, IsDestination image back ∧ OffSite patcher first code back ∧
      (outside.machine origin).Stays image (OffSite patcher first code)
        (.running (expansionStart patcher first code i) ⟨stack, m, world⟩)
        (.running (routineStart patcher first code .returndatacopy)
          ⟨BitVec.ofNat 256 back :: stack, m, world⟩) ∧
      ∀ frame, (outside.machine origin).Passes image (OffSite patcher first code)
        (.running back frame) (.running (expansionStart patcher first code (i + 1)) frame) := by
  have hr : Image.replaced? patcher.options.logsOnly inst.opcode = some .returndatacopyPatch := by
    rw [hl, ho]
    rfl
  obtain ⟨back, hback, hd, hoff, hleave⟩ :=
    exists_resume (k := 3) (outside.machine origin) hp w hi hr (by decide) rfl
  have seg := segment_expansion hp hi
  rw [expansion_of_replaced hp hr] at seg
  exact ⟨back, hd, hoff, seg.stays_call (n := 0) (outside.machine origin) hp w hsize
    ⟨stack, m, world⟩ rfl hback (getElem?_routine hp w .returndatacopy (by decide))
    (offSite_routineStart _ _ _ hp), hleave⟩

/-- **RETURNDATACOPY copies from saved return data.** -/
theorem passes_returndatacopy (dst offset size : Word) (s : List Word)
    (hin : ¬ m.load 0xa000#256 < offset + size) :
    (outside.machine origin).Passes image (OffSite patcher first code)
      (.running (expansionStart patcher first code i) ⟨dst :: offset :: size :: s, m, world⟩)
      (.running (expansionStart patcher first code (i + 1))
        ⟨s, m.write dst.toNat (m.read (0xa020#256 + offset).toNat size.toNat),
          ⟨m.read (0xa020#256 + offset).toNat size.toNat, world.outer⟩⟩) := by
  obtain ⟨back, hd, hoff, henter, hleave⟩ := stays_returndatacopy_enter outside origin hp w m world
    hi hl hsize ho (dst :: offset :: size :: s)
  exact (henter.trans (stays_returndatacopy outside origin hp w m world hsize dst offset size s hd
    hoff hin)).passes (hleave _)

/-- **RETURNDATACOPY fails behind the end of saved return data.** -/
theorem passes_returndatacopy_beyond (dst offset size : Word) (s : List Word)
    (hout : m.load 0xa000#256 < offset + size) :
    (outside.machine origin).Passes image (OffSite patcher first code)
      (.running (expansionStart patcher first code i) ⟨dst :: offset :: size :: s, m, world⟩)
      (.halted (.failed m world)) := by
  obtain ⟨back, -, -, henter, -⟩ := stays_returndatacopy_enter outside origin hp w m world
    hi hl hsize ho (dst :: offset :: size :: s)
  exact henter.passes (passes_returndatacopy_failure outside origin hp w m world hsize _ dst offset
    size s hout)

/-- RETURNDATACOPY fails without its operands. -/
theorem passes_returndatacopy_missing {stack : List Word} (h : stack.length < 3) :
    ∃ outcome, (outside.machine origin).Passes image (OffSite patcher first code)
      (.running (expansionStart patcher first code i) ⟨stack, m, world⟩) (.halted outcome) := by
  obtain ⟨back, -, -, henter, -⟩ := stays_returndatacopy_enter outside origin hp w m world
    hi hl hsize ho stack
  exact (passes_returndatacopy_short outside origin hp w m world h _).imp fun _ => henter.passes

end

end

end Patcher

end EvmProbe
