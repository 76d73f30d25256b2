import EvmProbe.Proofs.Image.Routing
import EvmProbe.Proofs.Machine.Run

/-!
Runs within an image, by the index of instructions.

The machine is followed from the start of one expansion to the start of another, through the
routines in between.  A segment is a stretch of instructions in which no expansion starts, but for
its first place (`OffSite`).

* `segment_expansion`, `segment_routine`: the expansions and the routines of an image are segments.
* `Segment.stays_run`, `Segment.stays_goto`, `Segment.stays_branch`, `Segment.stays_call`,
  `Segment.stays_return`: what the instructions of a segment do.
-/

namespace EvmProbe

open Bytecode Linking

namespace Patcher

/-- No expansion starts at a position of an image. -/
def OffSite (patcher : Patcher) (first : Scope) (code : Bytes) (position : Nat) : Prop :=
  ∀ i < (disassemble first code).length, position ≠ expansionStart patcher first code i

/-- Where the library of an image starts: behind the runtime. -/
def libraryStart (patcher : Patcher) (first : Scope) (code : Bytes) : Nat :=
  runtimeStart code + codeSize (patcher.runtime first code)

/-- Where a routine of the library starts. -/
def routineStart (patcher : Patcher) (first : Scope) (code : Bytes) (fragment : Fragment) : Nat :=
  libraryStart patcher first code +
    codeSize ((Fragment.library.take (Fragment.library.idxOf fragment)).flatMap
      patcher.fragments.get)

section
variable {patcher : Patcher} {base first : Scope} {code : Bytes} {i j position : Nat}

theorem expansionStart_mono (patcher : Patcher) (first : Scope) (code : Bytes) (h : i ≤ j) :
    expansionStart patcher first code i ≤ expansionStart patcher first code j := by
  obtain ⟨k, rfl⟩ := Nat.exists_eq_add_of_le h
  rw [expansionStart, expansionStart, List.take_add, List.flatMap_append, codeSize_append]
  omega

/-- The runtime ends behind the expansions, with a STOP. -/
theorem libraryStart_eq (patcher : Patcher) (first : Scope) (code : Bytes) :
    libraryStart patcher first code =
      expansionStart patcher first code (disassemble first code).length + 1 := by
  have hend : expansionStart patcher first code (disassemble first code).length =
      runtimeStart code + 1 + codeSize (patcher.expansions first code) := by
    rw [expansionStart, List.take_of_length_le (by simp)]
    rfl
  have hentry : Image.runtimeEntry.size = 1 := rfl
  have hstop : (Instruction.plain .stop).size = 1 := rfl
  rw [hend, libraryStart, runtime, codeSize_append, codeSize_cons, codeSize_cons, codeSize_nil,
    hentry, hstop]
  omega

/-- No expansion starts in front of the first. -/
theorem offSite_front (h : position < expansionStart patcher first code 0) :
    OffSite patcher first code position := by
  intro i _ he
  have := expansionStart_mono patcher first code (Nat.zero_le i)
  omega

/-- No expansion starts within an expansion. -/
theorem offSite_within (hl : expansionStart patcher first code i < position)
    (hh : position < expansionStart patcher first code (i + 1)) :
    OffSite patcher first code position := by
  intro j _ he
  rcases Nat.lt_or_ge i j with h | h
  · have : expansionStart patcher first code (i + 1) ≤ expansionStart patcher first code j :=
      expansionStart_mono patcher first code h
    omega
  · have := expansionStart_mono patcher first code h
    omega

theorem expansion_ne_nil (hp : patcher.Assembled base) (inst : Instruction) :
    patcher.expansion first code (inst, i) ≠ [] := by
  unfold expansion expand Image.expand
  cases Image.replaced? patcher.settings.logsOnly inst.opcode with
  | some fragment =>
    dsimp only
    rw [hp, Fragment.duplicate_code]
    cases fragment <;> exact List.cons_ne_nil _ _
  | none =>
    dsimp only
    split
    case h_5 => exact List.cons_ne_nil _ _
    case h_6 => split <;> simp
    all_goals exact List.cons_ne_nil _ _

/-- The instructions of an expansion take up room. -/
theorem size_pos_of_mem_expansion (hp : patcher.Assembled base) {site inst : Instruction}
    (hi : (disassemble first code)[i]? = some site)
    (hm : inst ∈ patcher.expansion first code (site, i)) : 0 < inst.size := by
  obtain ⟨_, _, _, hd⟩ := exists_isDecoded (List.mem_of_getElem? hi)
  exact Instruction.size_pos_of_isRegular (isRegular_expand hp hd inst hm)

/-- The next expansion starts further on. -/
theorem expansionStart_lt_succ (hp : patcher.Assembled base) {site : Instruction}
    (hi : (disassemble first code)[i]? = some site) :
    expansionStart patcher first code i < expansionStart patcher first code (i + 1) := by
  have hlen := length_le_codeSize fun inst hm => size_pos_of_mem_expansion hp hi hm
  have hne : 0 < (patcher.expansion first code (site, i)).length :=
    List.length_pos_iff.2 (expansion_ne_nil hp site)
  rw [expansionStart_succ patcher hi]
  omega

/-- No expansion starts behind the last. -/
theorem offSite_behind (hp : patcher.Assembled base)
    (h : expansionStart patcher first code (disassemble first code).length ≤ position) :
    OffSite patcher first code position := by
  intro i hi he
  have hlt := expansionStart_lt_succ hp (List.getElem?_eq_getElem hi)
  have : expansionStart patcher first code (i + 1) ≤ _ := expansionStart_mono patcher first code hi
  omega

/-- No expansion starts in the routers. -/
theorem offSite_routers (hp : patcher.Assembled base)
    (h : routerStart patcher first code ≤ position) : OffSite patcher first code position :=
  offSite_behind hp (by
    have hlibrary := libraryStart_eq patcher first code
    rw [libraryStart] at hlibrary
    rw [routerStart] at h
    omega)

end

/-! ## Segments -/

/-- Instructions of an image, one behind the other from a position on, in which no expansion starts
but for their first place. -/
structure Segment (patcher : Patcher) (first : Scope) (code : Bytes) (start : Nat)
    (block : List Instruction) : Prop where
  lies : LiesAt (patcher.leading code ++ patcher.instrumented first code) start block
  sized : ∀ inst ∈ block, 0 < inst.size
  within : ∀ p, start < p → p < start + codeSize block → OffSite patcher first code p

/-- Where the instruction of an index stands. -/
def address (start : Nat) (block : List Instruction) (n : Nat) : Nat :=
  start + codeSize (block.take n)

@[simp] theorem address_zero (start : Nat) (block : List Instruction) :
    address start block 0 = start := rfl

theorem address_length (start : Nat) (block : List Instruction) :
    address start block block.length = start + codeSize block := by
  rw [address, List.take_length]

/-- Behind an opcode and its immediate bytes the next instruction stands. -/
theorem address_succ {n : Nat} {block : List Instruction} {inst : Instruction} {byte : UInt8}
    (start : Nat) (hget : block[n]? = some inst) (hb : inst.opcode.toByte? = some byte) :
    address start block (n + 1) = address start block n + (1 + inst.opcode.width) := by
  rw [address, List.take_add_one, hget, Option.toList_some, codeSize_append, codeSize_cons,
    codeSize_nil, Instruction.size_of_toByte? hb, address, Nat.add_zero, Nat.add_assoc]

/-- The expansion of an instruction is a segment. -/
theorem segment_expansion {patcher : Patcher} {base first : Scope} {code : Bytes} {i : Nat}
    {site : Instruction} (hp : patcher.Assembled base)
    (hi : (disassemble first code)[i]? = some site) :
    Segment patcher first code (expansionStart patcher first code i)
      (patcher.expansion first code (site, i)) where
  lies := liesAt_expansion hp hi
  sized _ hm := size_pos_of_mem_expansion hp hi hm
  within p hl hh := offSite_within hl (by rwa [expansionStart_succ patcher hi])

/-- Behind an expansion the next one starts. -/
theorem address_expansion (patcher : Patcher) {first : Scope} {code : Bytes} {i : Nat}
    {site : Instruction} (hi : (disassemble first code)[i]? = some site) :
    address (expansionStart patcher first code i) (patcher.expansion first code (site, i))
        (patcher.expansion first code (site, i)).length =
      expansionStart patcher first code (i + 1) := by
  rw [address_length, expansionStart_succ patcher hi]

/-- A routine of the library is a segment. -/
theorem segment_routine {patcher : Patcher} {base : Scope} (first : Scope) (code : Bytes)
    (fragment : Fragment) (hp : patcher.Assembled base) (hf : fragment ∈ Fragment.library) :
    Segment patcher first code (routineStart patcher first code fragment)
      (fragment.code patcher.options (base.after fragment.index)) where
  lies := by
    have hlt := List.idxOf_lt_length_of_mem hf
    have hlibrary : Fragment.library.flatMap patcher.fragments.get =
        (Fragment.library.take (Fragment.library.idxOf fragment)).flatMap patcher.fragments.get ++
          (patcher.fragments.get fragment ++
            (Fragment.library.drop (Fragment.library.idxOf fragment + 1)).flatMap
              patcher.fragments.get) := by
      conv_lhs => rw [← List.take_append_drop (Fragment.library.idxOf fragment) Fragment.library,
        List.drop_eq_getElem_cons hlt, List.getElem_idxOf hlt]
      rw [List.flatMap_append, List.flatMap_cons]
    refine ⟨patcher.leading code ++ patcher.runtime first code ++
      (Fragment.library.take (Fragment.library.idxOf fragment)).flatMap patcher.fragments.get,
      (Fragment.library.drop (Fragment.library.idxOf fragment + 1)).flatMap
        patcher.fragments.get ++
        (Image.jumpRouter (routerScope first code) (patcher.runtime first code) ++
          (Image.accountRouters ((routerScope first code).after 1)
            patcher.options.accounts).flatten), ?_, ?_⟩
    · rw [instrumented_eq, hlibrary, ← hp]
      simp only [List.append_assoc]
    · rw [codeSize_append, codeSize_append, codeSize_leading hp]
      rfl
  sized inst hm := Instruction.size_pos_of_isRegular (Fragment.isRegular_code _ _ _ inst hm)
  within p hl _ := offSite_behind hp (by
    have := libraryStart_eq patcher first code
    rw [routineStart] at hl
    omega)

/-- No expansion starts where a routine of the library does. -/
theorem offSite_routineStart {patcher : Patcher} {base : Scope} (first : Scope) (code : Bytes)
    (fragment : Fragment) (hp : patcher.Assembled base) :
    OffSite patcher first code (routineStart patcher first code fragment) :=
  offSite_behind hp (by
    have := libraryStart_eq patcher first code
    rw [routineStart]
    omega)

namespace Segment
variable {patcher : Patcher} {base first scope : Scope} {code image : Bytes} {table : Table}
  {start n k target : Nat} {block rest : List Instruction} {inst : Instruction} {entry : Entry}
  {label : Label}

section
variable (seg : Segment patcher first code start block)
include seg

omit seg in
/-- The front of a segment. -/
theorem left (seg : Segment patcher first code start (block ++ rest)) :
    Segment patcher first code start block where
  lies := seg.lies.left
  sized inst hm := seg.sized inst (List.mem_append_left _ hm)
  within p hl hh := seg.within p hl (by rw [codeSize_append]; omega)

omit seg in
/-- The rest of a segment. -/
theorem right (seg : Segment patcher first code start (block ++ rest)) :
    Segment patcher first code (start + codeSize block) rest where
  lies := seg.lies.right
  sized inst hm := seg.sized inst (List.mem_append_right _ hm)
  within p hl hh := seg.within p (by omega) (by rw [codeSize_append]; omega)

theorem liesAt_drop (n : Nat) : LiesAt (patcher.leading code ++ patcher.instrumented first code)
    (address start block n) (block.drop n) := by
  have h := seg.lies
  rw [← List.take_append_drop n block] at h
  exact h.right

theorem codeSize_take_pos (hn : 0 < n) (hlt : n < block.length) :
    0 < codeSize (block.take n) ∧ codeSize (block.take n) < codeSize block := by
  have hsized (l : List Instruction) (hl : ∀ i ∈ l, i ∈ block) : l.length ≤ codeSize l :=
    length_le_codeSize fun i hi => seg.sized i (hl i hi)
  have htake := hsized (block.take n) fun _ => List.mem_of_mem_take
  have hdrop := hsized (block.drop n) fun _ => List.mem_of_mem_drop
  have hsum : codeSize block = codeSize (block.take n) + codeSize (block.drop n) := by
    rw [← codeSize_append, List.take_append_drop]
  rw [List.length_take] at htake
  rw [List.length_drop] at hdrop
  omega

/-- No expansion starts at an instruction within a segment. -/
theorem offSite (hn : 0 < n) (hlt : n < block.length) :
    OffSite patcher first code (address start block n) := by
  have h := seg.codeSize_take_pos hn hlt
  exact seg.within _ (by rw [address]; omega) (by rw [address]; omega)

/-- A label of a segment is declared where its instruction stands. -/
theorem entry_address
    (w : Written (patcher.leading code ++ patcher.instrumented first code) table image)
    (hget : block[n]? = some inst) (hd : declared? inst = some entry) :
    table[entry]? = some (address start block n) := by
  have hl := seg.liesAt_drop n
  obtain ⟨hlt, rfl⟩ := List.getElem?_eq_some_iff.1 hget
  rw [List.drop_eq_getElem_cons hlt] at hl
  exact (w.entries _ _).2 ⟨_, hl.head, hd⟩

/-- An image holds the byte of an opcode where its instruction stands in a segment. -/
theorem getElem?_image {byte : UInt8}
    (w : Written (patcher.leading code ++ patcher.instrumented first code) table image)
    (hget : block[n]? = some inst) (hb : inst.opcode.toByte? = some byte) :
    image[address start block n]? = some byte := by
  have hl := seg.liesAt_drop n
  obtain ⟨hlt, rfl⟩ := List.getElem?_eq_some_iff.1 hget
  rw [List.drop_eq_getElem_cons hlt] at hl
  exact w.getElem?_opcode hl.head hb

/-- A label within a segment: where it is declared, no expansion starts. -/
theorem inner_label
    (w : Written (patcher.leading code ++ patcher.instrumented first code) table image)
    (hget : block[n]? = some inst) (hd : declared? inst = some entry) (hn : 0 < n) :
    table[entry]? = some (address start block n) ∧
      OffSite patcher first code (address start block n) :=
  ⟨seg.entry_address w hget hd, seg.offSite hn (List.getElem?_eq_some_iff.1 hget).1⟩

end

/-! ## Runs within a segment -/

section
variable {μ ω : Type} (machine : Machine μ ω) (frame next : Frame μ ω) (outcome : Outcome μ ω)
  (seg : Segment patcher first code start block)
  (w : Written (patcher.leading code ++ patcher.instrumented first code) table image)
include seg w

/-- The run of `k` instructions from index `n` on. -/
theorem passes_after (hk : 0 < k) (hle : ((block.drop n).take k).length = k)
    (hplain : ((block.drop n).take k).all Instruction.isPlain) :
    machine.Passes image (OffSite patcher first code) (.running (address start block n) frame)
      (.after ((machine.runBlock table ((block.drop n).take k) frame).map fun next =>
        (address start block (n + k), next))) := by
  have hsum : codeSize (block.take (n + k)) =
      codeSize (block.take n) + codeSize ((block.drop n).take k) := by
    rw [List.take_add, codeSize_append]
  have hall : codeSize (block.take (n + k)) ≤ codeSize block := by
    conv_rhs => rw [← List.take_append_drop (n + k) block, codeSize_append]
    omega
  have hl := seg.liesAt_drop n
  rw [← List.take_append_drop k (block.drop n)] at hl
  have hmem (i : Instruction) (hi : i ∈ (block.drop n).take k) :
      i ∈ patcher.leading code ++ patcher.instrumented first code := by
    obtain ⟨before, after, hcode, -⟩ := seg.lies
    rw [hcode]
    simp [List.mem_of_mem_drop (List.mem_of_mem_take hi)]
  have hrun := w.passes_block machine frame hl.left
    (List.ne_nil_of_length_pos (by omega))
    (List.all_eq_true.2 fun i hi =>
      Instruction.isStraight_of_isPlain (List.all_eq_true.1 hplain i hi))
    fun p hp hlt => seg.within p (by rw [address] at hp; omega) (by rw [address] at hlt; omega)
  rw [w.actAll_resolved machine frame hmem hplain] at hrun
  rwa [address, Nat.add_assoc, ← hsum, ← address] at hrun

/-- **Instructions that act on the frame alone are run one after the other.** -/
theorem passes_run (hk : 0 < k) (hle : ((block.drop n).take k).length = k)
    (hplain : ((block.drop n).take k).all Instruction.isPlain)
    (h : machine.runBlock table ((block.drop n).take k) frame = .ok next) :
    machine.Passes image (OffSite patcher first code) (.running (address start block n) frame)
      (.running (address start block (n + k)) next) := by
  have hrun := seg.passes_after machine frame w hk hle hplain
  rwa [h] at hrun

/-- The run of instructions that halt. -/
theorem passes_halt (hk : 0 < k) (hle : ((block.drop n).take k).length = k)
    (hplain : ((block.drop n).take k).all Instruction.isPlain)
    (h : machine.runBlock table ((block.drop n).take k) frame = .error outcome) :
    machine.Passes image (OffSite patcher first code) (.running (address start block n) frame)
      (.halted outcome) := by
  have hrun := seg.passes_after machine frame w hk hle hplain
  rwa [h] at hrun

/-- Instructions that fail halt the machine in some way. -/
theorem exists_passes_halted (hk : 0 < k) (hle : ((block.drop n).take k).length = k)
    (hplain : ((block.drop n).take k).all Instruction.isPlain)
    (h : ∃ outcome, machine.runBlock table ((block.drop n).take k) frame = .error outcome) :
    ∃ outcome, machine.Passes image (OffSite patcher first code)
      (.running (address start block n) frame) (.halted outcome) :=
  h.imp fun outcome h => seg.passes_halt machine frame outcome w hk hle hplain h

/-- The run of instructions that others follow in the segment. -/
theorem stays_run (hk : 0 < k) (hlt : block[n + k]?.isSome)
    (hplain : ((block.drop n).take k).all Instruction.isPlain)
    (h : machine.runBlock table ((block.drop n).take k) frame = .ok next) :
    machine.Stays image (OffSite patcher first code) (.running (address start block n) frame)
      (.running (address start block (n + k)) next) :=
  have hlt : n + k < block.length := by simpa using hlt
  ⟨seg.passes_run machine frame next w hk
    (by rw [List.length_take, List.length_drop]; omega) hplain h,
    seg.offSite (by omega) hlt⟩

end

/-! ## Jumps of a segment -/

theorem drop_succ_of_drop (start : Nat) {head : Instruction} {rest : List Instruction}
    (h : block.drop n = head :: rest) :
    block.drop (n + 1) = rest ∧ n < block.length ∧
      address start block (n + 1) = address start block n + head.size := by
  have hlt : n < block.length := by
    by_contra hge
    rw [List.drop_of_length_le (Nat.not_lt.1 hge)] at h
    cases h
  rw [List.drop_eq_getElem_cons hlt, List.cons.injEq] at h
  refine ⟨h.2, hlt, ?_⟩
  rw [address, address, List.take_succ_eq_append_getElem hlt, codeSize_append, h.1,
    Nat.add_assoc]
  rfl

section
variable {μ ω : Type} (machine : Machine μ ω) (hp : patcher.Assembled base)
  (seg : Segment patcher first code start block)
  (w : Written (patcher.leading code ++ patcher.instrumented first code) table image)
  (hsize : image.length ≤ 2 ^ 256) (frame : Frame μ ω)
include hp seg w hsize

/-- **A pushed label and a jump go to the label.** -/
theorem stays_goto
    (hdrop : block.drop n = (Instruction.pushLabel (.pushN 3) label).inScope scope ::
      (Instruction.plain .jump).inScope scope :: rest)
    (ht : table[label.entryIn scope]? = some target)
    (htarget : OffSite patcher first code target) :
    machine.Stays image (OffSite patcher first code) (.running (address start block n) frame)
      (.running target frame) := by
  obtain ⟨hnext, -, haddress⟩ := drop_succ_of_drop start hdrop
  have hlt := (drop_succ_of_drop start hnext).2.1
  have hl := seg.liesAt_drop n
  rw [hdrop] at hl
  refine ⟨w.passes_goto machine frame hsize hl rfl rfl rfl (entryOf_some _ _) ht
    (isDestination_of_entry hp w ht) ?_, htarget⟩
  have hoff := seg.offSite (Nat.succ_pos n) hlt
  rwa [haddress] at hoff

/-- A pushed label and a conditional jump go to the label unless the top of the stack is zero. -/
theorem passes_branch
    (hdrop : block.drop n = (Instruction.pushLabel (.pushN 3) label).inScope scope ::
      (Instruction.plain .jumpi).inScope scope :: rest)
    (ht : table[label.entryIn scope]? = some target) (condition : Word) :
    machine.Passes image (OffSite patcher first code)
      (.running (address start block n) (frame.push condition))
      (.running (if condition = 0 then address start block (n + 2) else target) frame) := by
  obtain ⟨hnext, -, hone⟩ := drop_succ_of_drop start hdrop
  obtain ⟨-, hlt, htwo⟩ := drop_succ_of_drop start hnext
  have hl := seg.liesAt_drop n
  rw [hdrop] at hl
  have hoff := seg.offSite (Nat.succ_pos n) hlt
  rw [hone] at hoff
  have haddress : address start block (n + 2) = address start block n + 5 := by
    rw [htwo, hone, Nat.add_assoc]
    rfl
  rw [haddress]
  exact w.passes_branch machine frame hsize hl rfl rfl rfl (entryOf_some _ _) ht
    (isDestination_of_entry hp w ht) condition hoff

/-- **A pushed label and a conditional jump go to the label** unless the top of the stack is
zero. -/
theorem stays_branch
    (hdrop : block.drop n = (Instruction.pushLabel (.pushN 3) label).inScope scope ::
      (Instruction.plain .jumpi).inScope scope :: inst :: rest)
    (ht : table[label.entryIn scope]? = some target)
    (htarget : OffSite patcher first code target) (condition : Word) :
    machine.Stays image (OffSite patcher first code)
      (.running (address start block n) (frame.push condition))
      (.running (if condition = 0 then address start block (n + 2) else target) frame) := by
  have hnext := (drop_succ_of_drop start (drop_succ_of_drop start hdrop).1).1
  refine ⟨seg.passes_branch machine hp w hsize frame hdrop ht condition, ?_⟩
  split
  · exact seg.offSite (Nat.succ_pos _) (drop_succ_of_drop start hnext).2.1
  · exact htarget

/-- **Two pushed labels and a jump**: the machine goes to the second, with the first on the
stack. -/
theorem stays_call {back : Label} {resume : Nat}
    (hdrop : block.drop n = (Instruction.pushLabel (.pushN 3) back).inScope scope ::
      (Instruction.pushLabel (.pushN 3) label).inScope scope ::
        (Instruction.plain .jump).inScope scope :: rest)
    (hb : table[back.entryIn scope]? = some resume)
    (ht : table[label.entryIn scope]? = some target)
    (htarget : OffSite patcher first code target) :
    machine.Stays image (OffSite patcher first code) (.running (address start block n) frame)
      (.running target (frame.push (BitVec.ofNat 256 resume))) := by
  obtain ⟨hnext, -, haddress⟩ := drop_succ_of_drop start hdrop
  have hlt := (drop_succ_of_drop start hnext).2.1
  have hl := seg.liesAt_drop n
  rw [hdrop] at hl
  have hpush := w.step_reference machine frame hl.head rfl rfl (entryOf_some _ _) hb
  have hoff := seg.offSite (Nat.succ_pos n) hlt
  refine .trans ⟨.single hpush, ?_⟩ ?_
  · rwa [haddress] at hoff
  · have hgoto := seg.stays_goto machine hp w hsize (frame.push (BitVec.ofNat 256 resume)) hnext
      ht htarget
    rwa [haddress] at hgoto

omit hp in
/-- **Instructions and a jump go to the address that they leave on the stack.** -/
theorem passes_return {stack : List Word} {memory : μ} {world : ω} (hk : 0 < k)
    (hplain : ((block.drop n).take k).all Instruction.isPlain)
    (hdrop : block.drop (n + k) = (Instruction.plain .jump).inScope scope :: rest)
    (h : machine.runBlock table ((block.drop n).take k) frame =
      .ok ⟨BitVec.ofNat 256 target :: stack, memory, world⟩)
    (hd : IsDestination image target) :
    machine.Passes image (OffSite patcher first code) (.running (address start block n) frame)
      (.running target ⟨stack, memory, world⟩) := by
  have hlt := (drop_succ_of_drop start hdrop).2.1
  have hrun := seg.stays_run machine frame _ w hk (by simpa using hlt) hplain h
  have hl := seg.liesAt_drop (n + k)
  rw [hdrop] at hl
  exact hrun.passes (.single (w.step_jump machine ⟨stack, memory, world⟩ hl.head rfl hsize hd))

omit hp in
/-- Instructions and a jump go to an address at which no expansion starts. -/
theorem stays_return {stack : List Word} {memory : μ} {world : ω} (hk : 0 < k)
    (hplain : ((block.drop n).take k).all Instruction.isPlain)
    (hdrop : block.drop (n + k) = (Instruction.plain .jump).inScope scope :: rest)
    (h : machine.runBlock table ((block.drop n).take k) frame =
      .ok ⟨BitVec.ofNat 256 target :: stack, memory, world⟩)
    (hd : IsDestination image target) (htarget : OffSite patcher first code target) :
    machine.Stays image (OffSite patcher first code) (.running (address start block n) frame)
      (.running target ⟨stack, memory, world⟩) :=
  ⟨seg.passes_return machine w hsize frame hk hplain hdrop h hd, htarget⟩

end

end Segment

/-! ## Coming back to a site -/

/-- A fragment that ends with the label `:resume`: from there the next expansion is reached. -/
theorem exists_resume {μ ω : Type} (machine : Machine μ ω) {patcher : Patcher} {base first : Scope}
    {code image : Bytes} {table : Table} (hp : patcher.Assembled base)
    (w : Written (patcher.leading code ++ patcher.instrumented first code) table image) {i k : Nat}
    {site : Instruction} (hi : (disassemble first code)[i]? = some site) {fragment : Fragment}
    (hr : Image.replaced? patcher.options.logsOnly site.opcode = some fragment) (hk : 0 < k)
    (hlast : (fragment.code patcher.options ((innerScope first code).after i)).drop k =
      [((Instruction.plain .jumpdest).labelled (.lexical "resume")).inScope
        ((innerScope first code).after i)]) :
    ∃ back, table[(Label.lexical "resume").entryIn ((innerScope first code).after i)]? = some back ∧
      IsDestination image back ∧ OffSite patcher first code back ∧
      ∀ frame, machine.Passes image (OffSite patcher first code) (.running back frame)
        (.running (expansionStart patcher first code (i + 1)) frame) := by
  have seg := segment_expansion hp hi
  have hend := address_expansion patcher hi
  rw [expansion_of_replaced hp hr] at seg hend
  have hget : (fragment.code patcher.options ((innerScope first code).after i))[k]? =
      some (((Instruction.plain .jumpdest).labelled (.lexical "resume")).inScope
        ((innerScope first code).after i)) := by
    rw [← Nat.add_zero k, ← List.getElem?_drop, hlast]
    rfl
  have hlen : (fragment.code patcher.options ((innerScope first code).after i)).length = k + 1 := by
    have hdrop := congrArg List.length hlast
    rw [List.length_drop, List.length_singleton] at hdrop
    omega
  obtain ⟨hback, hoff⟩ := seg.inner_label w hget rfl hk
  refine ⟨_, hback, isDestination_of_entry hp w hback, hoff, fun frame => ?_⟩
  rw [← hend, hlen]
  exact seg.passes_run machine _ _ w (n := k) (k := 1) (by decide) (by rw [hlast]; rfl)
    (by rw [hlast]; rfl) (by rw [hlast]; rfl)

end Patcher

end EvmProbe
