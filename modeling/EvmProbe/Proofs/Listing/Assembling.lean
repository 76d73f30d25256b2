import EvmProbe.Proofs.Listing.Grammar
import EvmProbe.Proofs.Listing.Rendering

/-!
What assembling gives.

* `readable_of_parse`: what a line can be read as.
* `isAssembled_of_assemble`: a listing can write every instruction that is assembled.
* `not_isSingleDigit_of_assemble_render`: instructions whose listing is assembled push no number
  that is written with a single digit.
-/

namespace EvmProbe.Listing

/-! ## Lines -/

/-- A term of a push as lines have it. -/
def Term.IsListable : Term → Prop
  | .literal operand => operand.IsListable
  | .constant _ => True

namespace Line

/-- What lines can be read as. -/
inductive Readable : Line → Prop
  | blank : Readable .blank
  | label {target : Label} (h : Label.isName target.name.toList = true) : Readable (.label target)
  | data (content : Bytes) : Readable (.instruction .data (some (.literal (.bytes content))))
  | plain {op : Opcode} (hop : op ∈ Opcode.named) (hd : op ≠ .data) (hw : op.width = 0) :
    Readable (.instruction op none)
  | push {op : Opcode} {term : Term} (hop : op ∈ Opcode.named) (hw : op.width ≠ 0)
    (ht : term.IsListable) : Readable (.instruction op (some term))

theorem isName_of_labelToken {token : List Char} {target : Label} (h : LabelToken token target) :
    Label.isName target.name.toList = true := by
  cases h with
  | global hname => simpa [Label.name] using hname
  | lexical hname => simpa [Label.name] using hname

theorem isListable_of_literal {token : List Char} {operand : Operand}
    (h : LiteralOperand token operand) : operand.IsListable := by
  cases h with
  | hex => trivial
  | decimal => trivial
  | reference ht => exact isName_of_labelToken ht
  | name hn => simpa [Operand.IsListable, Label.name] using hn

theorem isListable_of_term {token : List Char} {term : Term} (h : TermToken token term) :
    term.IsListable := by
  cases h with
  | constant key => trivial
  | literal hl => exact isListable_of_literal hl

theorem width_push_ne_zero : ∀ width : Fin 33, width ≠ 0 → (Opcode.push width).width ≠ 0 := by
  decide

theorem readable_of_reads {words : List (List Char)} {line : Line} (h : Reads words line) :
    Readable line := by
  cases h with
  | blank => exact .blank
  | label ht => exact .label (isName_of_labelToken ht)
  | push hw hm ht => exact .push hm.named (width_push_ne_zero _ hw) (isListable_of_term ht)
  | data hm hd => exact .data _
  | plain hm hd hp =>
    refine .plain hm.named hd ?_
    by_contra hwidth
    obtain ⟨width, hw, he⟩ :=
      (isPush_iff_push hm.named).1 (decide_eq_true (Nat.pos_of_ne_zero hwidth))
    exact hp width hw he

/-- **What a line can be read as.** -/
theorem readable_of_parse {text : List Char} {line : Line} (h : parse text = .ok line) :
    Readable line := readable_of_reads (ofWords_ok_iff.1 h)

end Line

open Line

/-! ## Instructions -/

/-- The value of a constant can be written as the operand of a push. -/
theorem isListable_value (value : Environment.Value) : value.operand.IsListable := by
  cases value <;> simp [Environment.Value.operand, Operand.IsListable, wordBytes]

variable {env : Environment} {scope : Scope} {code : List Instruction}

theorem isListable_of_resolve {term : Term} {operand : Operand} (ht : term.IsListable)
    (h : term.resolve env = .ok operand) : operand.IsListable := by
  cases term with
  | literal literal =>
    cases h
    exact ht
  | constant key =>
    unfold Term.resolve Environment.operand at h
    cases hv : env.get? key with
    | none => simp [hv] at h
    | some value =>
      simp only [hv, Except.ok.injEq] at h
      exact h ▸ isListable_value value

/-- An instruction as texts are assembled to: it can be listed, its opcode has a name, and it is of
the scope. -/
structure IsAssembled (scope : Scope) (inst : Instruction) : Prop where
  listable : inst.IsListable
  named : inst.opcode ∈ Opcode.named
  scope : inst.scope = some scope

theorem mem_named_of_readable {opcode : Opcode} {term : Option Term}
    (h : Readable (.instruction opcode term)) : opcode ∈ Opcode.named := by
  cases h with
  | data content => exact data_mem_named
  | plain hop => exact hop
  | push hop => exact hop

theorem listable_of_resolveTerm {opcode : Opcode} {term : Option Term} {operand : Option Operand}
    (hr : Readable (.instruction opcode term)) (h : resolveTerm env term = .ok operand) :
    Listable opcode operand := by
  cases hr with
  | data content =>
    cases h
    exact .data content
  | plain hop hd hw =>
    cases h
    exact .plain hop hd hw
  | @push _ term hop hw ht =>
    obtain ⟨resolved, hres, rfl⟩ := exists_of_map_eq_ok h
    exact .push hop hw (isListable_of_resolve ht hres)

/-- What one line can be, if it and those behind it are assembled. -/
inductive AssembledBy (env : Environment) (scope : Scope) (number : Nat)
    (rest : List (Except Line.Error Line)) :
    Option (Label × Nat) → Except Line.Error Line → List Instruction → Prop
  | blank {pending code} (h : assembleFrom env scope (number + 1) pending rest = .ok code) :
    AssembledBy env scope number rest pending (.ok .blank) code
  | label {target code}
    (h : assembleFrom env scope (number + 1) (some (target, number)) rest = .ok code) :
    AssembledBy env scope number rest none (.ok (.label target)) code
  | instruction {pending opcode term operand behind} (ho : resolveTerm env term = .ok operand)
    (hb : assembleFrom env scope (number + 1) none rest = .ok behind) :
    AssembledBy env scope number rest pending (.ok (.instruction opcode term))
      ({ opcode, operand, label := pending.map (·.1), scope := some scope } :: behind)

theorem assembledBy_of_ok {number : Nat} {pending : Option (Label × Nat)}
    {line : Except Line.Error Line} {rest : List (Except Line.Error Line)}
    (h : assembleFrom env scope number pending (line :: rest) = .ok code) :
    AssembledBy env scope number rest pending line code := by
  cases line with
  | error cause => cases pending <;> cases h
  | ok line =>
    cases line with
    | blank => cases pending <;> exact .blank h
    | label target =>
      cases pending with
      | none => exact .label h
      | some p => cases h
    | instruction opcode term =>
      cases ho : resolveTerm env term with
      | error cause => cases pending <;> simp [assembleFrom, ho] at h
      | ok operand =>
        have hmap : (assembleFrom env scope (number + 1) none rest).map
            ({ opcode, operand, label := pending.map (·.1), scope := some scope } :: ·) =
            .ok code := by
          cases pending <;> simpa [assembleFrom, ho] using h
        obtain ⟨behind, hb, rfl⟩ := exists_of_map_eq_ok hmap
        exact .instruction ho hb

/-- Lines that are assembled are all read. -/
theorem exists_read_of_assembleFrom {number : Nat} {pending : Option (Label × Nat)}
    {lines : List (Except Line.Error Line)}
    (h : assembleFrom env scope number pending lines = .ok code) :
    ∀ line ∈ lines, ∃ read, line = .ok read := by
  induction lines generalizing number pending code with
  | nil => simp
  | cons line rest ih =>
    refine List.forall_mem_cons.2 ?_
    cases assembledBy_of_ok h with
    | blank h => exact ⟨⟨_, rfl⟩, ih h⟩
    | label h => exact ⟨⟨_, rfl⟩, ih h⟩
    | instruction _ hb => exact ⟨⟨_, rfl⟩, ih hb⟩

theorem isAssembled_of_assembleFrom {number : Nat} {pending : Option (Label × Nat)}
    {lines : List (Except Line.Error Line)} (hread : ∀ line, .ok line ∈ lines → Readable line)
    (hpending : ∀ target ∈ pending.map (·.1), Label.isName target.name.toList = true)
    (h : assembleFrom env scope number pending lines = .ok code) :
    ∀ inst ∈ code, IsAssembled scope inst := by
  induction lines generalizing number pending code with
  | nil =>
    cases pending with
    | none =>
      cases h
      simp
    | some p => cases h
  | cons line rest ih =>
    have hrest : ∀ line, .ok line ∈ rest → Readable line :=
      fun line hm => hread line (List.mem_cons_of_mem _ hm)
    cases assembledBy_of_ok h with
    | blank h => exact ih hrest hpending h
    | @label target _ h =>
      refine ih hrest (fun other ho => ?_) h
      cases hread _ List.mem_cons_self with
      | label hname =>
        cases ho
        exact hname
    | instruction ho hb =>
      have hline := hread _ List.mem_cons_self
      have hfirst := listable_of_resolveTerm hline ho
      exact List.forall_mem_cons.2
        ⟨⟨⟨hpending, hfirst⟩, mem_named_of_readable hline, rfl⟩, ih hrest (by simp) hb⟩

/-- **A listing can write every instruction that is assembled.** -/
theorem isAssembled_of_assemble {text : String} (h : assemble env scope text = .ok code) :
    ∀ inst ∈ code, IsAssembled scope inst := by
  refine isAssembled_of_assembleFrom (fun line hm => ?_) (by simp) h
  obtain ⟨text, -, hp⟩ := List.mem_map.1 hm
  exact readable_of_parse hp

/-- Instructions whose listing is assembled push no number that is written with a single digit. -/
theorem not_isSingleDigit_of_assemble_render {read : List Instruction}
    (hl : ∀ inst ∈ code, inst.IsListable) (h : assemble env scope (render code) = .ok read) :
    ∀ inst ∈ code, ∀ operand ∈ inst.operand, ¬ IsSingleDigit operand := by
  intro inst hm operand ho hs
  rw [assemble, assembleLines, lines_render (List.ne_nil_of_mem hm) hl] at h
  have hline : parse (instructionText inst).toList ∈ code.flatMap readLines := by
    refine List.mem_flatMap.2 ⟨inst, hm, List.mem_map.2 ⟨_, ?_, rfl⟩⟩
    unfold linesOf
    cases inst.label <;> simp
  obtain ⟨line, hr⟩ := exists_read_of_assembleFrom h _ hline
  rw [parse_singleDigit (hl inst hm).operand ho hs] at hr
  cases hr

end EvmProbe.Listing
