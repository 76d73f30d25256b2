import EvmProbe.Proofs.Listing.Assembling

/-!
Which listings are assembled, and to what.

* `sentences`: the words of the lines of a text, without comments and blank lines.
* `IsListing`: every line is a label or an instruction, and the instruction behind a label is on the
  next of these lines.
* `Assembles`: the instructions that such lines stand for.
* `assemble_ok_iff`: the texts that are assembled are the listings, and what they are assembled to
  is what their lines stand for.
-/

namespace EvmProbe.Listing

open Line

/-! ## The lines of a text -/

/-- A line up to the first place where `//` starts. -/
def uncommented (line : List Char) : List Char :=
  line.take (line.tails.findIdx (['/', '/'].isPrefixOf ·))

/-- The words of a line: what stands between blanks, without its comment. -/
def wordsIn (line : List Char) : List (List Char) :=
  ((uncommented line).splitOnP Text.isBlank).filter (!·.isEmpty)

/-- The words of every line of a text that has any. -/
def sentences (text : String) : List (List (List Char)) :=
  ((text.toList.splitOn '\n').map wordsIn).filter (!·.isEmpty)

theorem uncommented_eq (line : List Char) : uncommented line = cutComment line := by
  induction line with
  | nil => rfl
  | cons c rest ih =>
    unfold uncommented at ih ⊢
    rw [List.tails_cons, List.findIdx_cons]
    unfold cutComment
    split
    · next heq => exact (List.cons_ne_nil _ _ heq).elim
    · next heq =>
      obtain ⟨rfl, rfl⟩ := List.cons.inj heq
      rfl
    · next hno heq =>
      obtain ⟨rfl, rfl⟩ := List.cons.inj heq
      have hstart : ['/', '/'].isPrefixOf (c :: rest) = false := by
        rw [Bool.eq_false_iff, ne_eq, List.isPrefixOf_iff_prefix]
        rintro ⟨behind, hb⟩
        obtain ⟨hc, hr⟩ := List.cons.inj hb
        exact hno behind hc.symm hr.symm
      rw [hstart, cond_false, List.take_succ_cons, ih]

theorem wordsIn_eq (line : List Char) : wordsIn line = Text.words (cutComment line) := by
  rw [wordsIn, uncommented_eq, Text.words, Text.fields_eq_splitOnP]

/-! ## Listings -/

/-- A line declares a label. -/
def IsLabelLine (words : List (List Char)) : Prop :=
  ∃ token target, words = [token] ∧ LabelToken token target

/-- A line holds an instruction. -/
def IsStatement (env : Environment) (words : List (List Char)) : Prop :=
  ∃ op operand, Statement env words op operand

/-- The lines of a listing. -/
structure IsListing (env : Environment) (lines : List (List (List Char))) : Prop where
  line : ∀ words ∈ lines, IsLabelLine words ∨ IsStatement env words
  /-- No two labels follow one another. -/
  apart : lines.IsChain fun words next => ¬ (IsLabelLine words ∧ IsLabelLine next)
  /-- The last line is no label. -/
  last : ∀ words ∈ lines.getLast?, ¬ IsLabelLine words

/-- What lines stand for: an instruction for each instruction line, in the order of the lines, with
the label of the line in front of it if that is a label line. -/
inductive Assembles (env : Environment) (scope : Scope) :
    List (List (List Char)) → List Instruction → Prop
  | nil : Assembles env scope [] []
  | plain {words : List (List Char)} {opcode : Opcode} {operand : Option Operand}
    {lines : List (List (List Char))} {code : List Instruction}
    (hs : Statement env words opcode operand) (hrest : Assembles env scope lines code) :
    Assembles env scope (words :: lines) ({ opcode, operand, scope := some scope } :: code)
  | labelled {token : List Char} {target : Label} {words : List (List Char)} {opcode : Opcode}
    {operand : Option Operand} {lines : List (List (List Char))} {code : List Instruction}
    (hl : LabelToken token target) (hs : Statement env words opcode operand)
    (hrest : Assembles env scope lines code) :
    Assembles env scope ([token] :: words :: lines)
      ({ opcode, operand, label := some target, scope := some scope } :: code)

variable {env : Environment} {scope : Scope} {words : List (List Char)}
  {lines : List (List (List Char))} {code : List Instruction}

/-- No line is both a label and an instruction. -/
theorem not_isStatement_of_label (h : IsLabelLine words) : ¬ IsStatement env words := by
  rintro ⟨op, operand, hs⟩
  obtain ⟨token, target, rfl, ht⟩ := h
  obtain ⟨term, hread, -⟩ := statement_iff.2 hs
  rw [ofWords_label_iff.2 ⟨token, rfl, ht⟩] at hread
  cases hread

/-- The opcode and the operand of an instruction line are those that its words name. -/
theorem Statement.unique {op op' : Opcode} {operand operand' : Option Operand}
    (h : Statement env words op operand) (h' : Statement env words op' operand') :
    op = op' ∧ operand = operand' := by
  obtain ⟨term, hread, hres⟩ := statement_iff.2 h
  obtain ⟨term', hread', hres'⟩ := statement_iff.2 h'
  rw [hread] at hread'
  cases hread'
  rw [hres] at hres'
  cases hres'
  exact ⟨rfl, rfl⟩

/-- A label names one target. -/
theorem LabelToken.unique {token : List Char} {target other : Label} (h : LabelToken token target)
    (h' : LabelToken token other) : target = other := by
  have heq := ofChars?_eq_some_iff.2 h
  rw [ofChars?_eq_some_iff.2 h'] at heq
  exact (Option.some.inj heq).symm

/-! ## Lines that stand for instructions make up a listing -/

theorem IsListing.nil : IsListing env [] := ⟨by simp, .nil, by simp⟩

theorem IsListing.plain (hs : IsStatement env words) (h : IsListing env lines) :
    IsListing env (words :: lines) := by
  have hno : ¬ IsLabelLine words := fun hl => not_isStatement_of_label hl hs
  refine ⟨List.forall_mem_cons.2 ⟨.inr hs, h.line⟩, ?_, ?_⟩
  · exact h.apart.cons fun next _ hboth => hno hboth.1
  · cases lines with
    | nil =>
      intro last hlast
      cases hlast
      exact hno
    | cons next rest => simpa [List.getLast?_cons_cons] using h.last

theorem IsListing.labelled (hl : IsLabelLine words) {next : List (List Char)}
    (hs : IsStatement env next) (h : IsListing env lines) :
    IsListing env (words :: next :: lines) := by
  have hrest := h.plain hs
  refine ⟨List.forall_mem_cons.2 ⟨.inl hl, hrest.line⟩, ?_, ?_⟩
  · refine hrest.apart.cons fun other ho hboth => ?_
    cases ho
    exact not_isStatement_of_label hboth.2 hs
  · simpa [List.getLast?_cons_cons] using hrest.last

theorem Assembles.isListing (h : Assembles env scope lines code) : IsListing env lines := by
  induction h with
  | nil => exact .nil
  | plain hs hrest ih => exact ih.plain ⟨_, _, hs⟩
  | labelled hl hs hrest ih => exact ih.labelled ⟨_, _, rfl, hl⟩ ⟨_, _, hs⟩

theorem IsListing.tail (h : IsListing env (words :: lines)) : IsListing env lines := by
  cases lines with
  | nil => exact .nil
  | cons next rest =>
    refine ⟨(List.forall_mem_cons.1 h.line).2, h.apart.tail, ?_⟩
    simpa [List.getLast?_cons_cons] using h.last

/-- A listing stands for instructions. -/
theorem IsListing.exists_assembles (scope : Scope) :
    ∀ {lines : List (List (List Char))}, IsListing env lines →
      ∃ code, Assembles env scope lines code
  | [], _ => ⟨[], .nil⟩
  | [words], h => by
    rcases h.line words List.mem_cons_self with hl | ⟨op, operand, hs⟩
    · exact absurd hl (h.last words rfl)
    · exact ⟨_, .plain hs .nil⟩
  | words :: next :: rest, h => by
    rcases h.line words List.mem_cons_self with hl | ⟨op, operand, hs⟩
    · have hnext : ¬ IsLabelLine next := fun hn => (List.isChain_cons_cons.1 h.apart).1 ⟨hl, hn⟩
      obtain ⟨op, operand, hs⟩ := (h.tail.line next List.mem_cons_self).resolve_left hnext
      obtain ⟨code, hrest⟩ := h.tail.tail.exists_assembles scope
      obtain ⟨token, target, rfl, ht⟩ := hl
      exact ⟨_, .labelled ht hs hrest⟩
    · obtain ⟨code, hrest⟩ := h.tail.exists_assembles scope
      exact ⟨_, .plain hs hrest⟩

/-! ## The loop over the lines -/

/-- What lines stand for behind a label line, or behind none. -/
inductive AssemblesAfter (env : Environment) (scope : Scope) :
    Option Label → List (List (List Char)) → List Instruction → Prop
  | none {lines : List (List (List Char))} {code : List Instruction}
    (h : Assembles env scope lines code) : AssemblesAfter env scope none lines code
  | some {target : Label} {words : List (List Char)} {opcode : Opcode} {operand : Option Operand}
    {lines : List (List (List Char))} {code : List Instruction}
    (hs : Statement env words opcode operand) (hrest : Assembles env scope lines code) :
    AssemblesAfter env scope (some target) (words :: lines)
      ({ opcode, operand, label := some target, scope := some scope } :: code)

/-- A line that stands for something is a label or an instruction. -/
theorem AssemblesAfter.line {pending : Option Label}
    (h : AssemblesAfter env scope pending (words :: lines) code) :
    IsLabelLine words ∨ IsStatement env words := by
  cases h with
  | none h => exact h.isListing.line words List.mem_cons_self
  | some hs => exact .inr ⟨_, _, hs⟩

/-- An instruction line gets the label that is pending. -/
theorem assemblesAfter_statement {op : Opcode} {operand : Option Operand}
    (hs : Statement env words op operand) {pending : Option Label} :
    AssemblesAfter env scope pending (words :: lines) code ↔
      ∃ behind, Assembles env scope lines behind ∧
        { opcode := op, operand, label := pending, scope := some scope } :: behind = code := by
  constructor
  · intro h
    cases h with
    | none h =>
      cases h with
      | plain hs' hrest =>
        obtain ⟨rfl, rfl⟩ := hs.unique hs'
        exact ⟨_, hrest, rfl⟩
      | labelled hl =>
        exact absurd ⟨_, _, hs⟩ (not_isStatement_of_label ⟨_, _, rfl, hl⟩)
    | some hs' hrest =>
      obtain ⟨rfl, rfl⟩ := hs.unique hs'
      exact ⟨_, hrest, rfl⟩
  · rintro ⟨behind, hrest, rfl⟩
    cases pending with
    | none => exact .none (.plain hs hrest)
    | some target => exact .some hs hrest

/-- A label line makes its label pending, and cannot follow another. -/
theorem assemblesAfter_label {token : List Char} {target : Label} (hl : LabelToken token target)
    {pending : Option Label} :
    AssemblesAfter env scope pending ([token] :: lines) code ↔
      pending = none ∧ AssemblesAfter env scope (some target) lines code := by
  have hno {op : Opcode} {operand : Option Operand} : ¬ Statement env [token] op operand :=
    fun hs => not_isStatement_of_label ⟨_, _, rfl, hl⟩ ⟨_, _, hs⟩
  constructor
  · intro h
    cases h with
    | none h =>
      cases h with
      | plain hs => exact absurd hs hno
      | labelled hl' hs hrest =>
        rw [hl.unique hl']
        exact ⟨rfl, .some hs hrest⟩
    | some hs => exact absurd hs hno
  · rintro ⟨rfl, h⟩
    cases h with
    | some hs hrest => exact .none (.labelled hl hs hrest)

/-- **The loop over the lines gives what they stand for.** -/
theorem assembleFrom_ok_iff (env : Environment) (scope : Scope) (number : Nat)
    (pending : Option (Label × Nat)) (lines : List (List (List Char))) (code : List Instruction) :
    assembleFrom env scope number pending (lines.map ofWords) = .ok code ↔
      AssemblesAfter env scope (pending.map (·.1)) (lines.filter (!·.isEmpty)) code := by
  induction lines generalizing number pending code with
  | nil =>
    cases pending with
    | none =>
      constructor
      · intro h
        cases h
        exact .none .nil
      · rintro (h | _)
        cases h
        rfl
    | some p => exact iff_of_false nofun nofun
  | cons words lines ih =>
    -- a blank line leaves the pending label as it is, any other one uses it up or sets it
    rw [List.map_cons]
    by_cases hblank : words = []
    · subst hblank
      rw [List.filter_cons_of_neg (by simp), ← ih (number + 1)]
      cases pending <;> rfl
    · rw [List.filter_cons_of_pos (by simpa using hblank)]
      constructor
      · intro h
        generalize hread : ofWords words = line at h
        cases assembledBy_of_ok h with
        | blank => exact absurd (ofWords_blank_iff.1 hread) hblank
        | label h =>
          obtain ⟨token, rfl, hl⟩ := ofWords_label_iff.1 hread
          exact (assemblesAfter_label hl).2 ⟨rfl, (ih _ _ _).1 h⟩
        | instruction ho hb =>
          have hs := statement_iff.1 ⟨_, hread, ho⟩
          obtain ⟨hrest⟩ | _ := (ih _ _ _).1 hb
          exact (assemblesAfter_statement hs).2 ⟨_, hrest, rfl⟩
      · intro h
        rcases h.line with ⟨token, target, rfl, hl⟩ | ⟨op, operand, hs⟩
        · obtain ⟨hnone, hrest⟩ := (assemblesAfter_label hl).1 h
          rw [Option.map_eq_none_iff.1 hnone, ofWords_label_iff.2 ⟨token, rfl, hl⟩]
          exact (ih (number + 1) (some (target, number)) code).2 hrest
        · obtain ⟨behind, hrest, rfl⟩ := (assemblesAfter_statement hs).1 h
          obtain ⟨term, hread, hres⟩ := statement_iff.2 hs
          have hb := (ih (number + 1) none behind).2 (.none hrest)
          rw [hread]
          cases pending <;> simp [assembleFrom, hres, hb, Except.map]

theorem assemble_eq (env : Environment) (scope : Scope) (text : String) :
    assemble env scope text =
      assembleFrom env scope 1 none (((text.toList.splitOn '\n').map wordsIn).map ofWords) := by
  have hparse : parse = ofWords ∘ wordsIn := by
    funext line
    rw [Function.comp_apply, wordsIn_eq, parse]
  rw [assemble, assembleLines, Text.lines, Text.fields_eq_splitOnP, hparse, List.map_map]
  rfl

/-- **The texts that are assembled are the listings**, with whatever scope, and what a text is
assembled to is what its lines stand for. -/
theorem assemble_ok_iff (env : Environment) (scope : Scope) (text : String) :
    ((∃ code, assemble env scope text = .ok code) ↔ IsListing env (sentences text)) ∧
      ∀ code, assemble env scope text = .ok code ↔
        Assembles env scope (sentences text) code := by
  have hcode (code : List Instruction) : assemble env scope text = .ok code ↔
      Assembles env scope (sentences text) code := by
    rw [assemble_eq, assembleFrom_ok_iff]
    constructor
    · rintro (h | _)
      exact h
    · exact .none
  refine ⟨?_, hcode⟩
  simp only [hcode]
  constructor
  · rintro ⟨code, h⟩
    exact h.isListing
  · exact fun h => h.exists_assembles scope

end EvmProbe.Listing
