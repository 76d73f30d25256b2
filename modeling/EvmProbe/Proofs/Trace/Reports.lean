import EvmProbe.Proofs.Abi.Reading
import EvmProbe.Trace.Simulation

/-!
What the runner reports is read as it was written.

* `Simulation.decode_encode`: a result that is written in the ABI is read back, if there is memory
  for it.
-/

namespace EvmProbe.Simulation

open Abi

variable {body : Body} {head tail : Nat} {rest : List Part}

/-- There is memory for a third of what can be set aside. -/
theorem lt_capacity_of_le_available {size : Nat} (h : 7 * size ≤ available) :
    size < capacity 8 := by
  have : available < 7 * capacity 8 := by decide
  omega

theorem Call.decode_of_laid {call : Call} (h : Laid body head tail (call.encode :: rest))
    (hs : 7 * body.data.size ≤ available) :
    Call.decode body head = .ok call ∧ ∃ tail', Laid body (head + 32) tail' rest := by
  have hs := lt_capacity_of_le_available hs
  obtain ⟨hf, hc, hrest⟩ := h.follow hs
  refine ⟨?_, _, hrest⟩
  obtain ⟨h0, hl⟩ := (laid_tuple hc).uint (by decide)
  obtain ⟨h1, hl⟩ := hl.uint (by decide)
  obtain ⟨h2, hl⟩ := hl.uint (by decide)
  obtain ⟨h3, hl⟩ := hl.word
  obtain ⟨h4, hl⟩ := hl.word
  obtain ⟨h5, _, hl⟩ := hl.bytes hs
  obtain ⟨h6, _, hl⟩ := hl.bytes hs
  obtain ⟨h7, -⟩ := hl.bool
  simp only [Call.decode, hf, ok_bind]
  rw [h0, ok_bind, h1, ok_bind, h2, ok_bind, h3, ok_bind, h4, ok_bind, h5, ok_bind, h6, ok_bind,
    h7, ok_bind]
  rfl

/-- The four topics of a log. -/
theorem exists_four : ∀ topics : Vector Word 4, ∃ a b c d, topics = #v[a, b, c, d]
  | ⟨⟨[a, b, c, d]⟩, _⟩ => ⟨a, b, c, d, rfl⟩

theorem Log.decode_of_laid {log : Log} (h : Laid body head tail (log.encode :: rest))
    (hs : 7 * body.data.size ≤ available) :
    Log.decode body head = .ok log ∧ ∃ tail', Laid body (head + 32) tail' rest := by
  have hs := lt_capacity_of_le_available hs
  obtain ⟨hf, hc, hrest⟩ := h.follow hs
  refine ⟨?_, _, hrest⟩
  obtain ⟨context, count, topics, data⟩ := log
  obtain ⟨a, b, c, d, rfl⟩ := exists_four topics
  obtain ⟨h0, hl⟩ := (laid_tuple hc).uint (by decide)
  obtain ⟨h1, hl⟩ := hl.uint (by decide)
  obtain ⟨h2, hl⟩ := hl.words.word
  obtain ⟨h3, hl⟩ := hl.word
  obtain ⟨h4, hl⟩ := hl.word
  obtain ⟨h5, hl⟩ := hl.word
  obtain ⟨h6, -, -⟩ := hl.bytes hs
  rw [Log.decode, hf, ok_bind, h0, ok_bind, h1, ok_bind, h2, ok_bind, h3, ok_bind, h4, ok_bind,
    h5, ok_bind, h6, ok_bind]
  rfl

/-- A storage write takes three words. -/
theorem Store.length_tuple (store : Store) :
    (tuple [Abi.uint store.context, Abi.word store.slot, Abi.word store.value]).length = 96 := by
  simp [tuple, heads, Abi.uint, Abi.word, wordBytes, Part.tail]

theorem Store.decode_of_laid {store : Store} (h : Laid body head tail (store.encode :: rest)) :
    Store.decode body head = .ok store ∧ ∃ tail', Laid body (head + 96) tail' rest := by
  obtain ⟨hc, hrest⟩ := h.static
  refine ⟨?_, _, store.length_tuple ▸ hrest⟩
  have hl : Laid body head (head + 96)
      [Abi.uint store.context, Abi.word store.slot, Abi.word store.value] := by
    refine ⟨hc.left, ?_⟩
    have := hc.right
    rwa [length_heads] at this
  obtain ⟨h0, hl⟩ := hl.uint (by decide)
  obtain ⟨h1, hl⟩ := hl.word
  obtain ⟨h2, -⟩ := hl.word
  rw [Store.decode, h0, ok_bind, h1, ok_bind, h2, ok_bind]
  rfl

/-- **A result is read as it was written**, if there is memory for it. -/
theorem decode_encode (result : Simulation) (h : 7 * result.encode.length ≤ available) :
    decode result.encode = .ok result := by
  have hcontent : (Body.ofBytes result.encode).Holds 0 result.encode :=
    ⟨[], [], by simp [Body.ofBytes], rfl⟩
  have hs : 7 * (Body.ofBytes result.encode).data.size ≤ available := h
  obtain ⟨hf, hc, -⟩ := (laid_tuple hcontent).follow (lt_capacity_of_le_available hs)
  obtain ⟨h0, hl⟩ := (laid_tuple hc).bool
  obtain ⟨h1, _, hl⟩ := hl.bytes (lt_capacity_of_le_available hs)
  obtain ⟨h2, hl⟩ := hl.word
  obtain ⟨h3, _, hl⟩ := array_of_laid hl hs (Nat.le_refl 224) (fun _ => Nat.le_refl 32)
    fun _ hs _ _ _ _ _ hcall => Call.decode_of_laid hcall hs
  obtain ⟨h4, _, hl⟩ := array_of_laid hl hs (by decide : 208 ≤ 224) (fun _ => Nat.le_refl 32)
    fun _ hs _ _ _ _ _ hlog => Log.decode_of_laid hlog hs
  obtain ⟨h5, -⟩ := array_of_laid hl hs (by decide : 96 ≤ 224)
    (fun store => Nat.le_trans (by decide : 32 ≤ 96) (Nat.le_of_eq store.length_tuple.symm))
    fun _ _ _ _ _ _ _ hstore => Store.decode_of_laid hstore
  rw [decode, hf, ok_bind, h0, ok_bind, h1, ok_bind, h2, ok_bind, h3, ok_bind, h4, ok_bind, h5,
    ok_bind]
  rfl

end EvmProbe.Simulation
