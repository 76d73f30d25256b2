import EvmProbe.Cache.Chain
import EvmProbe.Cache.Store
import EvmProbe.Checksum
import EvmProbe.CommandLine.KnownChains
import EvmProbe.Proofs.Files.Tree
import EvmProbe.Proofs.Text.Digits
import Std.Data.String.ToNat

/-!
The names of directories and files in a cache, and what can be told from them.

* `Path.IsPlain`: a name without slashes and dots, as all names of directories are; the name of a
  file has a dot.
* `Chains.Lawful`: what is assumed of a table of chains; that of the commands is such
  (`lawful_known`).
* `Chains.text_inj`, `checksummed_inj`: chains and addresses can be told from their names.
-/

namespace EvmProbe

namespace Path

/-- The name of a file that is kept under a label. -/
theorem isName_label {label : String} (h : '/' ∉ label.toList) : IsName (label ++ ".json") := by
  have hlist : (label ++ ".json").toList = label.toList ++ ['.', 'j', 's', 'o', 'n'] :=
    String.toList_append
  have hlong : 5 ≤ (label ++ ".json").toList.length := by simp [hlist]
  refine ⟨fun he => ?_, fun he => ?_, fun he => ?_, fun hs => ?_⟩
  · rw [he] at hlong
    exact absurd hlong (by decide)
  · rw [he] at hlong
    exact absurd hlong (by decide)
  · rw [he] at hlong
    exact absurd hlong (by decide)
  · rw [hlist, List.mem_append] at hs
    exact hs.elim h (by decide)

/-- A name that is not empty, with neither slashes nor dots. -/
structure IsPlain (name : String) : Prop where
  nonempty : name ≠ ""
  noSlash : '/' ∉ name.toList
  noDot : '.' ∉ name.toList

namespace IsPlain
variable {name : String}

theorem isName (h : IsPlain name) : IsName name where
  nonempty := h.nonempty
  notHere he := h.noDot (he ▸ List.mem_singleton_self _)
  notAbove he := h.noDot (he ▸ List.mem_cons_self)
  noSlash := h.noSlash

/-- A plain label is one for a file. -/
theorem isName_file (h : IsPlain name) : IsName (name ++ ".json") := isName_label h.noSlash

/-- No directory has the name of a file. -/
theorem ne_file (h : IsPlain name) (label : String) : name ≠ label ++ ".json" := fun he =>
  h.noDot (by rw [he, String.toList_append]; exact List.mem_append_right _ List.mem_cons_self)

theorem of_forall {name : String} (hne : name ≠ "") (h : ∀ c ∈ name.toList, c.isAlphanum) :
    IsPlain name :=
  ⟨hne, fun hm => absurd (h _ hm) (by decide), fun hm => absurd (h _ hm) (by decide)⟩

end IsPlain

end Path

open EvmProbe.Path

/-! ## Chains and blocks -/

namespace Chains

/-- The names of chains are those of directories, and no two chains have the same. -/
structure Lawful (chains : Chains) : Prop where
  plain : ∀ {chain name}, chains.name? chain = some name → IsPlain name
  distinct : ∀ {chain other name}, chains.name? chain = some name →
    chains.name? other = some name → chain = other

section
variable {chains : Chains} {chain other : Nat} (h : chains.Lawful)
include h

theorem Lawful.isPlain_text (hc : (chains.name? chain).isSome) : IsPlain (chains.text chain) := by
  obtain ⟨name, hname⟩ := Option.isSome_iff_exists.1 hc
  rw [text, hname]
  exact h.plain hname

/-- **Chains can be told from their names.** -/
theorem Lawful.text_inj (hc : (chains.name? chain).isSome) (hc' : (chains.name? other).isSome) :
    chains.text chain = chains.text other ↔ chain = other := by
  obtain ⟨name, hname⟩ := Option.isSome_iff_exists.1 hc
  obtain ⟨name', hname'⟩ := Option.isSome_iff_exists.1 hc'
  rw [text, text, hname, hname', Option.getD_some, Option.getD_some]
  constructor
  · rintro rfl
    exact h.distinct hname hname'
  · rintro rfl
    exact Option.some.inj (hname.symm.trans hname')

end

theorem knownNames_plain : ∀ entry ∈ knownNames, entry.2 ≠ "" ∧ '/' ∉ entry.2.toList ∧
    '.' ∉ entry.2.toList := by decide

theorem knownNames_distinct : ∀ entry ∈ knownNames, ∀ other ∈ knownNames,
    entry.2 = other.2 → entry.1 = other.1 := by
  decide

theorem mem_knownNames {chain : Nat} {name : String} (h : known.name? chain = some name) :
    (chain, name) ∈ knownNames := by
  obtain ⟨before, after, hlist, -⟩ := List.lookup_eq_some_iff.1 h
  rw [hlist]
  simp

/-- **The table of the commands is lawful.** -/
theorem lawful_known : known.Lawful where
  plain h :=
    let ⟨hne, hs, hd⟩ := knownNames_plain _ (mem_knownNames h)
    ⟨hne, hs, hd⟩
  distinct h h' := knownNames_distinct _ (mem_knownNames h) _ (mem_knownNames h') rfl

end Chains

theorem isPlain_toString (n : Nat) : IsPlain (toString n) := by
  have hlist : (toString n).toList = Nat.toDigits 10 n := by simp [Nat.toString_eq_repr, Nat.repr]
  refine .of_forall (fun he => ?_) fun c hc => ?_
  · rw [he] at hlist
    exact Nat.toDigits_ne_nil hlist.symm
  · rw [hlist] at hc
    have hdigit := Nat.isDigit_of_mem_toDigits (by decide) (by decide) hc
    simp [Char.isAlphanum, hdigit]

/-! ## Labels -/

/-- Words and addresses can be told from their bytes. -/
theorem wordBytes_inj {bits : Nat} (h : 8 * (bits / 8) = bits) {a b : BitVec bits} :
    wordBytes a = wordBytes b ↔ a = b := by
  refine ⟨fun he => BitVec.eq_of_toNat_eq ?_, fun he => he ▸ rfl⟩
  have hcapacity : 2 ^ bits = capacity (bits / 8) := by
    rw [← h, Nat.mul_div_cancel_left _ (by decide), Nat.pow_mul]
    rfl
  have hlt (w : BitVec bits) : w.toNat < capacity (bits / 8) := hcapacity ▸ w.isLt
  have hvalue := congrArg ofBigEndian he
  rwa [wordBytes, wordBytes, ofBigEndian_bigEndian (hlt a), ofBigEndian_bigEndian (hlt b)] at hvalue

theorem isPlain_literal (bytes : Bytes) : IsPlain (Hex.literal bytes) := by
  have hlist : (Hex.literal bytes).toList = '0' :: 'x' :: bytes.flatMap Hex.pair := by
    simp only [Hex.literal, Hex.encode, String.toList_append, String.toList_ofList]
    rfl
  refine .of_forall (fun he => ?_) fun c hc => ?_
  · rw [he] at hlist
    cases hlist
  · rw [hlist, List.mem_cons, List.mem_cons] at hc
    rcases hc with rfl | rfl | hc
    · rfl
    · rfl
    · obtain ⟨value, hv, rfl⟩ := Hex.exists_digit_of_mem hc
      exact (Hex.digit_case hv).1

/-- How a digit of an address is written. -/
def checkedDigit (c : Char) (mark : Nat) : Char := if 8 ≤ mark then c.toUpper else c

/-- In lower case, the digits of an address are as without a checksum. -/
theorem map_toLower_checkedDigit {digits : List Char} {marks : List Nat}
    (h : ∀ c ∈ digits, ∃ value < 16, c = Hex.digit value) (hl : digits.length ≤ marks.length) :
    (digits.zipWith checkedDigit marks).map Char.toLower = digits := by
  induction digits generalizing marks with
  | nil => rfl
  | cons c digits ih =>
    cases marks with
    | nil => cases hl
    | cons mark marks =>
      obtain ⟨value, hv, rfl⟩ := h c List.mem_cons_self
      have hcase : (checkedDigit (Hex.digit value) mark).toLower = Hex.digit value := by
        unfold checkedDigit
        split
        · exact (Hex.digit_case hv).2.2.2
        · exact (Hex.digit_case hv).2.2.1
      rw [List.zipWith_cons_cons, List.map_cons, hcase,
        ih (fun c hc => h c (List.mem_cons_of_mem _ hc)) (Nat.le_of_succ_le_succ hl)]

/-- Two items for each byte. -/
theorem length_flatMap_two {α : Type} {f : UInt8 → List α} (h : ∀ byte, (f byte).length = 2)
    (bytes : Bytes) : (bytes.flatMap f).length = 2 * bytes.length := by
  induction bytes with
  | nil => rfl
  | cons byte bytes ih =>
    rw [List.flatMap_cons, List.length_append, h, ih, List.length_cons, Nat.mul_succ, Nat.add_comm]

section
variable (address : Address)

/-- The hash that marks the upper-case digits of an address. -/
def checksumMarks : List Nat :=
  nibbles (wordBytes (keccak256 (Hex.textBytes ((wordBytes address).flatMap Hex.pair))))

theorem toList_checksummed : (checksummed address).toList =
    '0' :: 'x' :: ((wordBytes address).flatMap Hex.pair).zipWith checkedDigit
      (checksumMarks address) := by
  simp only [checksummed, String.toList_append, String.toList_ofList]
  rfl

theorem length_checksumMarks :
    ((wordBytes address).flatMap Hex.pair).length ≤ (checksumMarks address).length := by
  rw [checksumMarks, nibbles, length_flatMap_two fun _ => rfl, length_flatMap_two fun _ => rfl,
    wordBytes, wordBytes, length_bigEndian, length_bigEndian]
  decide

theorem isPlain_checksummed : IsPlain (checksummed address) := by
  refine .of_forall (fun he => ?_) fun c hc => ?_
  · have hlist := toList_checksummed address
    rw [he] at hlist
    cases hlist
  · rw [toList_checksummed, List.mem_cons, List.mem_cons] at hc
    rcases hc with rfl | rfl | hc
    · rfl
    · rfl
    · obtain ⟨i, hi, rfl⟩ := List.getElem_of_mem hc
      have hlt : i < ((wordBytes address).flatMap Hex.pair).length := by
        rw [List.length_zipWith] at hi
        exact Nat.lt_of_lt_of_le hi (Nat.min_le_left _ _)
      obtain ⟨value, hv, he⟩ := Hex.exists_digit_of_mem (List.getElem_mem hlt)
      rw [List.getElem_zipWith, he, checkedDigit]
      split
      · exact (Hex.digit_case hv).2.1
      · exact (Hex.digit_case hv).1

end

/-- **Addresses can be told from their texts with a checksum.** -/
theorem checksummed_inj {a b : Address} : checksummed a = checksummed b ↔ a = b := by
  refine ⟨fun h => ?_, fun h => h ▸ rfl⟩
  have hlist := congrArg String.toList h
  rw [toList_checksummed, toList_checksummed, List.cons.injEq, List.cons.injEq] at hlist
  have hlower := congrArg (List.map Char.toLower) hlist.2.2
  rw [map_toLower_checkedDigit (fun _ => Hex.exists_digit_of_mem) (length_checksumMarks a),
    map_toLower_checkedDigit (fun _ => Hex.exists_digit_of_mem) (length_checksumMarks b)] at hlower
  have hencode : Hex.encode (wordBytes a) = Hex.encode (wordBytes b) := by
    rw [Hex.encode, Hex.encode, hlower]
  exact (wordBytes_inj (by decide)).1 (Hex.encode_inj.1 hencode)

end EvmProbe
