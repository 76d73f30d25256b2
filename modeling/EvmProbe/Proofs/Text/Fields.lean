import EvmProbe.Text.Fields
import Mathlib.Tactic.Common

/-!
Texts that are put together from lines and words, and cut up again.

* `lines_intercalate`: lines without a line feed, joined by line feeds, are found again.
* `words_of_ink`, `words_append_blank`: a run of characters that are no blanks is one word, and a
  blank separates words.
-/

namespace EvmProbe.Text

/-- Fields are the pieces between separators. -/
theorem fields_eq_splitOnP (sep : Char → Bool) (s : List Char) : fields sep s = s.splitOnP sep := by
  induction s with
  | nil => rfl
  | cons c s ih =>
    obtain ⟨field, rest, h⟩ := List.exists_cons_of_ne_nil (List.splitOnP_ne_nil sep s)
    rw [fields, List.foldr_cons, ← fields, ih, List.splitOnP_cons_eq_if_modifyHead, h]
    simp

/-- A separator cuts a text in two. -/
theorem fields_append_cons (sep : Char → Bool) {c : Char} (hc : sep c) (a b : List Char) :
    fields sep (a ++ c :: b) = fields sep a ++ fields sep b := by
  rw [fields_eq_splitOnP, fields_eq_splitOnP, fields_eq_splitOnP, List.splitOnP_append_cons a b hc]

/-- A text without separators is one field. -/
theorem fields_of_forall {sep : Char → Bool} {s : List Char} (h : ∀ c ∈ s, sep c = false) :
    fields sep s = [s] := by
  rw [fields_eq_splitOnP, List.splitOnP_eq_singleton h]

/-- Lines that are joined by line feeds are found again. -/
theorem lines_intercalate {ls : List (List Char)} (hne : ls ≠ []) (h : ∀ l ∈ ls, '\n' ∉ l) :
    lines (['\n'].intercalate ls) = ls := by
  rw [lines, fields_eq_splitOnP]
  exact List.splitOn_intercalate '\n' h hne

/-- Characters that are no blanks make up one word. -/
theorem words_of_ink {w : List Char} (hne : w ≠ []) (h : ∀ c ∈ w, isBlank c = false) :
    words w = [w] := by
  rw [words, fields_of_forall h]
  cases w with
  | nil => exact absurd rfl hne
  | cons c w => rfl

/-- A blank separates words. -/
theorem words_append_blank (a b : List Char) : words (a ++ ' ' :: b) = words a ++ words b := by
  rw [words, words, words, fields_append_cons isBlank (c := ' ') rfl,
    List.filter_append]

end EvmProbe.Text
