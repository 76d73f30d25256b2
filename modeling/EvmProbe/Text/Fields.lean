/-!
Cutting a text into fields, lines and blank-separated words.

`fields sep s` cuts `s` at every character that `sep` accepts and drops those characters;
`words` are the non-empty fields between blanks.
-/

namespace EvmProbe.Text

/-- Cuts a text at every separator; there is one field more than there are separators. -/
def fields (sep : Char → Bool) (s : List Char) : List (List Char) :=
  s.foldr (fun c acc =>
    match acc with
    | [] => [[c]]
    | field :: rest => if sep c then [] :: field :: rest else (c :: field) :: rest) [[]]

/-- The lines of a text; each line feed ends one. -/
def lines (s : List Char) : List (List Char) := fields (· == '\n') s

/-- Unicode's white space. -/
def isBlank (c : Char) : Bool :=
  let n := c.toNat
  (9 ≤ n && n ≤ 13) || n == 0x20 || n == 0x85 || n == 0xa0 || n == 0x1680 ||
    (0x2000 ≤ n && n ≤ 0x200a) || n == 0x2028 || n == 0x2029 || n == 0x202f || n == 0x205f ||
    n == 0x3000

/-- The words of a text: its non-empty fields between blanks. -/
def words (s : List Char) : List (List Char) :=
  (fields isBlank s).filter (!·.isEmpty)

theorem fields_nil (sep : Char → Bool) : fields sep [] = [[]] := rfl

end EvmProbe.Text
