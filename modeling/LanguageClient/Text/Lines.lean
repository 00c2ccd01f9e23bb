import LanguageClient.Text.Basic

/-!
# Lines

A text is cut into lines behind each line break. The breaks are LF, CR, CRLF (one break of two
characters), VT, FF, NEL (U+0085), LS (U+2028) and PS (U+2029). Every line but the last one ends
in its break, and the lines joined are the text again (`flatten_lines`), so that line numbers
and offsets turn into each other by adding up line lengths.
-/

namespace LanguageClient.Text

/-- The characters that end a line by themselves. A CR and an LF in a row end it together. -/
def isLineBreak (c : Char) : Bool :=
  c == '\n' || c == '\r' || c == '\x0b' || c == '\x0c' || c == '\u0085' || c == '\u2028' ||
    c == '\u2029'

/-- The lines of a text, each with its break. There is always a last line without one, which is
empty when the text is empty or ends in a break. -/
def lines : Text → List Text
  | [] => [[]]
  | '\r' :: '\n' :: rest => ['\r', '\n'] :: lines rest
  | c :: rest =>
    if isLineBreak c then [c] :: lines rest
    else match lines rest with
      | [] => [[c]]
      | line :: more => (c :: line) :: more

theorem lines_ne_nil (t : Text) : t.lines ≠ [] := by
  fun_induction lines t <;> simp

theorem flatten_lines (t : Text) : t.lines.flatten = t := by
  fun_induction lines t <;> simp_all [lines_ne_nil]

/-- The offset at which line `l` of `ls` begins. -/
def lineStart (ls : List Text) (l : Nat) : Nat :=
  (ls.take l).flatten.length

theorem lineStart_le_lineStart (ls : List Text) {l l' : Nat} (h : l ≤ l') :
    lineStart ls l ≤ lineStart ls l' := by
  obtain ⟨k, rfl⟩ := Nat.exists_eq_add_of_le h
  rw [lineStart, lineStart, List.take_add, List.flatten_append, List.length_append]
  exact Nat.le_add_right _ _

theorem lineStart_le (ls : List Text) (l : Nat) : lineStart ls l ≤ ls.flatten.length := by
  rw [lineStart]
  conv => rhs; rw [← List.take_append_drop l ls, List.flatten_append, List.length_append]
  exact Nat.le_add_right _ _

theorem lineStart_succ (ls : List Text) (l : Nat) :
    lineStart ls (l + 1) = lineStart ls l + (ls.getD l []).length := by
  rw [lineStart, lineStart, List.take_add_one, List.flatten_append, List.length_append,
    List.getD_eq_getElem?_getD]
  cases ls[l]? <;> simp

/-- The number of the line of `ls` that holds offset `o`: the first one that ends behind `o`, or
the last one. -/
def lineAt : List Text → Nat → Nat
  | [], _ => 0
  | [_], _ => 0
  | line :: more, o => if o < line.length then 0 else lineAt more (o - line.length) + 1

/-- The number of characters of a line in front of its line feed, carriage return or both. The
other breaks count as content. -/
def contentLength (line : Text) : Nat :=
  let withoutLf := if line.getLast? = some '\n' then line.dropLast else line
  let withoutCr := if withoutLf.getLast? = some '\r' then withoutLf.dropLast else withoutLf
  withoutCr.length

/-- The content of a line, see `contentLength`. -/
def content (line : Text) : Text := line.take (contentLength line)

theorem contentLength_le (line : Text) : contentLength line ≤ line.length := by
  simp only [contentLength]
  split <;> split <;> simp
  omega

end LanguageClient.Text
