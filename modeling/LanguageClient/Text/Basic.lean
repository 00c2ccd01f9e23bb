/-!
# Text

A text is a list of characters, and all offsets and lengths count characters. `Text.splice`
replaces a range of a text; every edit in the library comes down to it.
-/

namespace LanguageClient

/-- A text as the list of its characters. -/
abbrev Text := List Char

namespace Text

/-- `t` with the characters from `start` up to `stop` replaced by `new`. -/
def splice (t : Text) (start stop : Nat) (new : Text) : Text :=
  t.take start ++ (new ++ t.drop stop)

theorem length_splice {t new : Text} {start stop : Nat} (h : start ≤ stop) (h' : stop ≤ t.length) :
    (t.splice start stop new).length + (stop - start) = t.length + new.length := by
  simp [splice]
  omega

theorem splice_self (t : Text) (i : Nat) : t.splice i i [] = t := by
  simp [splice]

/-- The characters of `t` from `start` up to `stop`. -/
def slice (t : Text) (start stop : Nat) : Text :=
  (t.drop start).take (stop - start)

theorem length_slice {t : Text} {start stop : Nat} (h : stop ≤ t.length) :
    (t.slice start stop).length = stop - start := by
  simp [slice]
  omega

end Text

end LanguageClient
