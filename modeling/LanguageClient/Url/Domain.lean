import LanguageClient.Text.CaseFold
import LanguageClient.Text.Quoted
import LanguageClient.Url.Percent
import LanguageClient.Url.Punycode

/-!
# Domains

The name of a host comes in labels with dots between them. Names that are written differently
but mean the same are brought to one form: percent signs are resolved, case does not count, wide
characters are the same as narrow ones, and a label with other characters than those of ASCII is
written in ASCII behind `xn--`.
-/

namespace LanguageClient.Url

/-- Characters that do not count in a name, by the first and last of each range. -/
def ignoredRanges : List (Nat × Nat) := [
  (0xAD, 0xAD), (0x34F, 0x34F), (0x180B, 0x180D), (0x180F, 0x180F), (0x200B, 0x200B),
  (0x2060, 0x2060), (0x2064, 0x2064), (0xFE00, 0xFE0F), (0xFEFF, 0xFEFF), (0xE0100, 0xE01EF)]

/-- What a character of a name is brought to. The sharp s and the Greek sigma at the end of a word
stay what they are. -/
def normalChar (c : Char) : Text :=
  let n := c.toNat
  if n < 0x80 then [c.toLower]
  else if n = 0xDF ∨ n = 0x3C2 then [c]
  else if n = 0x1E9E then ['ß']
  else if Text.isWithin ignoredRanges c then []
  else if n = 0x3002 ∨ n = 0xFF61 then ['.']
  else if 0xFF01 ≤ n ∧ n ≤ 0xFF5E then [(Char.ofNat (n - 0xFEE0)).toLower]
  else Text.foldCaseOf c

/-- The form that a name is brought to. -/
def normalName (t : Text) : Text := t.flatMap normalChar

/-- Whether a label with other characters than those of ASCII is a name. -/
def isLabel (label : Text) : Bool :=
  label.any (fun c => 0x80 ≤ c.toNat) &&
    label.all (fun c => c.toNat < 0x80 || !Text.isWithin Text.invisibleRanges c) &&
    !label.head?.any (Text.isWithin Text.extendingRanges)

/-- A label in ASCII. One that has been written in ASCII already has to be what its meaning is
written as. -/
def asciiLabel? (label : Text) : Option Text :=
  match "xn--".toList.isPrefixOf? label with
  | some code => do
    let meant ← Punycode.decode? code
    guard (isLabel meant && normalName meant == meant && Punycode.encode meant == code)
    return label
  | none =>
    if label.all fun c => c.toNat < 0x80 then some label
    else if isLabel label then some ("xn--".toList ++ Punycode.encode label)
    else none

/-- The characters of ASCII that a name cannot have. -/
def isForbiddenInName (c : Char) : Bool :=
  c.toNat ≤ 0x20 || c.toNat == 0x7f || "%#/:<>?@[\\]^|".contains c

/-- Reads the name of a host. -/
def domain? (t : Text) : Option Text := do
  let labels ← ((normalName (← decoded? t)).splitOn '.').mapM asciiLabel?
  let name := List.intercalate ['.'] labels
  guard (!name.isEmpty && !name.any isForbiddenInName)
  return name

end LanguageClient.Url
