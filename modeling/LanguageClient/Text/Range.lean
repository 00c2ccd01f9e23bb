/-!
# Ranges of characters

A kind of characters is given by the ranges of their numbers.
-/

namespace LanguageClient.Text

/-- Whether a character lies in one of several ranges, each given by its first and last number. -/
def isWithin (ranges : List (Nat × Nat)) (c : Char) : Bool :=
  ranges.any fun (first, last) => first ≤ c.toNat && c.toNat ≤ last

end LanguageClient.Text
