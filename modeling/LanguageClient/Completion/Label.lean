import LanguageClient.Text.Basic

/-!
# Styled labels

A label is a text with style ranges, which are disjoint and ordered by their start. Making a
part of it bold splits the ranges around that part, and the part keeps being struck out where it
was.
-/

namespace LanguageClient

/-- A style for `length` characters from `start` on. -/
structure StyleRange where
  start : Nat
  length : Nat
  bold : Bool
  strikeout : Bool
  deriving DecidableEq, Repr

/-- The offset behind a style range. -/
def StyleRange.stop (r : StyleRange) : Nat := r.start + r.length

/-- A text with its style ranges. -/
structure StyledLabel where
  text : Text
  ranges : List StyleRange
  deriving DecidableEq, Repr

namespace StyledLabel

/-- A label without any style. -/
def plain (text : Text) : StyledLabel := ⟨text, []⟩

/-- A label that is struck out from end to end if it is deprecated. -/
def ofText (text : Text) (deprecated : Bool) : StyledLabel :=
  ⟨text, if deprecated ∧ text ≠ [] then [⟨0, text.length, false, true⟩] else []⟩

/-- What is left of a style range outside of `start` to `stop`. -/
def outside (start stop : Nat) (r : StyleRange) : List StyleRange :=
  if r.stop ≤ start ∨ stop ≤ r.start then [r]
  else
    (if r.start < start then [{ r with length := start - r.start }] else []) ++
      (if stop < r.stop then [{ r with start := stop, length := r.stop - stop }] else [])

/-- The offset behind `length` characters from `start` on. Offsets are words of 64 bits, and a sum
beyond them wraps around where sums are not checked. -/
def partStop (start length : Nat) : Nat := (start + length) % UInt64.size

theorem partStop_eq {start length : Nat} (h : start + length < UInt64.size) :
    partStop start length = start + length := Nat.mod_eq_of_lt h

/-- Makes `length` characters from `start` on bold, as far as there are so many. The new range
is struck out if one that it takes the place of was. -/
def withBold (label : StyledLabel) (start length : Nat) : StyledLabel :=
  let stop := min (partStop start length) label.text.length
  if stop ≤ start then label
  else
    let struck := label.ranges.any fun r => r.strikeout && r.start < stop && start < r.stop
    let ranges := label.ranges.flatMap (outside start stop) ++
      [⟨start, stop - start, true, struck⟩]
    { label with ranges := ranges.mergeSort fun a b => a.start ≤ b.start }

/-- Whether the character at offset `i` is bold. -/
def isBoldAt (label : StyledLabel) (i : Nat) : Bool :=
  label.ranges.any fun r => r.bold && r.start ≤ i && i < r.stop

/-- Whether the character at offset `i` is struck out. -/
def isStruckAt (label : StyledLabel) (i : Nat) : Bool :=
  label.ranges.any fun r => r.strikeout && r.start ≤ i && i < r.stop

end StyledLabel

end LanguageClient
