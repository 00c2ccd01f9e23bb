import LanguageClient.Text.Basic

/-!
# Punycode

A label of a domain is written in ASCII by its ASCII characters, followed by the others as a list
of differences. Each difference says how many places are passed over before the next character
goes in, where the places of all texts with a smaller character come first. A difference is
written by digits of base 36 with the lowest one first; the last digit is below a threshold that
depends on its position and on a bias, which follows the size of the differences.
-/

namespace LanguageClient.Url.Punycode

/-- The character for a digit. -/
def digit (n : Nat) : Char := Char.ofNat (if n < 26 then 'a'.toNat + n else '0'.toNat + (n - 26))

/-- The digit that a character stands for. -/
def digitValue? (c : Char) : Option Nat :=
  if 'a' ≤ c ∧ c ≤ 'z' then some (c.toNat - 'a'.toNat)
  else if '0' ≤ c ∧ c ≤ '9' then some (c.toNat - '0'.toNat + 26)
  else none

/-- The threshold of the digit at a position, for a bias. -/
def threshold (position bias : Nat) : Nat := max 1 (min 26 (36 * (position + 1) - bias))

theorem threshold_pos (position bias : Nat) : 0 < threshold position bias := by
  unfold threshold
  omega

/-- The bias behind a difference, scaled down so far, and the number of scalings. -/
def biasOf (delta scalings : Nat) : Nat :=
  if 455 < delta then biasOf (delta / 35) (scalings + 1)
  else 36 * scalings + 36 * delta / (delta + 38)
termination_by delta

/-- The bias behind a difference, by the number of characters that are then in place. The first
difference is usually much larger than the others. -/
def adapted (delta count : Nat) (isFirst : Bool) : Nat :=
  let delta := if isFirst then delta / 700 else delta / 2
  biasOf (delta + delta / count) 0

/-- Writes a difference, from the digit at a position on. -/
def writeDelta (bias position delta : Nat) : Text :=
  let t := threshold position bias
  if delta < t then [digit delta]
  else digit (t + (delta - t) % (36 - t)) ::
    writeDelta bias (position + 1) ((delta - t) / (36 - t))
termination_by delta
decreasing_by
  have h := threshold_pos position bias
  exact Nat.lt_of_le_of_lt (Nat.div_le_self _ _) (by omega)

/-- Reads a difference, from the digit at a position on, where each unit counts `weight`. Returns
what follows. -/
def readDelta (bias position weight delta : Nat) : Text → Option (Nat × Text)
  | [] => none
  | c :: rest => do
    let d ← digitValue? c
    let t := threshold position bias
    if d < t then return (delta + d * weight, rest)
    else readDelta bias (position + 1) (weight * (36 - t)) (delta + d * weight) rest

theorem length_lt_of_readDelta {bias : Nat} {t rest : Text} {position weight delta n : Nat}
    (h : readDelta bias position weight delta t = some (n, rest)) : rest.length < t.length := by
  induction t generalizing position weight delta with
  | nil => simp [readDelta] at h
  | cons c t ih =>
    obtain ⟨d, -, hd⟩ := Option.bind_eq_some_iff.1 h
    dsimp only at hd
    split at hd
    · cases hd
      simp
    · have := ih hd
      simp
      omega

/-- A label that is being written: how many characters are in place, the places passed over since
the last one, and what has been written. -/
structure Writer where
  count : Nat
  delta : Nat
  bias : Nat
  output : Text
  deriving Repr

/-- Passes over or puts in one character of a label, where the characters below `next` are in
place and `next` is to be put in. -/
def Writer.step (basic next : Nat) (w : Writer) (c : Char) : Writer :=
  if c.toNat < next then { w with delta := w.delta + 1 }
  else if c.toNat = next then
    { count := w.count + 1, delta := 0
      bias := adapted w.delta (w.count + 1) (w.count == basic)
      output := w.output ++ writeDelta w.bias 0 w.delta }
  else w

/-- Puts in all characters of a label that are among `nexts`, in their order. The characters below
`low` are in place. -/
def Writer.run (label : Text) (basic : Nat) : List Nat → Nat → Writer → Writer
  | [], _, w => w
  | next :: nexts, low, w =>
    let w := { w with delta := w.delta + (next - low) * (w.count + 1) }
    let w := label.foldl (step basic next) w
    run label basic nexts (next + 1) { w with delta := w.delta + 1 }

/-- Puts a number where it belongs in a growing list, unless it is there. -/
def inserted (n : Nat) : List Nat → List Nat
  | [] => [n]
  | m :: rest => if n < m then n :: m :: rest else if n = m then m :: rest else m :: inserted n rest

/-- A label in ASCII. -/
def encode (label : Text) : Text :=
  let ascii := label.filter fun c => c.toNat < 0x80
  let others := (label.filter fun c => 0x80 ≤ c.toNat).foldr (fun c ns => inserted c.toNat ns) []
  let w := Writer.run label ascii.length others 0x80 ⟨ascii.length, 0, 72, []⟩
  (if ascii.isEmpty then [] else ascii ++ ['-']) ++ w.output

/-- Reads differences and puts in a character for each, where the last one that went in was
`last` and stands in front of `start`. -/
def insertAll (bias last start : Nat) (label : Text) (input : Text) : Option Text :=
  if input.isEmpty then some label
  else match h : readDelta bias 0 1 start input with
    | none => none
    | some (total, rest) =>
      let count := label.length + 1
      let next := last + total / count
      let place := total % count
      if next.isValidChar then
        insertAll (adapted (total - start) count (start == 0)) next (place + 1)
          (label.insertIdx place (Char.ofNat next)) rest
      else none
termination_by input.length
decreasing_by exact length_lt_of_readDelta h

/-- The label that is written by a text in ASCII. -/
def decode? (t : Text) : Option Text :=
  let differences := (t.reverse.takeWhile (· != '-')).reverse
  let ascii := (t.take (t.length - differences.length)).dropLast
  insertAll 72 0x80 0 ascii differences

end LanguageClient.Url.Punycode
