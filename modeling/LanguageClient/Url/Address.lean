import LanguageClient.Text.Basic
import LanguageClient.Text.Hexadecimal

/-!
# Addresses of hosts

An address of 32 bits is written as up to four numbers with dots between them, of which the last
fills what the others leave. An address of 128 bits is written as eight numbers with colons
between them, where two colons stand for as many zeros as are missing.
-/

namespace LanguageClient.Url

/-- The number that digits of some base stand for. -/
def numberOf? (base : Nat) (digits : Text) : Option Nat := do
  let values ← digits.mapM Text.hexValue?
  guard (values.all (· < base))
  return values.foldl (fun n d => base * n + d) 0

/-- Reads a part of an address of 32 bits: decimal, octal behind a zero, or hexadecimal behind
`0x`. -/
def addressPart? : Text → Option Nat
  | [] => none
  | '0' :: 'x' :: digits => numberOf? 16 digits
  | '0' :: 'X' :: digits => numberOf? 16 digits
  | '0' :: d :: digits => numberOf? 8 (d :: digits)
  | digits => numberOf? 10 digits

/-- The parts of a name, where a dot at its end does not count. -/
def nameParts (name : Text) : List Text :=
  let parts := name.splitOn '.'
  if 1 < parts.length ∧ parts.getLast? = some [] then parts.dropLast else parts

/-- Whether a name has to be an address: it ends in a number. -/
def endsInNumber (name : Text) : Bool :=
  (nameParts name).getLast?.any fun part =>
    (!part.isEmpty && part.all fun c => '0' ≤ c && c ≤ '9') || (addressPart? part).isSome

/-- Reads an address of 32 bits. -/
def address32? (name : Text) : Option Nat := do
  let numbers ← (nameParts name).mapM addressPart?
  let last ← numbers.getLast?
  let first := numbers.dropLast
  let lastBits := 8 * (4 - first.length)
  guard (first.length < 4 && first.all (· < 256) && last < 1 <<< lastBits)
  return (first.foldl (fun n part => 256 * n + part) 0 <<< lastBits) + last

/-- The four bytes of an address of 32 bits, the highest first. -/
def addressBytes (address : Nat) : List Nat :=
  [address >>> 24, (address >>> 16) % 256, (address >>> 8) % 256, address % 256]

/-- Writes an address of 32 bits. -/
def writeAddress32 (address : Nat) : Text :=
  List.intercalate ['.'] ((addressBytes address).map (Nat.toDigits 10))

/-- Reads a byte in decimal, with no zero in front. -/
def byte? : Text → Option Nat
  | ['0'] => some 0
  | '0' :: _ => none
  | digits => do
    guard (!digits.isEmpty)
    let n ← numberOf? 10 digits
    guard (n < 256)
    return n

/-- Reads the numbers between colons, each of up to four digits. In place of the last two there may
be an address of 32 bits. -/
def groups? : List Text → Option (List Nat)
  | [] => some []
  | [last] =>
    if last.contains '.' then do
      let [a, b, c, d] ← (last.splitOn '.').mapM byte? | none
      return [256 * a + b, 256 * c + d]
    else (group? last).map ([·])
  | first :: rest => do return (← group? first) :: (← groups? rest)
where
  /-- Reads one number. -/
  group? (digits : Text) : Option Nat := do
    guard (!digits.isEmpty && digits.length ≤ 4)
    numberOf? 16 digits

/-- What stands in front of the first two colons and behind them. -/
def splitAtColons : Text → Text × Option Text
  | ':' :: ':' :: rest => ([], some rest)
  | c :: rest =>
    let (front, behind) := splitAtColons rest
    (c :: front, behind)
  | [] => ([], none)

/-- The parts of a text between colons. An empty text has none. -/
def colonParts (t : Text) : List Text := if t.isEmpty then [] else t.splitOn ':'

/-- Reads an address of 128 bits, as eight numbers of 16 bits. -/
def address128? (t : Text) : Option (List Nat) := do
  match splitAtColons t with
  | (all, none) =>
    let groups ← groups? (colonParts all)
    guard (groups.length = 8)
    return groups
  | (front, some behind) =>
    guard (!front.contains '.')
    let front ← groups? (colonParts front)
    let behind ← groups? (colonParts behind)
    guard (front.length + behind.length < 8)
    return front ++ List.replicate (8 - front.length - behind.length) 0 ++ behind

/-- How many zeros a list begins with. -/
def leadingZeros (groups : List Nat) : Nat := (groups.takeWhile (· == 0)).length

/-- The place and the length of the first of the longest runs of zeros, in a list that begins at
`place`. -/
def longestZeros (place : Nat) : List Nat → Nat × Nat
  | [] => (place, 0)
  | n :: rest =>
    let here := leadingZeros (n :: rest)
    let later := longestZeros (place + 1) rest
    if here < later.2 then later else (place, here)

/-- Numbers in hexadecimal with colons between them. -/
def writeGroups (groups : List Nat) : Text :=
  List.intercalate [':'] (groups.map (Nat.toDigits 16))

/-- Writes an address of 128 bits. The longest run of zeros is left out, unless it is a single
one. -/
def writeAddress128 (groups : List Nat) : Text :=
  let (place, length) := longestZeros 0 groups
  if length < 2 then writeGroups groups
  else writeGroups (groups.take place) ++ "::".toList ++ writeGroups (groups.drop (place + length))

end LanguageClient.Url
