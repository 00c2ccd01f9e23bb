import LanguageClient.Text.Hexadecimal

/-!
# JSON tokens

The text of a JSON value is cut into tokens: brackets, commas, colons, literals, strings and
numbers, with blanks between them. `Json.tokens?` reads all of a text; characters that begin no
token, unfinished strings and malformed escapes are refused. A string may be well formed and yet
denote no text, and a number may be too large to be one: there are tokens for both.
-/

namespace LanguageClient.Json

/-- A token of a JSON text. -/
inductive Token
  | openArray
  | closeArray
  | openObject
  | closeObject
  | comma
  | colon
  | null
  | bool (b : Bool)
  | integer (n : Int)
  | decimal (literal : String)
  /-- A number beyond those of double precision. -/
  | excessive
  /-- A string, or nothing for one with half of a surrogate pair. -/
  | string (s : Option String)
  deriving DecidableEq, Repr

private def isDigit (c : Char) : Bool := '0' ≤ c && c ≤ '9'

private def isBlank (c : Char) : Bool := c == ' ' || c == '\n' || c == '\r' || c == '\t'

private def hex4? (a b c d : Char) : Option Nat := do
  let high := (← Text.hexValue? a) * 16 + (← Text.hexValue? b)
  return high * 256 + (← Text.hexValue? c) * 16 + (← Text.hexValue? d)

/-- The character behind a backslash stands for this one. -/
def escaped? : Char → Option Char
  | '"' => some '"'
  | '\\' => some '\\'
  | '/' => some '/'
  | 'b' => some '\x08'
  | 'f' => some '\x0c'
  | 'n' => some '\n'
  | 'r' => some '\r'
  | 't' => some '\t'
  | _ => none

/-- Reads the escape for the second half of a surrogate pair. -/
def lowHalf? : List Char → Option (Nat × List Char)
  | '\\' :: 'u' :: a :: b :: c :: d :: rest => do
    let v ← hex4? a b c d
    if 0xDC00 ≤ v ∧ v < 0xE000 then some (v, rest) else none
  | _ => none

theorem length_lt_of_lowHalf? {t rest : List Char} {v : Nat} (h : lowHalf? t = some (v, rest)) :
    rest.length < t.length := by
  unfold lowHalf? at h
  split at h
  · obtain ⟨w, -, hw⟩ := Option.bind_eq_some_iff.1 h
    split at hw
    · cases hw
      simp
      omega
    · cases hw
  · cases h

/-- Reads a string behind its opening quote, of which `done` has been read (the last character
first). Returns what follows the closing quote. A character beyond U+FFFF is written as two
escapes; where half of such a pair stands alone, there is no character. -/
def stringBody (done : List (Option Char)) :
    List Char → Option (List (Option Char) × List Char)
  | '"' :: rest => some (done.reverse, rest)
  | '\\' :: 'u' :: a :: b :: c :: d :: rest =>
    match hex4? a b c d with
    | none => none
    | some u =>
      if 0xD800 ≤ u ∧ u < 0xDC00 then
        match h : lowHalf? rest with
        | some (v, rest') =>
          stringBody (some (Char.ofNat (0x10000 + (u - 0xD800) * 1024 + (v - 0xDC00))) :: done)
            rest'
        | none => stringBody (none :: done) rest
      else if 0xDC00 ≤ u ∧ u < 0xE000 then stringBody (none :: done) rest
      else stringBody (some (Char.ofNat u) :: done) rest
  | '\\' :: c :: rest =>
    match escaped? c with
    | none => none
    | some c => stringBody (some c :: done) rest
  | c :: rest => if c = '\\' ∨ c < ' ' then none else stringBody (some c :: done) rest
  | [] => none
termination_by text => text.length
decreasing_by
  · have := length_lt_of_lowHalf? h
    simp
    omega
  all_goals simp
  all_goals omega

/-- Reads digits. -/
def digits (text : List Char) : List Char × List Char :=
  (text.takeWhile isDigit, text.dropWhile isDigit)

/-- Reads the fraction of a number, if there is one. A point needs a digit behind it. -/
def fraction? : List Char → Option (List Char × List Char)
  | '.' :: rest =>
    let (ds, rest) := digits rest
    if ds.isEmpty then none else some ('.' :: ds, rest)
  | text => some ([], text)

/-- Reads the exponent of a number, if there is one. -/
def exponent? : List Char → Option (List Char × List Char)
  | e :: rest =>
    if e = 'e' ∨ e = 'E' then
      let (sign, rest) := match rest with
        | '+' :: rest => (['+'], rest)
        | '-' :: rest => (['-'], rest)
        | rest => ([], rest)
      let (ds, rest) := digits rest
      if ds.isEmpty then none else some (e :: (sign ++ ds), rest)
    else some ([], e :: rest)
  | [] => some ([], [])

private def natOfDigits (ds : List Char) : Nat :=
  ds.foldl (fun n c => 10 * n + (c.toNat - '0'.toNat)) 0

/-- Whether a number given by its significant digits and a power of ten is beyond those of double
precision: it is nearer to the power of two behind the last of them. -/
def isExcessive (significand : Nat) (exponent : Int) : Bool :=
  let magnitude : Int := (Nat.toDigits 10 significand).length + exponent
  let bound := (1 <<< 1024) - (1 <<< 970)
  if significand = 0 ∨ magnitude < 308 then false
  else if 310 < magnitude then true
  else bound * Nat.pow 10 (-exponent).toNat ≤ significand * Nat.pow 10 exponent.toNat

/-- The power of ten that the text of an exponent stands for. -/
def powerOf : List Char → Int
  | _ :: '-' :: ds => -natOfDigits ds
  | _ :: '+' :: ds => natOfDigits ds
  | _ :: ds => natOfDigits ds
  | [] => 0

/-- Reads a number. A zero takes no digit behind it. -/
def number? (text : List Char) : Option (Token × List Char) := do
  let (negative, rest) := match text with
    | '-' :: rest => (true, rest)
    | rest => (false, rest)
  let (ds, rest) := match rest with
    | '0' :: rest => (['0'], rest)
    | rest => digits rest
  if ds.isEmpty then none
  let (frac, rest) ← fraction? rest
  let (exp, rest) ← exponent? rest
  let fracDigits := frac.drop 1
  if isExcessive (natOfDigits (ds ++ fracDigits)) (powerOf exp - fracDigits.length) then
    return (.excessive, rest)
  else if frac.isEmpty ∧ exp.isEmpty ∧ ¬(negative ∧ ds = ['0']) then
    let n : Int := natOfDigits ds
    return (.integer (if negative then -n else n), rest)
  else
    let sign := if negative then ['-'] else []
    return (.decimal (String.ofList (sign ++ ds ++ frac ++ exp)), rest)

/-- Reads one token. -/
def token? : List Char → Option (Token × List Char)
  | '[' :: rest => some (.openArray, rest)
  | ']' :: rest => some (.closeArray, rest)
  | '{' :: rest => some (.openObject, rest)
  | '}' :: rest => some (.closeObject, rest)
  | ',' :: rest => some (.comma, rest)
  | ':' :: rest => some (.colon, rest)
  | 'n' :: 'u' :: 'l' :: 'l' :: rest => some (.null, rest)
  | 't' :: 'r' :: 'u' :: 'e' :: rest => some (.bool true, rest)
  | 'f' :: 'a' :: 'l' :: 's' :: 'e' :: rest => some (.bool false, rest)
  | '"' :: rest => (stringBody [] rest).map fun (s, rest) =>
    (.string ((s.mapM id).map String.ofList), rest)
  | text => number? text

/-- Reads tokens to the end, at most one for each step. -/
def tokensWithin : Nat → List Char → Option (List Token)
  | _, [] => some []
  | 0, _ :: _ => none
  | steps + 1, c :: rest =>
    if isBlank c then tokensWithin steps rest
    else do
      let (token, rest) ← token? (c :: rest)
      return token :: (← tokensWithin steps rest)

/-- The tokens of a text. Each takes at least one character. -/
def tokens? (text : List Char) : Option (List Token) := tokensWithin text.length text

end LanguageClient.Json
