import LanguageClient.Text.Hexadecimal

/-!
# Writing text in HTML

What a character becomes where it must not be read as markup: anywhere at all, in the body of an
element, or in an address.
-/

namespace LanguageClient.Html

/-- A character as it is written in HTML, whatever stands around it. -/
def escapeChar (c : Char) : String :=
  match c with
  | '&' => "&amp;"
  | '<' => "&lt;"
  | '>' => "&gt;"
  | '"' => "&quot;"
  | '\'' => "&#39;"
  | c => c.toString

/-- A text as it is written in HTML, whatever stands around it. -/
def escape (text : String) : String :=
  text.foldl (fun out c => out ++ escapeChar c) ""

/-- A character as it is written in the body of an element, where quotes are plain. -/
def escapeBodyChar (c : Char) : String :=
  if c = '"' ∨ c = '\'' then c.toString else escapeChar c

/-- A text as it is written in the body of an element. -/
def escapeBody (text : String) : String :=
  text.foldl (fun out c => out ++ escapeBodyChar c) ""

/-- Whether a byte may stand in an address as it is. -/
def isAddressByte (b : UInt8) : Bool :=
  let c := Char.ofNat b.toNat
  c.isAlphanum || "!#$%()*+,-./:;=?@^_~".contains c

/-- A byte as it is written in an address. -/
def escapeAddressByte (b : UInt8) : String :=
  if isAddressByte b then (Char.ofNat b.toNat).toString
  else if b.toNat = '&'.toNat then "&amp;"
  else if b.toNat = '\''.toNat then "&#x27;"
  else String.ofList (Text.percentByte b)

/-- An address as it is written in an attribute. Its bytes count, not its characters. -/
def escapeAddress (address : String) : String :=
  address.toUTF8.toList.foldl (fun out b => out ++ escapeAddressByte b) ""

end LanguageClient.Html
