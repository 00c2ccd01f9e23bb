import LanguageClient.Text.Basic
import LanguageClient.Text.Hexadecimal

/-!
# Percent-encoding

A character that cannot stand in a part of a URL is written there by its bytes, each as a percent
sign and two digits. Which characters these are depends on the part.
-/

namespace LanguageClient.Url

/-- The parts of a URL, as far as they differ in the characters that they can hold. -/
inductive Part
  /-- The host or the path of a URL of which nothing else is known. -/
  | plain
  | credentials
  | path
  | query
  /-- The query of a URL with a scheme of the web. -/
  | webQuery
  | fragment
  deriving DecidableEq, Repr

namespace Part

/-- The characters of ASCII, besides the controls, that cannot stand in a part. -/
def excluded : Part → List Char
  | plain => []
  | query => [' ', '"', '#', '<', '>']
  | webQuery => [' ', '"', '#', '<', '>', '\'']
  | fragment => [' ', '"', '<', '>', '\x60']
  | path => [' ', '"', '<', '>', '\x60', '#', '?', '{', '}']
  | credentials => [' ', '"', '<', '>', '\x60', '#', '?', '{', '}', '/', ':', ';', '=', '@', '[',
    '\\', ']', '^', '|']

/-- Whether a character can stand in a part as it is. -/
def holds (part : Part) (c : Char) : Bool :=
  0x20 ≤ c.toNat && c.toNat < 0x7f && !part.excluded.contains c

/-- A text as it is written in a part. -/
def encode (part : Part) (t : Text) : Text :=
  t.flatMap fun c => if part.holds c then [c] else c.toString.toUTF8.toList.flatMap Text.percentByte

end Part

/-- The bytes of a text in which a percent sign and two digits stand for a byte. -/
def decodedBytes : Text → List UInt8
  | '%' :: a :: b :: rest =>
    match Text.hexValue? a, Text.hexValue? b with
    | some high, some low => UInt8.ofNat (16 * high + low) :: decodedBytes rest
    | _, _ => '%'.toNat.toUInt8 :: decodedBytes (a :: b :: rest)
  | c :: rest => c.toString.toUTF8.toList ++ decodedBytes rest
  | [] => []

/-- The text whose bytes a text stands for. -/
def decoded? (t : Text) : Option Text :=
  (String.fromUTF8? ⟨(decodedBytes t).toArray⟩).map (·.toList)

end LanguageClient.Url
