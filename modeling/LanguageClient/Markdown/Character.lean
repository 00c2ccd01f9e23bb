import LanguageClient.Text.Basic

/-!
# Classes of characters

The classes of characters that the structure of a Markdown text depends on, and the ends of
lines. A line ends with a line feed, a carriage return, or both; the end of the text ends it
too.
-/

namespace LanguageClient.Markdown

/-- Whether a character is blank within a line. -/
def isBlank (c : Char) : Bool := c == ' ' || c == '\t' || c == '\x0b' || c == '\x0c'

/-- Whether a character ends a line. -/
def isBreak (c : Char) : Bool := c == '\n' || c == '\r'

/-- Whether a character is an ASCII blank or ends a line. -/
def isBlankOrBreak (c : Char) : Bool := isBlank c || isBreak c

/-- Whether a character is a space or a tab, which indent a line. -/
def isIndentation (c : Char) : Bool := c == ' ' || c == '\t'

/-- Whether a character is white space of any script. -/
def isSpace (c : Char) : Bool :=
  let n := c.toNat
  isBlankOrBreak c || n == 0x85 || n == 0xA0 || n == 0x1680 ||
    (0x2000 ≤ n && n ≤ 0x200A) || n == 0x2028 || n == 0x2029 || n == 0x202F || n == 0x205F ||
    n == 0x3000

/-- Whether a character is ASCII punctuation, which a backslash makes literal. -/
def isAsciiPunctuation (c : Char) : Bool :=
  ('!' ≤ c && c ≤ '/') || (':' ≤ c && c ≤ '@') || ('[' ≤ c && c ≤ '`') ||
    ('\x7b' ≤ c && c ≤ '~')

/-- What is left of a text when blanks at its beginning are passed over. -/
def skipBlanks (t : Text) : Text := t.dropWhile isBlank

/-- A text without the characters of a class at its end. -/
def trimEnd (isTrimmed : Char → Bool) (t : Text) : Text :=
  (t.reverse.dropWhile isTrimmed).reverse

/-- What follows the end of a line that stands here. -/
def afterBreak? : Text → Option Text
  | [] => some []
  | '\n' :: rest => some rest
  | '\r' :: '\n' :: rest => some rest
  | '\r' :: rest => some rest
  | _ => none

/-- Whether a line ends here. -/
def isAtBreak (t : Text) : Bool := t.head?.all isBreak

/-- What follows the end of this line if only blanks come before it. -/
def lineEnd? (t : Text) : Option Text := afterBreak? (skipBlanks t)

/-- Whether only blanks come before the end of this line. -/
def isBlankLine (t : Text) : Bool := (lineEnd? t).isSome

/-- A text cut behind its first line feed. -/
def splitLine (t : Text) : Text × Text :=
  let line := t.takeWhile (· ≠ '\n')
  match t.drop line.length with
  | [] => (line, [])
  | c :: rest => (line ++ [c], rest)

/-- A line with a line feed at its end instead of a carriage return and a line feed. More
generally the carriage return goes that stands in front of a last character of ASCII. -/
def plainBreak (line : Text) : Text :=
  match line.reverse with
  | c :: '\r' :: back => if c.toNat < 0x80 then (c :: back).reverse else line
  | _ => line

end LanguageClient.Markdown
