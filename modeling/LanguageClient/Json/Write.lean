import LanguageClient.Json.Basic

/-!
# Writing JSON

`Json.text` writes a value without blanks. In strings, the quote, the backslash and the control
characters are escaped.
-/

namespace LanguageClient.Json

private def hexChar (n : Nat) : Char := Nat.digitChar n

/-- A character as it is written within a string. -/
def escape (c : Char) : String :=
  if c = '"' then "\\\""
  else if c = '\\' then "\\\\"
  else if c = '\n' then "\\n"
  else if c = '\r' then "\\r"
  else if c = '\t' then "\\t"
  else if c < ' ' then
    String.ofList ['\\', 'u', '0', '0', hexChar (c.toNat / 16), hexChar (c.toNat % 16)]
  else c.toString

/-- A string with its quotes. -/
def quote (s : String) : String :=
  "\"" ++ s.foldl (fun out c => out ++ escape c) "" ++ "\""

mutual

/-- Appends the text of a value. One that denotes nothing is written like none at all. -/
def write (out : String) : Json → String
  | null | broken => out ++ "null"
  | bool b => out ++ (if b then "true" else "false")
  | integer n => out ++ toString n
  | decimal literal => out ++ literal
  | string s => out ++ quote s
  | array items => writeItems (out ++ "[") true items ++ "]"
  | object members => writeMembers (out ++ "\x7b") true members ++ "\x7d"

/-- Appends the items of an array, with commas between them. -/
def writeItems (out : String) (isFirst : Bool) : List Json → String
  | [] => out
  | value :: rest => writeItems (write (if isFirst then out else out ++ ",") value) false rest

/-- Appends the members of an object, with commas between them. -/
def writeMembers (out : String) (isFirst : Bool) : List (String × Json) → String
  | [] => out
  | (name, value) :: rest =>
    let out := (if isFirst then out else out ++ ",") ++ quote name ++ ":"
    writeMembers (write out value) false rest

end

/-- The text of a value. -/
def text (value : Json) : String := write "" value

end LanguageClient.Json
