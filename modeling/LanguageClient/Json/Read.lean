import LanguageClient.Json.Basic
import LanguageClient.Json.Token

/-!
# Reading JSON

`Json.parse?` reads a text that holds exactly one JSON value, with nothing but blanks around it.
Each token moves a stack of the arrays and objects that are still open, so reading is one pass
over the tokens. Values that nest deeper than `maxDepth` are well formed but denote nothing.
-/

namespace LanguageClient.Json

/-- An array or object that is still open, with what it holds so far (the last one first). -/
inductive Open
  | array (items : List Json)
  | object (members : List (Option String × Json)) (name : Option String)
  deriving Repr

/-- What may come next. -/
inductive Expect
  /-- A value. -/
  | value
  /-- A value, or the end of the array just opened. -/
  | firstItem
  /-- A member's name, or the end of the object just opened. -/
  | firstName
  /-- A member's name. -/
  | name
  /-- The colon behind the name. -/
  | colon (name : Option String)
  /-- A comma or the end of the innermost open array or object. -/
  | next
  /-- Nothing: the value is complete. -/
  | done (value : Json)
  deriving Repr

/-- The state of the reader: what may come next and what is open, the innermost first. In front
of a value an open object holds its name. -/
structure Reader where
  expect : Expect
  stack : List Open
  deriving Repr

/-- Arrays and objects may be open this many at a time. -/
def maxDepth : Nat := 127

namespace Reader

/-- Puts a complete value where it belongs. -/
def put (value : Json) : List Open → Reader
  | [] => ⟨.done value, []⟩
  | .array items :: stack => ⟨.next, .array (value :: items) :: stack⟩
  | .object members name :: stack => ⟨.next, .object ((name, value) :: members) none :: stack⟩

/-- A complete array or object that stands in others, unless they are too many. -/
def close (value : Json) (stack : List Open) : Reader :=
  put (if (stack.drop (maxDepth - 1)).isEmpty then value else .broken) stack

/-- The object of these members (the last one first), if all of their names denote something. -/
def objectOf (members : List (Option String × Json)) : Json :=
  match members.reverse.mapM fun (name, value) => name.map (·, value) with
  | some members => .object members
  | none => .broken

/-- Takes a token in front of a value. -/
def beginValue (stack : List Open) : Token → Option Reader
  | .openArray => some ⟨.firstItem, .array [] :: stack⟩
  | .openObject => some ⟨.firstName, .object [] none :: stack⟩
  | .null => some (put .null stack)
  | .bool b => some (put (.bool b) stack)
  | .integer n => some (put (.integer n) stack)
  | .decimal literal => some (put (.decimal literal) stack)
  | .excessive => some (put .broken stack)
  | .string (some s) => some (put (.string s) stack)
  | .string none => some (put .broken stack)
  | _ => none

/-- Takes one token. -/
def step (r : Reader) (token : Token) : Option Reader :=
  match r.expect, token, r.stack with
  | .value, token, stack => beginValue stack token
  | .firstItem, .closeArray, .array _ :: stack => some (close (.array []) stack)
  | .firstItem, token, stack => beginValue stack token
  | .firstName, .closeObject, .object _ _ :: stack => some (close (.object []) stack)
  | .firstName, .string name, stack => some ⟨.colon name, stack⟩
  | .name, .string name, stack => some ⟨.colon name, stack⟩
  | .colon name, .colon, .object members _ :: stack =>
    some ⟨.value, .object members name :: stack⟩
  | .next, .comma, .array items :: stack => some ⟨.value, .array items :: stack⟩
  | .next, .comma, .object members _ :: stack => some ⟨.name, .object members none :: stack⟩
  | .next, .closeArray, .array items :: stack => some (close (.array items.reverse) stack)
  | .next, .closeObject, .object members _ :: stack => some (close (objectOf members) stack)
  | _, _, _ => none

/-- The value once all tokens have been taken. -/
def value? (r : Reader) : Option Json :=
  match r.expect with
  | .done value => some value
  | _ => none

end Reader

/-- The value that a text denotes, if it is a JSON text. -/
def parse? (text : String) : Option Json := do
  let tokens ← tokens? text.toList
  let reader ← tokens.foldlM Reader.step ⟨.value, []⟩
  reader.value?

end LanguageClient.Json
