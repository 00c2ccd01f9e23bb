import LanguageClient.Json.Record

/-!
# Progress tokens

A client may name a request, so that the server can report how far it is and send parts of its
answer ahead. The names are passed on as they are.
-/

namespace LanguageClient

/-- A name for what a server reports on. -/
inductive ProgressToken
  | number (n : Int)
  | text (s : String)
  deriving DecidableEq, Repr

/-- The names under which a server may report on a request, and send parts of the answer. -/
structure Progress where
  workDone : Option ProgressToken := none
  partialResult : Option ProgressToken := none
  deriving DecidableEq, Repr

namespace ProgressToken

/-- Reads a token: a string, or a number of 32 bits. -/
def ofJson? : Json → Option ProgressToken
  | .string s => some (text s)
  | value => (value.signed? 32).map number

/-- Writes a token. -/
def toJson : ProgressToken → Json
  | number n => .integer n
  | text s => .string s

end ProgressToken

namespace Progress

/-- The members of a request that hold tokens. -/
def names : List String := ["workDoneToken", "partialResultToken"]

/-- Reads the tokens among the members of a request. -/
def ofFields? (fields : Json.Fields) : Option Progress := do
  return ⟨← fields.optional "workDoneToken" ProgressToken.ofJson?,
    ← fields.optional "partialResultToken" ProgressToken.ofJson?⟩

/-- The members of a request that the tokens make. -/
def members (p : Progress) : List (String × Option Json) :=
  [("workDoneToken", p.workDone.map (·.toJson)),
    ("partialResultToken", p.partialResult.map (·.toJson))]

end Progress

end LanguageClient
