import LanguageClient.Json.Record

/-!
# Errors of servers

Why a request brought no answer. Some of these mean that nobody cares any more, because the
request was cancelled or the server went away; those do not count as failures.
-/

namespace LanguageClient

/-- An error that a server answers with. -/
structure RpcError where
  code : Int
  message : String
  data : Option Json := none
  deriving Repr

namespace RpcError

/-- The code of an answer to a cancelled request. -/
def cancelledCode : Int := -32800

/-- The code of an answer to a request whose document has changed. -/
def contentModifiedCode : Int := -32801

/-- The error of a server that does not know a method. -/
def methodNotFound : RpcError := ⟨-32601, "Method not found", none⟩

/-- What a code stands for. -/
def description (code : Int) : String :=
  if code = -32700 then "Parse error"
  else if code = -32600 then "Invalid request"
  else if code = -32601 then "Method not found"
  else if code = -32602 then "Invalid params"
  else if code = -32603 then "Internal error"
  else if code = cancelledCode then "Canceled"
  else if code = contentModifiedCode then "Content modified"
  else "Server error"

/-- Reads an error. It has no members but its own. -/
def ofJson? (value : Json) : Option RpcError := do
  let names := ["code", "message", "data"]
  let fields ← value.fields? names 3
  if let .object members := value then
    guard (members.all fun (name, _) => names.contains name)
  return ⟨← fields.required "code" (Json.signed? 64), ← fields.required "message" Json.string?,
    ← fields.optional "data" Json.any?⟩

end RpcError

/-- Why a request failed. -/
inductive ServerError
  | disconnected (server : String)
  | cancelled
  | rpc (error : RpcError)
  /-- The answer is not of the form that the request asks for. -/
  | invalidResponse (reason : String)
  deriving Repr

namespace ServerError

/-- Whether an error means that there is no answer, rather than that answering failed. -/
def isCancellation : ServerError → Bool
  | disconnected _ => true
  | cancelled => true
  | rpc e => e.code == RpcError.cancelledCode || e.code == RpcError.contentModifiedCode
  | invalidResponse _ => false

/-- The text shown for an error. -/
def message : ServerError → String
  | disconnected server => s!"Server {server} disconnected"
  | cancelled => "Request cancelled"
  | rpc e => s!"JSON-RPC error: {RpcError.description e.code}: {e.message}"
  | invalidResponse reason => s!"Invalid response: {reason}"

end ServerError

end LanguageClient
