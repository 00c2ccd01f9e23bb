import LanguageClient.Protocol.Capabilities
import LanguageClient.Protocol.ServerError

/-!
# Recorded servers

A recorded server stands in for a running one. It has a name, capabilities, and for each method
one response, which comes after a delay.
-/

namespace LanguageClient

/-- How a recorded server answers one method: after `delay` milliseconds with `result`, unless
it has an `error` to answer with or drops the connection. `ignoresCancel` says that it goes on
when the request is cancelled. -/
structure RecordedResponse where
  result : Json := .null
  error : Option RpcError := none
  delay : Nat := 0
  disconnect : Bool := false
  ignoresCancel : Bool := false
  deriving Repr

/-- A recorded server. -/
structure RecordedServer where
  name : String
  capabilities : Capabilities := {}
  responses : List (String × RecordedResponse) := []
  deriving Repr

/-- What comes back for a request. -/
abbrev Answer := Except ServerError Json

namespace RecordedResponse

/-- Reads a response. -/
def ofJson? (value : Json) : Option RecordedResponse := do
  let fields ← value.fields? ["result", "error", "delayMs", "disconnect", "ignoreCancel"] 0
  return {
    result := ← fields.withDefault "result" .null Json.any?
    error := ← fields.optional "error" RpcError.ofJson?
    delay := ← fields.withDefault "delayMs" 0 (Json.unsigned? 64)
    disconnect := ← fields.withDefault "disconnect" false Json.bool?
    ignoresCancel := ← fields.withDefault "ignoreCancel" false Json.bool? }

/-- The answer of a server, once it is due. -/
def answer (r : RecordedResponse) (server : String) : Answer :=
  if r.disconnect then .error (.disconnected server)
  else match r.error with
    | some error => .error (.rpc error)
    | none => .ok r.result

end RecordedResponse

namespace RecordedServer

/-- Reads the responses by method. -/
def responses? : Json → Option (List (String × RecordedResponse))
  | .object members => members.mapM fun (method, value) => do
    return (method, ← RecordedResponse.ofJson? value)
  | _ => none

/-- Reads a recorded server. -/
def ofJson? (value : Json) : Option RecordedServer := do
  let fields ← value.fields? ["name", "capabilities", "responses"] 1
  return {
    name := ← fields.required "name" Json.string?
    capabilities := ← fields.withDefault "capabilities" {} Capabilities.ofJson?
    responses := ← fields.withDefault "responses" [] responses? }

/-- The response to a method; of several, the last one given. -/
def response? (s : RecordedServer) (method : String) : Option RecordedResponse :=
  s.responses.reverse.lookup method

end RecordedServer

end LanguageClient
