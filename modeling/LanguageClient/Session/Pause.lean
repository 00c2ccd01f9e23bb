import LanguageClient.Server.Exchange

/-!
# Pauses

Between the steps of a session the clock moves on a little, so that whatever is due at once
happens before the next step.
-/

namespace LanguageClient.Exchange

/-- The pause between two steps, in milliseconds. -/
def pause : Nat := 2

/-- Lets the pause between two steps pass. -/
def afterPause (x : Exchange) : Exchange × List (RequestId × Answer) := x.advance (x.now + pause)

/-- Lets some milliseconds pass. -/
def wait (x : Exchange) (time : Nat) : Exchange × List (RequestId × Answer) :=
  x.advance (x.now + time)

end LanguageClient.Exchange
