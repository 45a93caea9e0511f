import RequestAuth.Failure

/-! What a provider asks of the server during a negotiation, and what it gets back. -/
namespace RequestAuth

inductive Callback
  /-- Establishes the caller; no name establishes the anonymous one. -/
  | caller (name : Option String)
  | groups (names : List String)
  /-- Asks whether the password is the user's; the handler fills in `verified`. -/
  | password (username password : String) (verified : Bool)
deriving DecidableEq

/-- The callbacks as the handler leaves them, and whether it took them all. -/
structure Reply where
  callbacks : List Callback
  result : Except ProviderError Unit

end RequestAuth
