import RequestAuth.Http.Request
import RequestAuth.Ordered.Map
import RequestAuth.WellKnown

/-! What the engine and a provider say to each other about one request: the message with its
input options, the provider's response with its output options, and the subject that collects
the caller's principals. -/
namespace RequestAuth

/-- An option reads as true when it is the word, in whatever case and without anything around. -/
def readsTrue (value : String) : Bool := Text.sameLetters value "true"

structure MessageInfo where
  request : Request
  options : TextMap String := ∅
deriving DecidableEq

namespace MessageInfo

def withOption (m : MessageInfo) (key value : String) : MessageInfo :=
  { m with options := m.options.insert key value }

/-- Only a mandatory request gets the option; otherwise it stays as it is. -/
def mandatory (m : MessageInfo) (required : Bool) : MessageInfo :=
  if required then m.withOption WellKnown.mandatoryOption "true" else m

def isMandatory (m : MessageInfo) : Bool :=
  (m.options.find? WellKnown.mandatoryOption).any readsTrue

end MessageInfo

inductive AuthStatus
  | success
  | sendSuccess
  | sendFailure
  | sendContinue
deriving DecidableEq

namespace AuthStatus

def name : AuthStatus → String
  | .success => "SUCCESS"
  | .sendSuccess => "SEND_SUCCESS"
  | .sendFailure => "SEND_FAILURE"
  | .sendContinue => "SEND_CONTINUE"

def ofName? (text : String) : Option AuthStatus :=
  [success, sendSuccess, sendFailure, sendContinue].find? (·.name = text)

end AuthStatus

structure Response where
  status : AuthStatus
  options : TextMap String := ∅
deriving DecidableEq

namespace Response

inductive Edit
  | option (key value : String)
  | registerSession (register : Bool)
  | authType (label : String)

def withOption (r : Response) (key value : String) : Response :=
  { r with options := r.options.insert key value }

def registerSession (r : Response) (register : Bool) : Response :=
  r.withOption WellKnown.registerSessionOption (if register then "true" else "false")

def authType (r : Response) (label : String) : Response :=
  r.withOption WellKnown.authTypeOption label

def apply (r : Response) : Edit → Response
  | .option key value => r.withOption key value
  | .registerSession register => r.registerSession register
  | .authType label => r.authType label

def applyAll (r : Response) (edits : List Edit) : Response := edits.foldl apply r

end Response

/-- Principals in the order of their first addition. -/
structure Subject where
  principals : List String := []
deriving DecidableEq

namespace Subject

def add (s : Subject) (name : String) : Subject :=
  if name ∈ s.principals then s else ⟨s.principals ++ [name]⟩

def addAll (s : Subject) (names : List String) : Subject := names.foldl add s

end Subject
end RequestAuth
