/-! Names fixed by convention between the engine and its providers. -/
namespace RequestAuth.WellKnown

/-- Message layer of HTTP requests; every provider is looked up under it. -/
def servletLayer : String := "HttpServlet"

/-- Mechanism reported when neither provider nor configuration names one. -/
def defaultMechanism : String := "JASPIC"

/-- Shown for an identity without principal. -/
def anonymousPrincipal : String := "anonymous"

/-- Option of a message: present and true when an anonymous caller will not do. -/
def mandatoryOption : String := "javax.security.auth.message.MessagePolicy.isMandatory"

/-- Option of a response: true asks for the identity to be cached in the session. -/
def registerSessionOption : String := "javax.servlet.http.registerSession"

/-- Option of a response: the mechanism that authenticated the caller. -/
def authTypeOption : String := "javax.servlet.http.authType"

/-- Session attribute that holds the cached identity. -/
def identityRecordKey : String := "msg_auth.identity_record"

def recordVersion : Nat := 1

/-- Context identifier shared by all requests to the static token provider. -/
def staticContextId : String := "static"

/-- Principal of the static token provider's default identity. -/
def developerPrincipal : String := "developer"

end RequestAuth.WellKnown
