import RequestAuth.Identity

/-! The security domain: who is known under a name, and whose password is right. An answer is a
draft, so that an identity without an identifier of its own is a new one each time. -/
namespace RequestAuth

structure SecurityDomain where
  identityFor : String → Option IdentityDraft
  verifyPassword : (username password : String) → Bool

end RequestAuth
