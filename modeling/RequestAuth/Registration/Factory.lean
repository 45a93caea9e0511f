import RequestAuth.Journal
import RequestAuth.Registration.Key

/-! A factory of providers: a finite map from registration keys to providers. -/
namespace RequestAuth

structure Registration where
  key : RegistrationKey
  provider : Provider
  description : String

structure Factory where
  registrations : List Registration := []

namespace Factory

def find? (f : Factory) (key : RegistrationKey) : Option Registration :=
  f.registrations.find? (·.key = key)

/-- A registration takes the place of the one under its key. -/
def insert (f : Factory) (r : Registration) : Factory :=
  ⟨f.registrations.filter (·.key ≠ r.key) ++ [r]⟩

def erase (f : Factory) (id : String) : Factory := ⟨f.registrations.filter (·.key.id ≠ id)⟩

def hasId (f : Factory) (id : String) : Bool := f.registrations.any (·.key.id = id)

def ids (f : Factory) : List String :=
  (f.registrations.map (·.key.id)).mergeSort fun a b => decide (a ≤ b)

def description? (f : Factory) (id : String) : Option String :=
  (f.registrations.find? (·.key.id = id)).map Registration.description

/-- The most specific registration that covers the layer and application context. -/
def match? (f : Factory) (layer appContext : String) : Option Registration :=
  (RegistrationKey.candidates layer appContext).findSome? f.find?

def register (f : Factory) (r : Registration) : Journaled (String × Factory) := do
  Journal.note (.registered r.key.id r.description (f.find? r.key).isSome)
  return (r.key.id, f.insert r)

def unregister (f : Factory) (id : String) : Journaled (Bool × Factory) := do
  if f.hasId id then
    Journal.note (.registrationRemoved id)
    return (true, f.erase id)
  else return (false, f)

def provider? (f : Factory) (layer appContext : String) : Journaled (Option Provider) := do
  match f.match? layer appContext with
  | none => return none
  | some r =>
    Journal.note (.registrationMatched r.key.id layer appContext)
    return some r.provider

end Factory
end RequestAuth
