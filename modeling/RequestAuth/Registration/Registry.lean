import RequestAuth.Registration.Factory

/-! The factories of a process, and the slot that names the one installed for the whole process.
Without a factory, or when it cannot be had, or when it knows no provider, a look-up finds nothing
and says why. -/
namespace RequestAuth

structure Registry where
  factories : Nat → Factory := fun _ => {}
  installed : Option Nat := none

/-- Which factory an engine looks its provider up in. -/
inductive RegistryAccess
  | process
  | fixed (factory : Option Nat)
  | failing (cause : RegistryError)
deriving DecidableEq

namespace Registry

/-- Installs a factory for the process; the answer is the one it takes the place of. -/
def install (r : Registry) (factory : Nat) : Option Nat × Registry :=
  (r.installed, { r with installed := some factory })

def clear (r : Registry) : Option Nat × Registry := (r.installed, { r with installed := none })

def update (r : Registry) (index : Nat) (factory : Factory) : Registry :=
  { r with factories := fun i => if i = index then factory else r.factories i }

def factory (r : Registry) : RegistryAccess → Except RegistryError (Option Factory)
  | .process => .ok (r.installed.map r.factories)
  | .fixed index => .ok (index.map r.factories)
  | .failing cause => .error cause

def lookup (r : Registry) (access : RegistryAccess) (layer appContext : String) :
    Journaled (Option Provider) := do
  match r.factory access with
  | .error cause =>
    Journal.note (.factoryUnavailable cause)
    return none
  | .ok none =>
    Journal.note .noFactory
    return none
  | .ok (some f) =>
    match ← f.provider? layer appContext with
    | some p => return some p
    | none =>
      Journal.note (.noProvider layer appContext)
      return none

end Registry
end RequestAuth
