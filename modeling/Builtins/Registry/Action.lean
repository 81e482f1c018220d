import Builtins.Log.Event

/-!
# Changing a registry

The ways in which builtins get into a registry, what they leave in it, and what is logged. A library
is a registry of its own, so linking one registers its builtins twice: in the library, in the order
given, and then in the registry, in the order of their names.
-/
namespace Builtins.Registry

inductive Action where
  | register (b : Builtin)
  | registerAll (bs : List Builtin)
  | linkLibrary (bs : List Builtin)
  | linkStandard
  deriving DecidableEq, Repr

namespace Action

/-- The registry after the action. -/
def apply (r : Registry) : Action → Registry
  | register b => (r.register b).2
  | registerAll bs => r.registerAll bs
  | linkLibrary bs => r.link (ofList bs)
  | linkStandard => r.link standard

/-- Every registration that the action makes. -/
def registered : Action → List Builtin
  | register b => [b]
  | registerAll bs => bs
  | linkLibrary bs => bs ++ (ofList bs).builtins
  | linkStandard => standardLibrary ++ standard.builtins

/-- What is logged. -/
def events (a : Action) : List Log.Event := a.registered.map .registered

end Action

end Builtins.Registry
