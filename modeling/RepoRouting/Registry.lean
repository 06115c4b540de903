import RepoRouting.Repository
import RepoRouting.Error
/-!
# Named repository definitions

A build defines a repository once under a name and refers to it elsewhere with `refid`.
A reference is resolved when it is registered: the stored definition is a copy of the
definition it names, so a later registration under that name leaves earlier aliases as
they were, and no stored definition is itself a reference. A reference to a name not yet
registered fails and stores nothing.
-/

namespace RepoRouting

/-- Named definitions, the latest registration of a name first. -/
structure Registry where
  entries : List (String × RemoteConfig) := []
deriving Repr, Inhabited

namespace Registry

/-- The definition stored under a name. -/
def get? (r : Registry) (name : String) : Option RemoteConfig :=
  (r.entries.find? (·.1 == name)).map (·.2)

/-- Whether a name is registered. -/
def has (r : Registry) (name : String) : Bool :=
  (r.get? name).isSome

/-- The definition a configuration stands for: the one its `refid` names, or itself. -/
def resolve (r : Registry) (c : RemoteConfig) : Except ConfigError RemoteConfig :=
  match c.refid with
  | none => .ok c
  | some ref =>
    match r.get? ref with
    | some d => .ok d
    | none => .error (.unresolvedReference ref)

/-- Stores the resolved configuration under a name, replacing an earlier one. -/
def register (r : Registry) (name : String) (c : RemoteConfig) : Except ConfigError Registry := do
  let d ← r.resolve c
  .ok { entries := (name, d) :: r.entries.filter (·.1 != name) }

end Registry

end RepoRouting
