/-!
# What a service call can throw

A call fails with an error of its own service, with an error of the state
database, with a plain `Error`, or because SQLite refused a statement that
breaks a constraint of a table. The first three carry the source's text.
-/

namespace OpenRill.State

/-- The codes of `StateDatabaseError` that the modelled repositories throw. -/
inductive StateErrorCode where
  | schemaInconsistent
  | conflict
  deriving DecidableEq

inductive Failure (Code : Type) where
  | service (code : Code) (message : String)
  | state (code : StateErrorCode) (message : String)
  | unexpected (message : String)
  | constraint (name : String)
  deriving DecidableEq

end OpenRill.State
