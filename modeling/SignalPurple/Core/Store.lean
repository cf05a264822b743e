import SignalPurple.Core.Event

/-! # Results of the encrypted store

The SQLite store is third-party code. Its failures are known to the core by their text
and by whether `sqlite_store_error_is_transient` takes them for lock contention.
-/

namespace SignalPurple

structure StoreError where
  text : String
  isTransient : Bool
  deriving DecidableEq

/-- What the user is told: nothing of lock contention, which passes by itself. -/
def StoreError.events (error : StoreError) (message : String) : List Event :=
  if error.isTransient then [] else [Event.error (message ++ ": " ++ error.text) false]

/-- A store error with what the repository was doing, or a row that is not there (yet). -/
inductive StorageError where
  | store (context : String) (source : StoreError)
  | notFound (context : String)
  deriving DecidableEq

namespace StorageError

def text : StorageError → String
  | .store context source => context ++ ": " ++ source.text
  | .notFound context => context

def isTransient : StorageError → Bool
  | .store _ source => source.isTransient
  | .notFound _ => true

end StorageError

/-- How a write to the store ended. -/
inductive StoreWrite where
  | stored
  | failed (error : StoreError)
  deriving DecidableEq

end SignalPurple
