import Parley.Json.Display
import Parley.Store.DatabaseUrl

/-!
Which store an installation uses. One store is made when it is first asked for, and kept until it is
reset.
-/

namespace Parley

inductive StoreKind where
  | memory
  | sql (url : String) (place : DatabaseUrl.Place)
  deriving DecidableEq, Repr

inductive StoreFault where
  | unknownBackend (backend : Json)
  | database (fault : DatabaseFault)

def StoreFault.unknown (backend : Json) : String :=
  "Unknown store_backend: " ++ String.ofList backend.shown

/-- The store in use, numbered in the order of making, and how many were made. -/
structure StoreFactory where
  current : Option (Nat × StoreKind) := none
  made : Nat := 0
  deriving DecidableEq, Repr

namespace StoreFactory

def kindOf (settings : DatabaseSettings) : Except StoreFault StoreKind :=
  match settings.storeBackend, settings.url with
  | .str "memory", _ => .ok .memory
  | .str "sql", .str url =>
    ((DatabaseUrl.open? url).map fun place => .sql url place).mapError .database
  | .str "sql", _ => .error (.database .notText)
  | backend, _ => .error (.unknownBackend backend)

/-- The store in use, made as the settings ask if there is none. -/
def create (settings : DatabaseSettings) (factory : StoreFactory) :
    Except StoreFault ((Nat × StoreKind) × StoreFactory) :=
  match factory.current with
  | some store => .ok (store, factory)
  | none =>
    (kindOf settings).map fun kind =>
      let store := (factory.made, kind)
      (store, { current := some store, made := factory.made + 1 })

def reset (factory : StoreFactory) : StoreFactory := { factory with current := none }

end StoreFactory

end Parley
