import Gamebook.Settings.Options

/-!
# The settings store

The store holds the current settings and tells its listeners, in the order they came, which part a
replacement changed.  A replacement that changes nothing tells nobody.
-/

namespace Gamebook

/-- Which parts of the settings a replacement changed. -/
structure SettingsChange where
  diagnostics : Bool
  features : Bool
deriving DecidableEq, Repr

namespace SettingsChange

/-- The parts in which two settings differ. -/
def between (old new : Settings) : SettingsChange :=
  ⟨old.diagnostics.normal ≠ new.diagnostics.normal, old.features ≠ new.features⟩

def isEmpty (change : SettingsChange) : Bool :=
  !change.diagnostics && !change.features

end SettingsChange

abbrev ListenerId := Nat

structure Notice where
  listener : ListenerId
  change : SettingsChange
deriving DecidableEq, Repr

/-- The current settings and who listens to their changes. -/
structure SettingsStore where
  current : Settings := {}
  listeners : List ListenerId := []
  next : ListenerId := 0

namespace SettingsStore

def ofSettings (settings : Settings) : SettingsStore :=
  { current := settings }

/-- The store with one more listener, and its number. -/
def subscribe (store : SettingsStore) : SettingsStore × ListenerId :=
  ({ store with listeners := store.listeners ++ [store.next], next := store.next + 1 }, store.next)

/-- The store without a listener, and whether it was there. -/
def unsubscribe (store : SettingsStore) (listener : ListenerId) : SettingsStore × Bool :=
  ({ store with listeners := store.listeners.filter (· != listener) },
    store.listeners.contains listener)

/-- The store with other settings, and what its listeners are told. -/
def replace (store : SettingsStore) (settings : Settings) : SettingsStore × List Notice :=
  let change := SettingsChange.between store.current settings
  ({ store with current := settings },
    if change.isEmpty then [] else store.listeners.map (⟨·, change⟩))

def setDiagnostics (store : SettingsStore) (diagnostics : DiagnosticOptions) :
    SettingsStore × List Notice :=
  store.replace { store.current with diagnostics }

def setFeatures (store : SettingsStore) (features : Features) : SettingsStore × List Notice :=
  store.replace { store.current with features }

@[simp]
theorem current_replace (store : SettingsStore) (settings : Settings) :
    (store.replace settings).1.current = settings := rfl

@[simp]
theorem listeners_replace (store : SettingsStore) (settings : Settings) :
    (store.replace settings).1.listeners = store.listeners := rfl

end SettingsStore

end Gamebook
