import AuditTrail.Config.Decode

/-
  Settings in effect. The source of the settings may be edited at any time; it takes effect only
  when it is resolved into a new snapshot, which needs it to keep the rules. Snapshots carry rising
  version numbers, drawn from one counter for all settings.
-/
namespace AuditTrail

/-- A resolved configuration with the version it was made as. -/
structure Snapshot where
  version : Nat
  config : Config
  deriving DecidableEq, Repr

/-- The source of the settings and the snapshot in effect. -/
structure Settings where
  source : Config
  current : Snapshot
  deriving DecidableEq, Repr

/-- The counter that versions are drawn from. -/
structure VersionCounter where
  next : Nat := 1
  deriving DecidableEq, Repr

/-- Draws a version. The counter has 64 bits and starts over when they are used up. -/
def VersionCounter.draw (c : VersionCounter) : Nat × VersionCounter :=
  (c.next, ⟨(c.next + 1) % 0x10000000000000000⟩)

namespace Settings

/-- Resolves a source into a snapshot, if it keeps the rules. -/
def resolve (source : Config) (counter : VersionCounter) :
    Except ConfigError (Snapshot × VersionCounter) :=
  match source.broken? with
  | some rule => .error (.invalid rule)
  | none =>
    let (version, counter) := counter.draw
    .ok (⟨version, source.resolved⟩, counter)

/-- Settings from a first source. -/
def create (source : Config) (counter : VersionCounter) :
    Except ConfigError (Settings × VersionCounter) :=
  (resolve source counter).map fun (snapshot, counter) => (⟨source, snapshot⟩, counter)

/-- Edits the source; the snapshot in effect stays. -/
def update (edit : Config → Config) (s : Settings) : Settings :=
  { s with source := edit s.source }

/-- Replaces the source; the snapshot in effect stays. -/
def replace (config : Config) (s : Settings) : Settings := s.update fun _ => config

/-- Resolves the source again. On an error nothing changes. -/
def invalidate (s : Settings) (counter : VersionCounter) :
    Except ConfigError (Settings × VersionCounter) :=
  (resolve s.source counter).map fun (snapshot, counter) =>
    ({ s with current := snapshot }, counter)

end Settings

end AuditTrail
