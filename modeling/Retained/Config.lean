import Retained.Config.Dotenv
import Retained.Store

/-!
# Configuration

The settings of a server and their names in the environment. A variable that is not set gives the
default; the first one whose value is no number where one is needed is an error.
-/

namespace Retained

structure Config where
  nodeId : String := "node-1"
  logLevel : String := "info"
  limits : Limits := {}
  /-- The directory that snapshots are kept in. -/
  snapshotPath : String := "./data/retained"
  /-- The seconds between two snapshots; with zero none are taken on the way. -/
  snapshotInterval : Nat := 300
  /-- How many commands may wait for the apply loop. -/
  queueCapacity : Nat := 10000
  deriving Repr, DecidableEq

namespace Config

structure Error where
  key : String
  deriving Repr, DecidableEq

def Error.message (e : Error) : String := s!"Config error: {e.key} must be valid"

/-- The defaults with another limit on the topics of a namespace. -/
def ofTopicLimit (topics : Nat) : Config := { limits := { topics } }

/-- Reads a number below 2^64: ASCII digits, at least one, with an optional plus sign ahead. -/
def number? (s : String) : Option Nat :=
  let digits := match s.toList with
    | '+' :: cs => cs
    | cs => cs
  let n := Nat.ofDigitChars 10 digits 0
  if !digits.isEmpty && digits.all Char.isDigit && n < UInt64.size then some n else none

def number (env : Environment) (key : String) (default : Nat) : Except Error Nat :=
  match env[key]? with
  | none => .ok default
  | some value => (number? value).elim (.error ⟨key⟩) .ok

def load (env : Environment) : Except Error Config := do
  let d : Config := {}
  let topics ← number env "RETAINED_MAX_PER_NAMESPACE" d.limits.topics
  let snapshotInterval ← number env "RETAINED_SNAPSHOT_INTERVAL_SECS" d.snapshotInterval
  let queueCapacity ← number env "RETAINED_APPLY_CHAN_CAP" d.queueCapacity
  let levels ← number env "RETAINED_MAX_TOPIC_LEVELS" d.limits.levels
  pure
    { nodeId := env.getD "NODE_ID" d.nodeId
      logLevel := env.getD "NEXO_LOG" d.logLevel
      limits := { topics, levels }
      snapshotPath := env.getD "RETAINED_SNAPSHOT_PATH" d.snapshotPath
      snapshotInterval
      queueCapacity }

end Config

end Retained
