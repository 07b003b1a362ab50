import ShardStore.Config.Decode
import ShardStore.Files

/-!
# Loading configurations

Reading a configuration from a file. What goes wrong is reported with the step that it stopped.
-/

namespace ShardStore.Config

/-- Why a configuration could not be loaded. -/
inductive LoadError where
  /-- The file was not found. -/
  | unresolved (path reason : String)
  /-- The file could not be read. -/
  | unreadable (path reason : String)
  /-- The file holds no configuration. -/
  | rejected (path : String) (e : Error)

/-- The step that failed. -/
def LoadError.message : LoadError → String
  | .unresolved path _ => "failed to resolve absolute config filepath: " ++ quoteText path
  | .unreadable path _ => "read config yaml file " ++ quoteText path
  | .rejected path _ => "unmarshal yaml from " ++ quoteText path

/-- Why the step failed. -/
def LoadError.reason : LoadError → String
  | .unresolved _ reason | .unreadable _ reason => reason
  | .rejected _ e => e.message

/-- Loads the configuration of a file. -/
def load {m : Type → Type} [Monad m] (files : FileAccess m) (path : String) : m (Except LoadError Config) := do
  match ← files.resolve path with
  | .error reason => return .error (.unresolved path reason)
  | .ok fullName =>
    match ← files.read fullName with
    | .error reason => return .error (.unreadable fullName reason)
    | .ok text => return (parse text).mapError (.rejected fullName)

end ShardStore.Config
