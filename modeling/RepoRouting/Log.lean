/-!
# Log lines

What collection and settings loading report along the way, each line with its topic and
level.
-/

namespace RepoRouting

/-- The level of a log line, from the most to the least urgent. -/
inductive Level where
  | error
  | warn
  | info
  | debug
  | trace
deriving DecidableEq, Repr, Inhabited

/-- The rank of a level: more urgent levels rank lower. -/
def Level.rank : Level → Nat
  | .error => 0
  | .warn => 1
  | .info => 2
  | .debug => 3
  | .trace => 4

/-- The name of a level in capitals. -/
def Level.name : Level → String
  | .error => "ERROR"
  | .warn => "WARN"
  | .info => "INFO"
  | .debug => "DEBUG"
  | .trace => "TRACE"

/-- What a log line is about: loading settings, generating ids, collecting repositories,
decrypting credentials, or preparing a session. A filter can select lines by topic. -/
inductive Topic where
  | settings
  | ids
  | collection
  | credentials
  | session
deriving DecidableEq, Repr, Inhabited

/-- One log line. -/
structure LogLine where
  topic : Topic
  level : Level
  message : String
deriving DecidableEq, Repr, Inhabited

end RepoRouting
