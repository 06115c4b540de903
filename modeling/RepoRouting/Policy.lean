import RepoRouting.Text.Blank
/-!
# Release and snapshot policies

Each repository has one policy per channel (releases, snapshots): whether the channel is
enabled, how often its metadata is checked again (`UpdatePolicy`) and what a checksum
mismatch does (`ChecksumPolicy`). A configured policy may leave the last two out; the
effective policy then checks daily and warns.

Policy words are read after trimming blanks and are case-sensitive. An interval is
`interval:` followed by an optional `+` and decimal digits whose value fits in 32 bits;
it is written back without sign or leading zeros, so `interval:+007` reads as `interval:7`.
-/

namespace RepoRouting

/-- How often remote metadata is checked again. -/
inductive UpdatePolicy where
  | always
  | daily
  | never
  /-- Check again after this many minutes. -/
  | interval (minutes : UInt32)
deriving DecidableEq, Repr, Inhabited

/-- What a mismatching checksum does. -/
inductive ChecksumPolicy where
  | fail
  | warn
  | ignore
deriving DecidableEq, Repr, Inhabited

/-- A number of minutes: an optional `+`, then at least one ASCII digit, at most
`2^32 - 1` in value. -/
def minutesOf? (cs : List Char) : Option UInt32 :=
  let digits := match cs with
    | '+' :: rest => rest
    | rest => rest
  if digits.isEmpty || !digits.all Char.isDigit then none
  else
    let n : Nat := digits.foldl (fun acc c => acc * 10 + (c.toNat - 48)) 0
    if n < UInt32.size then some n.toUInt32 else none

namespace UpdatePolicy

/-- Reads an update policy word from trimmed text. -/
def ofWord? (w : String) : Option UpdatePolicy :=
  if w == "always" then some .always
  else if w == "daily" then some .daily
  else if w == "never" then some .never
  else match w.toList with
    | 'i' :: 'n' :: 't' :: 'e' :: 'r' :: 'v' :: 'a' :: 'l' :: ':' :: rest =>
      (minutesOf? rest).map .interval
    | _ => none

/-- Reads an update policy: the text is trimmed first. -/
def parse? (s : String) : Option UpdatePolicy :=
  ofWord? (Text.trim s)

/-- The word of an update policy. -/
def render : UpdatePolicy → String
  | .always => "always"
  | .daily => "daily"
  | .never => "never"
  | .interval m => "interval:" ++ toString m.toNat

end UpdatePolicy

namespace ChecksumPolicy

/-- Reads a checksum policy: the text is trimmed first. -/
def parse? (s : String) : Option ChecksumPolicy :=
  let w := Text.trim s
  if w == "fail" then some .fail
  else if w == "warn" then some .warn
  else if w == "ignore" then some .ignore
  else none

/-- The word of a checksum policy. -/
def render : ChecksumPolicy → String
  | .fail => "fail"
  | .warn => "warn"
  | .ignore => "ignore"

end ChecksumPolicy

/-- A channel's policy as configured: absent checks fall back to their defaults. -/
structure RepositoryPolicy where
  enabled : Bool := true
  updatePolicy : Option UpdatePolicy := none
  checksumPolicy : Option ChecksumPolicy := none
deriving DecidableEq, Repr, Inhabited

namespace RepositoryPolicy

/-- An enabled channel with default checks. -/
def enabledChannel : RepositoryPolicy := {}

/-- A disabled channel. -/
def disabledChannel : RepositoryPolicy := { enabled := false }

end RepositoryPolicy

/-- The policy a channel is used with. -/
structure EffectivePolicy where
  enabled : Bool
  update : UpdatePolicy
  checksum : ChecksumPolicy
deriving DecidableEq, Repr, Inhabited

namespace EffectivePolicy

/-- Settles a configured policy: an absent one is enabled, checked daily, and warns. -/
def ofConfig : Option RepositoryPolicy → EffectivePolicy
  | none => ⟨true, .daily, .warn⟩
  | some p => ⟨p.enabled, p.updatePolicy.getD .daily, p.checksumPolicy.getD .warn⟩

/-- `enabled` or `disabled`. -/
def status (p : EffectivePolicy) : String :=
  if p.enabled then "enabled" else "disabled"

end EffectivePolicy

end RepoRouting
