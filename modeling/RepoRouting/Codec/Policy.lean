import RepoRouting.Doc.Decode
import RepoRouting.Error
import RepoRouting.Policy
/-!
# Policies in documents

A configured policy is the mapping `{enabled, updatePolicy?, checksumPolicy?}`; `enabled`
defaults to true. A policy word is read as a text and then as a policy; a word that is not
one is reported at the enclosing mapping, with the settings error's words. The effective
policy is written `{enabled, update, checksum}` with the policies' words, and read back
from them with every field required.
-/

namespace RepoRouting.Codec

open Doc

/-- An optional field of a written mapping: present only with a value. -/
def optField (key : String) (v : Option α) (f : α → Node) : List (String × Node) :=
  match v with
  | some a => [(key, f a)]
  | none => []

/-- A text written as a string node. -/
def textNode (s : String) : Node := .ofString s

/-- A boolean node. -/
def boolNode (b : Bool) : Node := .ofScalar (.bool b)

/-- Reads an update policy word. -/
def readUpdatePolicy (r : Reader) (p : Path) (n : Node) : Except DecodeError UpdatePolicy := do
  let s ← r.string "a string" p n
  match UpdatePolicy.parse? s with
  | some u => .ok u
  | none => fail (SettingsError.invalidUpdatePolicy s).message

/-- Reads a checksum policy word. -/
def readChecksumPolicy (r : Reader) (p : Path) (n : Node) :
    Except DecodeError ChecksumPolicy := do
  let s ← r.string "a string" p n
  match ChecksumPolicy.parse? s with
  | some c => .ok c
  | none => fail (SettingsError.invalidChecksumPolicy s).message

/-- A configured policy as readers see it. -/
def policyShape : Shape :=
  ⟨"struct RepositoryPolicy",
    [("enabled", false), ("updatePolicy", false), ("checksumPolicy", false)], true⟩

/-- The fields of a configured policy read so far. -/
structure PolicyDraft where
  enabled : Option Bool := none
  updatePolicy : Option (Option UpdatePolicy) := none
  checksumPolicy : Option (Option ChecksumPolicy) := none

/-- Reads a configured policy. -/
def readPolicy (r : Reader) (p : Path) (n : Node) : Except DecodeError RepositoryPolicy :=
  r.record policyShape p n ({} : PolicyDraft)
    (fun d k kp v => match k with
      | "enabled" => do
        let x ← setOnce "enabled" d.enabled (r.bool kp v)
        .ok { d with enabled := x }
      | "updatePolicy" => do
        let x ← setOnce "updatePolicy" d.updatePolicy (r.optional (readUpdatePolicy r) kp v)
        .ok { d with updatePolicy := x }
      | "checksumPolicy" => do
        let x ← setOnce "checksumPolicy" d.checksumPolicy
          (r.optional (readChecksumPolicy r) kp v)
        .ok { d with checksumPolicy := x }
      | _ => .ok d)
    (fun d => .ok
      { enabled := d.enabled.getD true
        updatePolicy := d.updatePolicy.getD none
        checksumPolicy := d.checksumPolicy.getD none })

/-- A configured policy as written: checks left out stay out. -/
def policyNode (x : RepositoryPolicy) : Node :=
  .ofFields ([("enabled", boolNode x.enabled)] ++
    optField "updatePolicy" x.updatePolicy (fun u => textNode u.render) ++
    optField "checksumPolicy" x.checksumPolicy (fun c => textNode c.render))

/-- An effective policy as written. -/
def effectiveNode (x : EffectivePolicy) : Node :=
  .ofFields [("enabled", boolNode x.enabled), ("update", textNode x.update.render),
    ("checksum", textNode x.checksum.render)]

/-- An effective policy as readers see it: every field must be given. -/
def effectiveShape : Shape :=
  ⟨"struct EffectivePolicy", [("enabled", true), ("update", true), ("checksum", true)], true⟩

/-- The fields of an effective policy read so far. -/
structure EffectiveDraft where
  enabled : Option Bool := none
  update : Option UpdatePolicy := none
  checksum : Option ChecksumPolicy := none

/-- Reads an effective policy; every field is required. -/
def readEffective (r : Reader) (p : Path) (n : Node) : Except DecodeError EffectivePolicy :=
  r.record effectiveShape p n ({} : EffectiveDraft)
    (fun d k kp v => match k with
      | "enabled" => do
        let x ← setOnce "enabled" d.enabled (r.bool kp v)
        .ok { d with enabled := x }
      | "update" => do
        let x ← setOnce "update" d.update (readUpdatePolicy r kp v)
        .ok { d with update := x }
      | "checksum" => do
        let x ← setOnce "checksum" d.checksum (readChecksumPolicy r kp v)
        .ok { d with checksum := x }
      | _ => .ok d)
    (fun d => do
      let enabled ← required "enabled" d.enabled
      let update ← required "update" d.update
      let checksum ← required "checksum" d.checksum
      .ok ⟨enabled, update, checksum⟩)

end RepoRouting.Codec
