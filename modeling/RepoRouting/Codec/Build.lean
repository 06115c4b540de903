import RepoRouting.Codec.Settings
import RepoRouting.Build
/-!
# Build files in documents

A named definition is its `name` with a remote configuration's fields beside it: `name` is
read in place, the other entries are gathered and the configuration is read from those whose
keys are its fields. The project definition is `{repositories}`.
-/

namespace RepoRouting.Codec

open Doc

/-- A named definition as readers see it: `name` must be given, and as a remote
configuration's fields stand beside it, it is only read from a mapping. -/
def namedRepoShape : Shape := ⟨"struct NamedRepository", [("name", true)], false⟩

/-- The fields of a named definition read so far, with the gathered other entries. -/
structure NamedDraft where
  name : Option String := none
  rest : List (Node × Node) := []

/-- Reads a named definition; `name` is required. -/
def readNamedRepo (r : Reader) (p : Path) (n : Node) : Except DecodeError NamedRepo :=
  r.record namedRepoShape p n ({} : NamedDraft)
    (fun d k kp v => match k with
      | "name" => do
        let x ← setOnce "name" d.name (r.string "a string" kp v)
        .ok { d with name := x }
      | _ => do
        let e ← gatherEntry r kp k v
        .ok { d with rest := d.rest ++ [e] })
    (fun d => do
      let name ← required "name" d.name
      let repo ← readRemote r.gathered p (.map (takeFields remoteKeys d.rest) none {} true)
      .ok { name, repo })

/-- A named definition as written: the name, then the configuration's fields. -/
def namedRepoNode (x : NamedRepo) : Node :=
  .ofFields ([("name", textNode x.name)] ++ remoteFields x.repo)

/-- A project definition as readers see it. -/
def projectShape : Shape := ⟨"struct ProjectDefinition", [("repositories", false)], true⟩

/-- Reads a project definition. -/
def readProject (r : Reader) (p : Path) (n : Node) : Except DecodeError (List ProjectRepo) :=
  r.record projectShape p n (none : Option (List ProjectRepo))
    (fun d k kp v => match k with
      | "repositories" => setOnce "repositories" d (r.list (readProjectRepo r) kp v)
      | _ => .ok d)
    (fun d => .ok (d.getD []))

/-- A build file as readers see it: every field has a default. -/
def buildShape : Shape :=
  ⟨"struct BuildConfig", [("settings", false), ("globalSettings", false),
    ("localRepository", false), ("references", false), ("repositories", false),
    ("project", false)], true⟩

/-- The fields of a build file read so far. -/
structure BuildDraft where
  settings : Option (Option String) := none
  globalSettings : Option (Option String) := none
  localRepository : Option (Option String) := none
  references : Option (List NamedRepo) := none
  repositories : Option (List RemoteConfig) := none
  project : Option (List ProjectRepo) := none

/-- Reads a build file; every field has a default. -/
def readBuild (r : Reader) (p : Path) (n : Node) : Except DecodeError BuildFile :=
  r.record buildShape p n ({} : BuildDraft)
    (fun d k kp v => match k with
      | "settings" => do
        let x ← setOnce "settings" d.settings (r.optional (readPath r) kp v)
        .ok { d with settings := x }
      | "globalSettings" => do
        let x ← setOnce "globalSettings" d.globalSettings (r.optional (readPath r) kp v)
        .ok { d with globalSettings := x }
      | "localRepository" => do
        let x ← setOnce "localRepository" d.localRepository (r.optional (readPath r) kp v)
        .ok { d with localRepository := x }
      | "references" => do
        let x ← setOnce "references" d.references (r.list (readNamedRepo r) kp v)
        .ok { d with references := x }
      | "repositories" => do
        let x ← setOnce "repositories" d.repositories (r.list (readRemote r) kp v)
        .ok { d with repositories := x }
      | "project" => do
        let x ← setOnce "project" d.project (readProject r kp v)
        .ok { d with project := x }
      | _ => .ok d)
    (fun d => .ok
      { settings := d.settings.getD none, globalSettings := d.globalSettings.getD none
        localRepository := d.localRepository.getD none, references := d.references.getD []
        repositories := d.repositories.getD [], project := d.project.getD [] })

/-- A build file as written. -/
def buildNode (b : BuildFile) : Node :=
  .ofFields (optField "settings" b.settings textNode ++
    optField "globalSettings" b.globalSettings textNode ++
    optField "localRepository" b.localRepository textNode ++
    [("references", .ofList (b.references.map namedRepoNode)),
     ("repositories", .ofList (b.repositories.map remoteNode)),
     ("project", .ofFields [("repositories", .ofList (b.project.map projectRepoNode))])])

end RepoRouting.Codec
