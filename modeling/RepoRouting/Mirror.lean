import RepoRouting.Settings
import RepoRouting.Url.Host
/-!
# Mirror patterns

A mirror serves the repositories its `mirrorOf` pattern names. The pattern `*` and a
pattern equal to the id match at once. Otherwise the pattern is a comma-separated list of
terms, each trimmed of blanks:

* `!name` (with a nonempty name) excludes that id, wherever it stands in the list;
* `*` matches every id, the id itself matches itself;
* `external:*` matches every repository whose url is external (`Url.isExternal`);
* anything else, a bare `!` included, is an id that matches only itself.

A repository's mirror is the first mirror whose pattern is exactly its id, or else the
first mirror whose pattern matches.
-/

namespace RepoRouting

/-- The terms of a pattern, trimmed. -/
def patternTerms (pattern : String) : List String :=
  (pattern.splitOn ",").map Text.trim

/-- The excluded id of a term `!name` with a nonempty name. -/
def excludedId? (term : String) : Option String :=
  match term.toList with
  | '!' :: rest@(_ :: _) => some (String.ofList rest)
  | _ => none

/-- Whether one term that is not an exclusion admits a repository. -/
def termAdmits (id url term : String) : Bool :=
  term == id || term == "*" || (term == "external:*" && Url.isExternal url)

/-- Scans the terms: an exclusion of the id answers `false` at once; otherwise the answer
is whether some term admitted the repository. -/
def scanTerms (id url : String) : List String → Bool → Bool
  | [], matched => matched
  | t :: ts, matched =>
    match excludedId? t with
    | some name => if name == id then false else scanTerms id url ts matched
    | none => scanTerms id url ts (matched || termAdmits id url t)

/-- Whether a mirror pattern names a repository. -/
def matchesPattern (id url pattern : String) : Bool :=
  pattern == "*" || pattern == id || scanTerms id url (patternTerms pattern) false

/-- The mirror serving a repository, with its position in the list: an exact pattern
first, else the first matching one. -/
def findMirror (id url : String) (mirrors : List Mirror) : Option (Mirror × Nat) :=
  match mirrors.zipIdx.find? (fun (m, _) => m.mirrorOf == id) with
  | some found => some found
  | none => mirrors.zipIdx.find? (fun (m, _) => matchesPattern id url m.mirrorOf)

end RepoRouting
