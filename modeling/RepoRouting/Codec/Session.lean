import RepoRouting.Codec.Settings
import RepoRouting.Session
/-!
# Sessions in documents

A collected repository is written `{id, url, layout, releases, snapshots, authentication?,
proxy?, mirroredFrom?}`, with effective policies and without secrets; a session
`{local, remotes, offline}` with the local repository as `{path, layout}`.
-/

namespace RepoRouting.Codec

open Doc

/-- Where a mirrored repository came from, as written. -/
def originNode (o : Origin) : Node :=
  .ofFields [("id", textNode o.id), ("url", textNode o.url)]

/-- A collected repository as written. -/
def resolvedNode (r : Resolved) : Node :=
  .ofFields ([("id", textNode r.id), ("url", textNode r.url), ("layout", textNode r.layout),
    ("releases", effectiveNode r.releases), ("snapshots", effectiveNode r.snapshots)] ++
    optField "authentication" r.authentication authenticationNode ++
    optField "proxy" r.proxy proxyNode ++ optField "mirroredFrom" r.mirroredFrom originNode)

/-- A session as written. -/
def sessionNode (s : Session) : Node :=
  .ofFields [("local", localRepoNode s.localRepo), ("remotes", .ofList (s.remotes.map resolvedNode)),
    ("offline", boolNode s.offline)]

end RepoRouting.Codec
