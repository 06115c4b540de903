import RepoRouting.Text.Blank
import RepoRouting.Unicode.UnprintableData
import RepoRouting.Text.Quote
import RepoRouting.Digest.Md5
import RepoRouting.Doc.Node
import RepoRouting.Doc.Plain
import RepoRouting.Doc.Decode
import RepoRouting.Policy
import RepoRouting.Repository
import RepoRouting.Settings
import RepoRouting.Error
import RepoRouting.Codec.Policy
import RepoRouting.Codec.Repository
import RepoRouting.Codec.Settings
import RepoRouting.Unicode.Table
import RepoRouting.Unicode.IdnaMappingData
import RepoRouting.Unicode.BidiClassData
import RepoRouting.Unicode.MarkData
import RepoRouting.Unicode.JoiningTypeData
import RepoRouting.Unicode.Props
import RepoRouting.Unicode.NormalizationData
import RepoRouting.Unicode.Normalization
import RepoRouting.Url.Punycode
import RepoRouting.Url.Idna
import RepoRouting.Url.Host
import RepoRouting.Mirror
import RepoRouting.Unicode.UppercaseData
import RepoRouting.Unicode.Case
import RepoRouting.Credentials
import RepoRouting.Registry
import RepoRouting.Log
import RepoRouting.Collect
import RepoRouting.Session
import RepoRouting.Build
import RepoRouting.Codec.Session
import RepoRouting.Codec.Build
import RepoRouting.Yaml.Cursor
import RepoRouting.Yaml.Token
import RepoRouting.Yaml.Scalar
import RepoRouting.Yaml.Lexer
import RepoRouting.Yaml.Event
import RepoRouting.Yaml.Document
import RepoRouting.Files
import RepoRouting.Load
import RepoRouting.Workspace
import RepoRouting.Doc.Json
import RepoRouting.Doc.JsonText
import RepoRouting.Unicode.WidthData
import RepoRouting.Unicode.LetterData
import RepoRouting.Unicode.LineBreakData
import RepoRouting.Text.Width
import RepoRouting.Text.LineBreak
import RepoRouting.Text.Wrap
import RepoRouting.Number.Decimal
import RepoRouting.Log.Pattern
import RepoRouting.Log.Filter
import RepoRouting.Number.Binary64
import RepoRouting.Number.Shortest
import RepoRouting.Number.Notation
import RepoRouting.Text.Similarity
import RepoRouting.Cli.Spec
import RepoRouting.Cli.Help
import RepoRouting.Cli.Parse
import RepoRouting.Cli.Report
import RepoRouting.Cli.Output
import RepoRouting.Cli.Run
import RepoRouting.Main
import RepoRouting.Proofs.FirstByKey
import RepoRouting.Proofs.Prepare
import RepoRouting.Proofs.Collection
import RepoRouting.Proofs.Reading
import RepoRouting.Proofs.PolicyWords
import RepoRouting.Proofs.RoundTrip
import RepoRouting.Proofs.MirrorPatterns
import RepoRouting.Proofs.Registrations
import RepoRouting.Proofs.Secrets
import RepoRouting.Proofs.References
import RepoRouting.Proofs.SettingsMerge
