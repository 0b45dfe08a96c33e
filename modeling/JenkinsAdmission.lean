import JenkinsAdmission.Unicode.Alphanumeric
import JenkinsAdmission.Unicode.LowerCase
import JenkinsAdmission.Unicode.Numeric
import JenkinsAdmission.Unicode.Printable
import JenkinsAdmission.Unicode.Utf8
import JenkinsAdmission.Base64
import JenkinsAdmission.Markup
import JenkinsAdmission.Key.Pem
import JenkinsAdmission.Key.Rsa
import JenkinsAdmission.Key.Curve
import JenkinsAdmission.Key.Verdict
import JenkinsAdmission.Number.Shortest
import JenkinsAdmission.Number.Numeral
import JenkinsAdmission.Value.Written
import JenkinsAdmission.Table
import JenkinsAdmission.Resource.Address
import JenkinsAdmission.Platform
import JenkinsAdmission.Run
import JenkinsAdmission.Secret.Api
import JenkinsAdmission.Gate.Notes
import JenkinsAdmission.Yaml.Document
import JenkinsAdmission.BuiltIn
import JenkinsAdmission.Manifest.Secrets
import JenkinsAdmission.Session
import JenkinsAdmission.Main
import JenkinsAdmission.Proofs.Gate.Verdict
import JenkinsAdmission.Proofs.Gate.Lookups
import JenkinsAdmission.Proofs.Gate.Confinement
import JenkinsAdmission.Proofs.Manifest.Offline
import JenkinsAdmission.Proofs.Command.Refinement
import JenkinsAdmission.Proofs.Gate.Diagnostics
import JenkinsAdmission.Proofs.Manifest.Breakdown
import JenkinsAdmission.Proofs.Session
import JenkinsAdmission.Proofs.Gate.Warnings
import JenkinsAdmission.Proofs.Gate.Reordering
import JenkinsAdmission.Proofs.Cluster
import JenkinsAdmission.Proofs.Command.Approach
import JenkinsAdmission.Proofs.Value.Same
import JenkinsAdmission.Proofs.Manifest.Relevance
import JenkinsAdmission.Proofs.Command.Irrelevance
import JenkinsAdmission.Proofs.Key.Tampering
import JenkinsAdmission.Proofs.Key.PrivateOperation
import JenkinsAdmission.Proofs.Key.Selection
import JenkinsAdmission.Proofs.Base64
import JenkinsAdmission.Proofs.Key.LineEnds
import JenkinsAdmission.Proofs.Key.Armour
import JenkinsAdmission.Proofs.Key.Classification
import JenkinsAdmission.Proofs.Secret.Contract
import JenkinsAdmission.Proofs.Manifest.Composition
import JenkinsAdmission.Proofs.Base64.Acceptance
import JenkinsAdmission.Proofs.Base64.Refusal
import JenkinsAdmission.Proofs.Secret.RoundTrip
import JenkinsAdmission.Proofs.Manifest.Grammar
import JenkinsAdmission.Proofs.Manifest.Reading
import JenkinsAdmission.Proofs.Resource.SshAddress
import JenkinsAdmission.Proofs.Command.ErrorLine
import JenkinsAdmission.Proofs.Manifest.FirstDefect
import JenkinsAdmission.Proofs.Manifest.FieldKinds
import JenkinsAdmission.Proofs.Markup.Highlight
import JenkinsAdmission.Proofs.Command.OwnTags
