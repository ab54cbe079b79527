import RepoIdentity.Main
import RepoIdentity.Reference.Hashing
import RepoIdentity.Proofs.Percent
import RepoIdentity.Proofs.Text
import RepoIdentity.Proofs.Domain
import RepoIdentity.Proofs.Mapping
import RepoIdentity.Proofs.Numeral
import RepoIdentity.Proofs.Address
import RepoIdentity.Proofs.Authority
import RepoIdentity.Proofs.Network
import RepoIdentity.Proofs.Hosted
import RepoIdentity.Proofs.Spelling
import RepoIdentity.Proofs.RoundTrip
import RepoIdentity.Proofs.Elaboration
import RepoIdentity.Proofs.Shorthand
import RepoIdentity.Proofs.Run
import RepoIdentity.Proofs.Sameness
import RepoIdentity.Proofs.Printable
import RepoIdentity.Proofs.Normalization
import RepoIdentity.Proofs.Decoration
import RepoIdentity.Proofs.OpaqueHost
import RepoIdentity.Proofs.Flags
import RepoIdentity.Proofs.Action
import RepoIdentity.Proofs.Loading
import RepoIdentity.Proofs.Steps
import RepoIdentity.Proofs.Message
import RepoIdentity.Proofs.Output
import RepoIdentity.Proofs.ParseCommand
import RepoIdentity.Proofs.AbsentFlags
import RepoIdentity.Proofs.Strictness
import RepoIdentity.Proofs.Arguments
import RepoIdentity.Proofs.Json
import RepoIdentity.Proofs.Lossless
import RepoIdentity.Proofs.Toml
import RepoIdentity.Proofs.Settings
import RepoIdentity.Proofs.Username
import RepoIdentity.Proofs.FilePath
import RepoIdentity.Proofs.FixedHost
import RepoIdentity.Proofs.Hostless
import RepoIdentity.Proofs.Refusal
import RepoIdentity.Proofs.Comparison
import RepoIdentity.Proofs.Description
import RepoIdentity.Proofs.ValidateCommand
import RepoIdentity.Proofs.OwnerName
import RepoIdentity.Proofs.DisplayKey
