import HandStudy.Cache
import HandStudy.Main
import HandStudy.Store.Session
import HandStudy.Proofs.Ordered
import HandStudy.Proofs.Cache
import HandStudy.Proofs.Classification
import HandStudy.Proofs.Decode
import HandStudy.Proofs.Floats
import HandStudy.Proofs.Resolution
import HandStudy.Proofs.Narrowing
import HandStudy.Proofs.ActionSequence
import HandStudy.Proofs.Survivors
import HandStudy.Proofs.PositionFilter
import HandStudy.Proofs.Texture
import HandStudy.Proofs.Keyed
import HandStudy.Proofs.Store.Import
import HandStudy.Proofs.Store.Run
import HandStudy.Proofs.Store.Load
import HandStudy.Proofs.Store.Rollback
import HandStudy.Proofs.Profile
import HandStudy.Proofs.Store.Sound
import HandStudy.Proofs.Store.Merge
import HandStudy.Proofs.Store.Defaults
import HandStudy.Proofs.WellFormed
import HandStudy.Proofs.Store.Coherent
import HandStudy.Proofs.Session
import HandStudy.Proofs.Rearranged
import HandStudy.Proofs.Store.Bounds
import HandStudy.Proofs.Store.Interchange
import HandStudy.Proofs.Json.Numbers
import HandStudy.Proofs.Json.Numeric
import HandStudy.Proofs.Json.Scanner
import HandStudy.Proofs.Json.RoundTrip
import HandStudy.Proofs.Store.Admission
import HandStudy.Proofs.Store.Repeat
import HandStudy.Proofs.Store.ProfileLinks
import HandStudy.Proofs.Store.Tampering
import HandStudy.Proofs.Text.Lines
import HandStudy.Proofs.Text.Blank
import HandStudy.Proofs.FlopText
import HandStudy.Proofs.Json.Lines
import HandStudy.Proofs.Cli.Transcript
import HandStudy.Proofs.Cli.Reports
import HandStudy.Proofs.Cli.HandFile
import HandStudy.Proofs.Cli.Classify
import HandStudy.Proofs.Cli.Resolve
import HandStudy.Proofs.Store.Requirements
import HandStudy.Proofs.Pattern.Matching
import HandStudy.Proofs.TagRule
import HandStudy.Proofs.Cli.Outcomes
import HandStudy.Proofs.Json.Canonical
import HandStudy.Proofs.Json.Latitude
import HandStudy.Proofs.Encoding
import HandStudy.Proofs.TagRule.Tidied
import HandStudy.Proofs.Documents
import HandStudy.Proofs.Text.Letters
import HandStudy.Proofs.GameFormat
import HandStudy.Proofs.TagRule.Textures
import HandStudy.Proofs.Card
import HandStudy.Proofs.Settings
import HandStudy.Proofs.Warnings
import HandStudy.Proofs.Cli.Refusals
import HandStudy.Proofs.Zstd
