import CredentialCheck.Document.Session
import CredentialCheck.ErrorFamily
import CredentialCheck.Log.Session
import CredentialCheck.Main
import CredentialCheck.Validation
import CredentialCheck.Value.SetOrder
import CredentialCheck.Proofs.Pattern.FirstUse
import CredentialCheck.Proofs.Json.Grammar
import CredentialCheck.Proofs.Text.Utf8
import CredentialCheck.Proofs.Json.Scalars
import CredentialCheck.Proofs.Json.Strings
import CredentialCheck.Proofs.Json.Complete
import CredentialCheck.Proofs.Json.Writer
import CredentialCheck.Proofs.Document.Complaint
import CredentialCheck.Proofs.Document.RoundTrip
import CredentialCheck.Proofs.Document.Origins
import CredentialCheck.Proofs.FileSystem.Reading
import CredentialCheck.Proofs.Pattern.Shared
import CredentialCheck.Proofs.CommandLine.Arguments
import CredentialCheck.Proofs.CommandLine.Yields
import CredentialCheck.Proofs.CommandLine.Lines
import CredentialCheck.Proofs.Log.Growing
import CredentialCheck.Proofs.CommandLine.Growing
import CredentialCheck.Proofs.CommandLine.Traces
import CredentialCheck.Proofs.CommandLine.Report
import CredentialCheck.Proofs.CommandLine.Files
import CredentialCheck.Proofs.Pattern.Matching
import CredentialCheck.Proofs.Identifier.Forms
import CredentialCheck.Proofs.Document.Rules
import CredentialCheck.Proofs.Log.Handlers
import CredentialCheck.Proofs.Pattern.Turns
import CredentialCheck.Proofs.Pattern.Touches
import CredentialCheck.Proofs.Text.Decoding
import CredentialCheck.Proofs.Json.SoundScalars
import CredentialCheck.Proofs.Json.SoundStrings
import CredentialCheck.Proofs.Json.Sound
import CredentialCheck.Proofs.Text.LineEnding
import CredentialCheck.Proofs.Json.LineEndings
import CredentialCheck.Proofs.CommandLine.Routes
import CredentialCheck.Proofs.CommandLine.Interleaving
import CredentialCheck.Proofs.FileSystem.Writing
import CredentialCheck.Proofs.FileSystem.Rolling
import CredentialCheck.Proofs.Log.Reach
import CredentialCheck.Proofs.CommandLine.Statuses
import CredentialCheck.Proofs.Log.Entries
import CredentialCheck.Proofs.CommandLine.SideBySide
import CredentialCheck.Proofs.CommandLine.Opening
import CredentialCheck.Proofs.CommandLine.Aftermath
import CredentialCheck.Proofs.CommandLine.LogOptions
import CredentialCheck.Proofs.CommandLine.Records
import CredentialCheck.Proofs.CommandLine.Journal
import CredentialCheck.Proofs.Json.Nesting
import CredentialCheck.Proofs.Document.Syntax
import CredentialCheck.Proofs.Identifier.Recognition
import CredentialCheck.Proofs.Document.Issues
import CredentialCheck.Proofs.Document.Spellings
import CredentialCheck.Proofs.ErrorFamily.Grouping
import CredentialCheck.Proofs.Value.Hashing
import CredentialCheck.Proofs.Value.Parts
import CredentialCheck.Proofs.Document.Reloading
import CredentialCheck.Proofs.Template.Scanning
import CredentialCheck.Proofs.Template.Filling
import CredentialCheck.Proofs.Template.Insertion
import CredentialCheck.Proofs.Template.Renaming
import CredentialCheck.Proofs.Template.Numbering
import CredentialCheck.Proofs.Text.Capitals
import CredentialCheck.Proofs.CommandLine.LevelNames
import CredentialCheck.Proofs.Pattern.Folding
import CredentialCheck.Proofs.Identifier.Flags
import CredentialCheck.Proofs.Text.Quoting
import CredentialCheck.Proofs.ErrorFamily.Details
import CredentialCheck.Proofs.Log.Release
