import MaskedLiterals.ArrayRange
import MaskedLiterals.ArrayStore
import MaskedLiterals.Command.Action
import MaskedLiterals.Command.Changes
import MaskedLiterals.Command.Reports
import MaskedLiterals.Command.Strings
import MaskedLiterals.CommandLine.Argument
import MaskedLiterals.CommandLine.Invocation
import MaskedLiterals.Config
import MaskedLiterals.Config.File
import MaskedLiterals.Config.Load
import MaskedLiterals.Config.Shown
import MaskedLiterals.Dialect
import MaskedLiterals.Disk
import MaskedLiterals.FileFailure
import MaskedLiterals.Json
import MaskedLiterals.Log
import MaskedLiterals.Log.Filter
import MaskedLiterals.Main
import MaskedLiterals.Numeral
import MaskedLiterals.NumeralBase
import MaskedLiterals.Pattern
import MaskedLiterals.Pattern.CharSet
import MaskedLiterals.Pattern.Cursor
import MaskedLiterals.Pattern.Expression
import MaskedLiterals.Pattern.Fault
import MaskedLiterals.Pattern.Meaning
import MaskedLiterals.Pattern.OctetForm
import MaskedLiterals.Pattern.Property
import MaskedLiterals.Pattern.Reading
import MaskedLiterals.Pattern.Room
import MaskedLiterals.Program
import MaskedLiterals.Refusal
import MaskedLiterals.SampleTable
import MaskedLiterals.Scan
import MaskedLiterals.Session
import MaskedLiterals.Splice
import MaskedLiterals.Text.Age
import MaskedLiterals.Text.Blank
import MaskedLiterals.Text.CaseVariants
import MaskedLiterals.Text.Category
import MaskedLiterals.Text.CodeSet
import MaskedLiterals.Text.ControlFunction
import MaskedLiterals.Text.Letter
import MaskedLiterals.Text.Property
import MaskedLiterals.Text.Quoted
import MaskedLiterals.Text.Script
import MaskedLiterals.Text.Segmentation
import MaskedLiterals.Text.Slice
import MaskedLiterals.Text.Unprintable
import MaskedLiterals.Token
import MaskedLiterals.Toml.Document
import MaskedLiterals.Toml.Quote
import MaskedLiterals.Toml.Scalar
import MaskedLiterals.Toml.Value
import MaskedLiterals.Toml.Written
import MaskedLiterals.Word
import MaskedLiterals.Proofs.ExactCut
import MaskedLiterals.Proofs.ScanExactness
import MaskedLiterals.Proofs.Outcome
import MaskedLiterals.Proofs.SpliceReadback
import MaskedLiterals.Proofs.SpliceCopy
import MaskedLiterals.Proofs.DiskWrite
import MaskedLiterals.Proofs.SettingsFiles
import MaskedLiterals.Proofs.SessionRun
import MaskedLiterals.Proofs.SessionInvariant
import MaskedLiterals.Proofs.HiddenText
import MaskedLiterals.Proofs.SavedEdits
import MaskedLiterals.Proofs.FileTargets
import MaskedLiterals.Proofs.SaveEffect
import MaskedLiterals.Proofs.UntouchedArray
import MaskedLiterals.Proofs.SameValues
import MaskedLiterals.Proofs.ArrayRuns
import MaskedLiterals.Proofs.Listing
import MaskedLiterals.Proofs.ActionEnds
import MaskedLiterals.Proofs.CommandOptions
import MaskedLiterals.Proofs.EditCommand
import MaskedLiterals.Proofs.CommandFrame
import MaskedLiterals.Proofs.DryRun
import MaskedLiterals.Proofs.LeadingFlags
import MaskedLiterals.Proofs.QuietAndForce
import MaskedLiterals.Proofs.WholeLiteral
import MaskedLiterals.Proofs.RangeOutcome
import MaskedLiterals.Proofs.Reentry
import MaskedLiterals.Proofs.KeyChoice
import MaskedLiterals.Proofs.CanonicalForm
import MaskedLiterals.Proofs.NumeralGrammar
import MaskedLiterals.Proofs.FreshOpen
import MaskedLiterals.Proofs.SeparatedTexts
import MaskedLiterals.Proofs.SampleRows
import MaskedLiterals.Proofs.ShownNumber
import MaskedLiterals.Proofs.VerboseRange
import MaskedLiterals.Proofs.ShownSettings
