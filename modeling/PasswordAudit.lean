import PasswordAudit.CharacterClass
import PasswordAudit.Checklist
import PasswordAudit.CommandLine.Arguments
import PasswordAudit.CommandLine.LogFile
import PasswordAudit.CommandLine.Run
import PasswordAudit.CommandLine.Usage
import PasswordAudit.Decimal.Binary64
import PasswordAudit.Decimal.Fixed
import PasswordAudit.Decimal.Shortest
import PasswordAudit.Decimal.Significant
import PasswordAudit.Decimal.Whole
import PasswordAudit.Evaluation
import PasswordAudit.Failure
import PasswordAudit.Files.Basic
import PasswordAudit.Files.Tree
import PasswordAudit.Inspection.Check
import PasswordAudit.Inspection.Inspector
import PasswordAudit.Keeper
import PasswordAudit.Lexicon.Basic
import PasswordAudit.Lexicon.Load
import PasswordAudit.Lexicon.Search
import PasswordAudit.Log
import PasswordAudit.Main
import PasswordAudit.Pattern.Basic
import PasswordAudit.Pattern.Catalogue
import PasswordAudit.Pattern.Directives
import PasswordAudit.Pattern.Fault
import PasswordAudit.Pattern.Fill
import PasswordAudit.Pattern.Letters
import PasswordAudit.Pattern.NumberStyle
import PasswordAudit.Pattern.Reach
import PasswordAudit.Pattern.Stamp
import PasswordAudit.Pattern.Style
import PasswordAudit.Pattern.TextStyle
import PasswordAudit.Pattern.Value
import PasswordAudit.Policy.Basic
import PasswordAudit.Policy.Count
import PasswordAudit.Policy.Draft
import PasswordAudit.Proofs.Checklist
import PasswordAudit.Proofs.CommandLine.Arguments
import PasswordAudit.Proofs.Decimal.Whole
import PasswordAudit.Proofs.Evaluation
import PasswordAudit.Proofs.Except
import PasswordAudit.Proofs.Inspection.Answers
import PasswordAudit.Proofs.Inspection.Runs
import PasswordAudit.Proofs.Inspection.Survey
import PasswordAudit.Proofs.Keeper.Runs
import PasswordAudit.Proofs.Lexicon.Entries
import PasswordAudit.Proofs.Lexicon.Load
import PasswordAudit.Proofs.Lexicon.Normal
import PasswordAudit.Proofs.Lexicon.Reload
import PasswordAudit.Proofs.Lexicon.Search
import PasswordAudit.Proofs.Lexicon.Union
import PasswordAudit.Proofs.Lexicon.Words
import PasswordAudit.Proofs.Pattern.Fill
import PasswordAudit.Proofs.Policy.Acceptance
import PasswordAudit.Proofs.Policy.Ageing
import PasswordAudit.Proofs.Policy.Consistency
import PasswordAudit.Proofs.Policy.Draft
import PasswordAudit.Proofs.Policy.Expiry
import PasswordAudit.Proofs.Policy.Growth
import PasswordAudit.Proofs.Policy.Meaning
import PasswordAudit.Proofs.Policy.Promises
import PasswordAudit.Proofs.Policy.Relaxation
import PasswordAudit.Proofs.Rule.Grammar
import PasswordAudit.Proofs.Rule.RoundTrip
import PasswordAudit.Proofs.Settings.Failures
import PasswordAudit.Proofs.Strength
import PasswordAudit.Proofs.Text.CaseFold
import PasswordAudit.Proofs.Text.Cut
import PasswordAudit.Proofs.Text.Lines
import PasswordAudit.Proofs.Text.Numeral
import PasswordAudit.Proofs.Text.Runs
import PasswordAudit.Proofs.Text.Strip
import PasswordAudit.Proofs.Text.Utf8
import PasswordAudit.Proofs.Time.Moment
import PasswordAudit.Rule.Basic
import PasswordAudit.Rule.Notation
import PasswordAudit.Settings.Basic
import PasswordAudit.Settings.IntegerText
import PasswordAudit.Settings.Issue
import PasswordAudit.Settings.Policy
import PasswordAudit.Settings.Reading
import PasswordAudit.Settings.Report
import PasswordAudit.Strength
import PasswordAudit.Text.Basic
import PasswordAudit.Text.Blank
import PasswordAudit.Text.Capital
import PasswordAudit.Text.CaseFold
import PasswordAudit.Text.DecimalDigit
import PasswordAudit.Text.Distinct
import PasswordAudit.Text.Lines
import PasswordAudit.Text.Printable
import PasswordAudit.Text.Quoted
import PasswordAudit.Text.Utf8
import PasswordAudit.Text.Wrap
import PasswordAudit.Time.Calendar
import PasswordAudit.Time.Iso
import PasswordAudit.Time.Moment
import PasswordAudit.Time.Parts
import PasswordAudit.Value.Basic
import PasswordAudit.Value.Comparison
import PasswordAudit.Violation
import PasswordAudit.Proofs.CommandLine.Exit
import PasswordAudit.Proofs.CommandLine.Requirements
import PasswordAudit.Proofs.Inspection.Repetition
import PasswordAudit.Proofs.Lexicon.Endings
import PasswordAudit.Proofs.Keeper.Reset
import PasswordAudit.Proofs.Settings.Agreement
import PasswordAudit.Proofs.Inspection.Characteristics
import PasswordAudit.Proofs.Lexicon.Filtering
import PasswordAudit.Proofs.Settings.Paths
import PasswordAudit.Proofs.Strength.Pool
