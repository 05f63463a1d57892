import Gamebook.Editor.Completion
import Gamebook.Editor.Diagnostic
import Gamebook.Editor.Hover
import Gamebook.Editor.Navigation
import Gamebook.Editor.Outlining
import Gamebook.Editor.Place
import Gamebook.Editor.QuickFix
import Gamebook.Editor.Typing
import Gamebook.Files.Path
import Gamebook.Files.Tree
import Gamebook.Json.Basic
import Gamebook.Json.Reader
import Gamebook.Json.Shape
import Gamebook.Json.Writer
import Gamebook.Main
import Gamebook.Project.Document
import Gamebook.Project.Entry
import Gamebook.Project.Index
import Gamebook.Project.Snapshot
import Gamebook.Project.Symbol
import Gamebook.Project.Uri
import Gamebook.Proofs.FragmentCuts
import Gamebook.Protocol.Call
import Gamebook.Protocol.Capabilities
import Gamebook.Protocol.ClientCapabilities
import Gamebook.Protocol.Decoding
import Gamebook.Protocol.Encoding
import Gamebook.Protocol.Frame
import Gamebook.Protocol.Message
import Gamebook.Rules.Check
import Gamebook.Rules.Report
import Gamebook.Rules.Rule
import Gamebook.Script.Command
import Gamebook.Script.Delimiter
import Gamebook.Script.Expression
import Gamebook.Script.Fault
import Gamebook.Script.Finding
import Gamebook.Script.Line
import Gamebook.Script.Mention
import Gamebook.Script.Occurrence
import Gamebook.Script.Outline
import Gamebook.Script.Prose
import Gamebook.Script.Scene
import Gamebook.Script.Token
import Gamebook.Script.Value
import Gamebook.Server.Connection
import Gamebook.Server.Lifecycle
import Gamebook.Server.OpenDocuments
import Gamebook.Server.Reads
import Gamebook.Server.Schedule
import Gamebook.Server.Session
import Gamebook.Server.TextChange
import Gamebook.Server.Workspace
import Gamebook.Settings.Codec
import Gamebook.Settings.Options
import Gamebook.Settings.Store
import Gamebook.Spelling.Checker
import Gamebook.Spelling.Dictionary
import Gamebook.Spelling.Distance
import Gamebook.Spelling.EnglishWords
import Gamebook.Spelling.UserDictionary
import Gamebook.Spelling.Word
import Gamebook.Text.Blank
import Gamebook.Text.Bytes
import Gamebook.Text.CapitalRuns
import Gamebook.Text.CasedRanges
import Gamebook.Text.Fragment
import Gamebook.Text.Letter
import Gamebook.Text.LetterRanges
import Gamebook.Text.LowerRuns
import Gamebook.Text.NumeralRanges
import Gamebook.Text.Ranges
import Gamebook.Text.Source
import Gamebook.Text.Span
import Gamebook.Text.UpperRuns
import Gamebook.Proofs.TrimmedText
import Gamebook.Proofs.SourceLines
import Gamebook.Proofs.TokenSeparation
import Gamebook.Proofs.ProsePieces
import Gamebook.Proofs.FindingPlacement
import Gamebook.Proofs.LinePlacement
import Gamebook.Proofs.OutlineNesting
import Gamebook.Proofs.ScenePlacement
import Gamebook.Proofs.OutlineParents
import Gamebook.Proofs.ExportLookup
import Gamebook.Proofs.ReferenceAgreement
import Gamebook.Proofs.ProjectEntries
import Gamebook.Proofs.ReferenceClasses
import Gamebook.Proofs.DeclarationReferences
import Gamebook.Proofs.ProjectIsolation
import Gamebook.Proofs.ShownDiagnostics
import Gamebook.Proofs.SessionTables
import Gamebook.Proofs.SessionWork
import Gamebook.Proofs.SessionSteps
import Gamebook.Proofs.DocumentLife
import Gamebook.Proofs.EditPlaces
import Gamebook.Proofs.EditorEntries
import Gamebook.Proofs.DiagnosticsFreshness
import Gamebook.Proofs.DiagnosticsSettling
import Gamebook.Proofs.ProjectLoading
import Gamebook.Proofs.PositionRoundTrip
import Gamebook.Proofs.IndexHistory
import Gamebook.Proofs.WordScan
import Gamebook.Proofs.WordPlaces
import Gamebook.Proofs.WorkspaceCalls
import Gamebook.Proofs.AcceptedWords
import Gamebook.Proofs.SpellingUpkeep
import Gamebook.Proofs.ScheduleHistory
import Gamebook.Proofs.DiagnosticsIndependence
import Gamebook.Proofs.CompletionOffers
import Gamebook.Proofs.ShiftedText
import Gamebook.Proofs.ShiftedLines
import Gamebook.Proofs.SceneConcatenation
import Gamebook.Proofs.EditAlignments
import Gamebook.Proofs.WordRuns
import Gamebook.Proofs.SpellingFixes
import Gamebook.Proofs.DictionaryRanks
import Gamebook.Proofs.ClosestSuggestions
import Gamebook.Proofs.LetterCase
import Gamebook.Proofs.FailedWrites
import Gamebook.Proofs.WordAdditions
import Gamebook.Proofs.AcceptedReports
import Gamebook.Proofs.WordFiles
import Gamebook.Proofs.KeptWords
import Gamebook.Proofs.WordFindings
import Gamebook.Proofs.LineFaults
import Gamebook.Proofs.UnreachableRuns
import Gamebook.Proofs.UnreachableLabels
import Gamebook.Proofs.RuleSwitches
import Gamebook.Proofs.OutlinePlaces
import Gamebook.Proofs.ChoiceStructure
import Gamebook.Proofs.FirstDeclarations
import Gamebook.Proofs.DelimiterSearch
import Gamebook.Proofs.DelimiterTokens
import Gamebook.Proofs.OptionGrammar
import Gamebook.Proofs.ProseRegions
import Gamebook.Proofs.RecordedProse
import Gamebook.Proofs.ComputedTargets
import Gamebook.Proofs.IndentationBlocks
import Gamebook.Proofs.TypingEdits
import Gamebook.Proofs.OpenInterpolations
import Gamebook.Proofs.DictionaryHistory
import Gamebook.Proofs.SettingsHistory
import Gamebook.Proofs.EditBounds
import Gamebook.Proofs.CommandHovers
