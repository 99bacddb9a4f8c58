import Suppression.CommandLine
import Suppression.Diagnostic
import Suppression.Diagnostic.Input
import Suppression.Diagnostic.Partition
import Suppression.Diagnostic.Schema
import Suppression.Directive
import Suppression.Entries
import Suppression.FileTree
import Suppression.FileTree.Change
import Suppression.FileTree.Error
import Suppression.FileTree.Listing
import Suppression.FileTree.Removal
import Suppression.FileUrl
import Suppression.FileUrl.Address
import Suppression.FileUrl.Character
import Suppression.FileUrl.CharacterTable
import Suppression.FileUrl.Composition
import Suppression.FileUrl.CompositionTable
import Suppression.FileUrl.Host
import Suppression.FileUrl.Punycode
import Suppression.Interval
import Suppression.Json
import Suppression.Json.KeyOrder
import Suppression.Json.Reader
import Suppression.Json.Writer
import Suppression.Main
import Suppression.Number
import Suppression.Number.Decimal
import Suppression.Number.Literal
import Suppression.Number.Rounding
import Suppression.Number.Shortest
import Suppression.Pairing
import Suppression.Proofs.AcceptedCache
import Suppression.Proofs.AcceptedRange
import Suppression.Proofs.AgreeingQueries
import Suppression.Proofs.AlikeTrackers
import Suppression.Proofs.Answering
import Suppression.Proofs.AnyAccessor
import Suppression.Proofs.AnyCache
import Suppression.Proofs.ArgumentPlace
import Suppression.Proofs.AskingFiles
import Suppression.Proofs.CacheDocument
import Suppression.Proofs.CacheTransparency
import Suppression.Proofs.Containment
import Suppression.Proofs.ContinuedRun
import Suppression.Proofs.CountedRecord
import Suppression.Proofs.Coverage
import Suppression.Proofs.Deciding
import Suppression.Proofs.DecisionOrder
import Suppression.Proofs.DirectiveKeyword
import Suppression.Proofs.DirectiveRemoval
import Suppression.Proofs.EqualKeys
import Suppression.Proofs.ExpectedAnswers
import Suppression.Proofs.FailingDiagnostics
import Suppression.Proofs.FileContents
import Suppression.Proofs.FileLines
import Suppression.Proofs.FileWriting
import Suppression.Proofs.FormattedTargets
import Suppression.Proofs.GrowingCoverage
import Suppression.Proofs.HeldCache
import Suppression.Proofs.HeldEntries
import Suppression.Proofs.HeldNumber
import Suppression.Proofs.InputForms
import Suppression.Proofs.IntervalList
import Suppression.Proofs.IrrelevantDirective
import Suppression.Proofs.JsonReading
import Suppression.Proofs.KeptCache
import Suppression.Proofs.KeptUpdates
import Suppression.Proofs.KeyOrder
import Suppression.Proofs.KeyedEntries
import Suppression.Proofs.KeyedStore
import Suppression.Proofs.Knowledge
import Suppression.Proofs.KnownRecord
import Suppression.Proofs.LastingRegion
import Suppression.Proofs.LaunchedFindings
import Suppression.Proofs.LazyScanning
import Suppression.Proofs.LineNumber
import Suppression.Proofs.LineSweep
import Suppression.Proofs.MalformedTargets
import Suppression.Proofs.MeasuredTracker
import Suppression.Proofs.NaturalText
import Suppression.Proofs.NestedDocument
import Suppression.Proofs.OneFile
import Suppression.Proofs.OpenRegion
import Suppression.Proofs.PairingReplay
import Suppression.Proofs.Persisting
import Suppression.Proofs.PlainTarget
import Suppression.Proofs.RangedIntervals
import Suppression.Proofs.ReachedRecords
import Suppression.Proofs.ReadDocument
import Suppression.Proofs.ReadingOnce
import Suppression.Proofs.ReadingOrder
import Suppression.Proofs.Rejection
import Suppression.Proofs.ReloadedCache
import Suppression.Proofs.Requests
import Suppression.Proofs.Resolving
import Suppression.Proofs.Resuming
import Suppression.Proofs.RewrittenCache
import Suppression.Proofs.SavedRun
import Suppression.Proofs.ScannedLines
import Suppression.Proofs.Search
import Suppression.Proofs.SerialTurns
import Suppression.Proofs.SessionDocuments
import Suppression.Proofs.SessionRecords
import Suppression.Proofs.SessionRuns
import Suppression.Proofs.Sessions
import Suppression.Proofs.SettledQuestions
import Suppression.Proofs.SpelledChoice
import Suppression.Proofs.StopEffect
import Suppression.Proofs.StorableRecord
import Suppression.Proofs.SuccessiveStops
import Suppression.Proofs.TargetKey
import Suppression.Proofs.TextOrder
import Suppression.Proofs.TurnResults
import Suppression.Proofs.TurnTaking
import Suppression.Proofs.TypedNumber
import Suppression.Proofs.Utf8
import Suppression.Proofs.WritableRecord
import Suppression.Range
import Suppression.Range.Written
import Suppression.Run
import Suppression.Run.Filter
import Suppression.Run.Program
import Suppression.Run.Scan
import Suppression.Snapshot
import Suppression.Snapshot.Cache
import Suppression.Snapshot.Store
import Suppression.Source
import Suppression.Target
import Suppression.Target.Grammar
import Suppression.Text.Blank
import Suppression.Text.CaseTable
import Suppression.Text.Digest
import Suppression.Text.Lines
import Suppression.Text.Lowercase
import Suppression.Text.Quoted
import Suppression.Text.Units
import Suppression.Text.Utf8
import Suppression.Text.Wide
import Suppression.Tracker
import Suppression.Tracker.Answer
import Suppression.Tracker.Query
import Suppression.Tracker.Record
