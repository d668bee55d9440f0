import SentenceCards.Attempts.Log
import SentenceCards.Attempts.Packed
import SentenceCards.Attempts.Saved
import SentenceCards.Bytes
import SentenceCards.Card
import SentenceCards.Catalog.Basic
import SentenceCards.Catalog.Reading
import SentenceCards.Challenge.Authoring
import SentenceCards.Challenge.Basic
import SentenceCards.CommandLine.Launch
import SentenceCards.CommandLine.Options
import SentenceCards.Curriculum.Basic
import SentenceCards.Curriculum.Standard
import SentenceCards.Dealing.Choice
import SentenceCards.Dealing.Draw
import SentenceCards.Dealing.Hand
import SentenceCards.Dealing.Keystream
import SentenceCards.Failure
import SentenceCards.Files.Exchange
import SentenceCards.Files.Folder
import SentenceCards.Grammar.Classification
import SentenceCards.Grammar.English
import SentenceCards.Grammar.Equation
import SentenceCards.Grammar.Identification
import SentenceCards.Grammar.Judgement
import SentenceCards.Grammar.Predication
import SentenceCards.Grammar.Subject
import SentenceCards.Grammar.Tense
import SentenceCards.Grammar.Verdict
import SentenceCards.Json.Reader
import SentenceCards.Json.Report
import SentenceCards.Json.Stored
import SentenceCards.Json.Value
import SentenceCards.Json.Writer
import SentenceCards.Main
import SentenceCards.MessagePack.Decoder
import SentenceCards.MessagePack.Fault
import SentenceCards.MessagePack.Marker
import SentenceCards.MessagePack.Reader
import SentenceCards.MessagePack.Record
import SentenceCards.MessagePack.Value
import SentenceCards.MessagePack.Writer
import SentenceCards.Pattern
import SentenceCards.Prompt.Command
import SentenceCards.Prompt.Dialogue
import SentenceCards.Prompt.Evaluation
import SentenceCards.Prompt.Highlight
import SentenceCards.Prompt.Keywords
import SentenceCards.Prompt.Script
import SentenceCards.Prompt.View
import SentenceCards.Proofs.Attempts.Progress
import SentenceCards.Proofs.Catalog.LongestMatch
import SentenceCards.Proofs.Catalog.Punctuation
import SentenceCards.Proofs.Catalog.Runs
import SentenceCards.Proofs.Challenge.Solvability
import SentenceCards.Proofs.Files.Exchange
import SentenceCards.Proofs.Grammar.Verdict
import SentenceCards.Proofs.Prompt.FailedLine
import SentenceCards.Proofs.Session.Accounts
import SentenceCards.Proofs.Session.Conservation
import SentenceCards.Proofs.Session.Counts
import SentenceCards.Proofs.Session.History
import SentenceCards.Proofs.Session.Transition
import SentenceCards.Proofs.Slots
import SentenceCards.Proofs.Text.Joining
import SentenceCards.Proofs.Text.Lowercase
import SentenceCards.Proofs.Text.Words
import SentenceCards.Session.Action
import SentenceCards.Session.Basic
import SentenceCards.Session.Building
import SentenceCards.Session.Checking
import SentenceCards.Session.Entering
import SentenceCards.Session.Operation
import SentenceCards.Slots
import SentenceCards.Text.Backspace
import SentenceCards.Text.Blank
import SentenceCards.Text.CaseTable
import SentenceCards.Text.ClusterTable
import SentenceCards.Text.Clusters
import SentenceCards.Text.HiddenTable
import SentenceCards.Text.Layout
import SentenceCards.Text.Lines
import SentenceCards.Text.Lowercase
import SentenceCards.Text.Numeral
import SentenceCards.Text.Quoted
import SentenceCards.Text.Ranges
import SentenceCards.Text.Shortest
import SentenceCards.Text.Thousandths
import SentenceCards.Text.Utf8
import SentenceCards.Trace.Event
import SentenceCards.Trace.Line
import SentenceCards.Trace.Recorder
import SentenceCards.Trace.Stored
import SentenceCards.Trace.Window
import SentenceCards.Vocabulary.Category
import SentenceCards.Vocabulary.Colour
import SentenceCards.Vocabulary.Standard
import SentenceCards.Vocabulary.Word
import SentenceCards.Proofs.Grammar.Sentences
import SentenceCards.Proofs.Grammar.Detection
import SentenceCards.Proofs.Dealing.Choice
import SentenceCards.Proofs.Dealing.Hand
import SentenceCards.Proofs.Grammar.Hints
import SentenceCards.Proofs.Session.Filling
import SentenceCards.Proofs.Session.Completion
import SentenceCards.Proofs.Grammar.Announcements
import SentenceCards.Proofs.Grammar.Coherence
import SentenceCards.Proofs.Session.Rechecking
import SentenceCards.Proofs.Session.Hands
import SentenceCards.Proofs.Session.Saying
import SentenceCards.Proofs.Session.FreeBuild
import SentenceCards.Proofs.Trace.Window
import SentenceCards.Proofs.Session.Story
import SentenceCards.Proofs.MessagePack.Decoding
import SentenceCards.Proofs.Attempts.Packing
import SentenceCards.Proofs.Files.Folder
import SentenceCards.Proofs.Prompt.Saving
import SentenceCards.Proofs.Attempts.Truncation
import SentenceCards.Proofs.Challenge.Fitting
import SentenceCards.Proofs.Trace.Json
import SentenceCards.Proofs.Prompt.Agreement
import SentenceCards.Proofs.Session.Submitting
import SentenceCards.Proofs.Session.Placing
import SentenceCards.Proofs.Prompt.Segments
import SentenceCards.Proofs.Prompt.Colouring
import SentenceCards.Proofs.Trace.Admission
import SentenceCards.Proofs.Curriculum.Navigation
import SentenceCards.Proofs.Curriculum.Assignment
import SentenceCards.Proofs.Catalog.Index
import SentenceCards.Proofs.CommandLine.Understanding
import SentenceCards.Proofs.Slots.PartialMap
