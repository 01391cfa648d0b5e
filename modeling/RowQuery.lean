import RowQuery.Binary.Shortest
import RowQuery.Chat.Completion
import RowQuery.CommandLine.Reader
import RowQuery.Http.Router
import RowQuery.Main
import RowQuery.Program.Run
import RowQuery.Query.Flight
import RowQuery.Settings.Load
import RowQuery.Shutdown
import RowQuery.Proofs.FirstSeen
import RowQuery.Proofs.Members
import RowQuery.Proofs.Padding
import RowQuery.Proofs.Rounding
import RowQuery.Proofs.Nearest
import RowQuery.Proofs.ShortestDigits
import RowQuery.Proofs.Numerals
import RowQuery.Proofs.NumberText
import RowQuery.Proofs.NumberScan
import RowQuery.Proofs.ExactReading
import RowQuery.Proofs.Selection
import RowQuery.Proofs.RowOrigin
import RowQuery.Proofs.Attempts
import RowQuery.Proofs.Conversation
import RowQuery.Proofs.Normalization
import RowQuery.Proofs.Budget
import RowQuery.Proofs.Answers
import RowQuery.Proofs.Isolation
import RowQuery.Proofs.Decoding
import RowQuery.Proofs.QueryForm
import RowQuery.Proofs.Quoting
import RowQuery.Proofs.ReadingBack
import RowQuery.Proofs.PostedQuery
import RowQuery.Proofs.Conjunction
import RowQuery.Proofs.Resubmission
import RowQuery.Proofs.PromptFrame
import RowQuery.Proofs.ReturnedCells
import RowQuery.Proofs.RowByRow
import RowQuery.Proofs.IntegerEquality
import RowQuery.Proofs.OriginPolicy
import RowQuery.Proofs.Flags
import RowQuery.Proofs.Precedence
import RowQuery.Proofs.LowerCase
import RowQuery.Proofs.VerbatimText
import RowQuery.Proofs.RoundingError
import RowQuery.Proofs.ReadingError
import RowQuery.Proofs.ReplyEntries
import RowQuery.Proofs.CanonicalFilters
import RowQuery.Proofs.TreeInvariant
import RowQuery.Proofs.NumberGrammar
import RowQuery.Proofs.QuotedNumbers
import RowQuery.Proofs.Complements
import RowQuery.Proofs.Orderings
import RowQuery.Proofs.TypedEquality
import RowQuery.Proofs.Converting
import RowQuery.Proofs.ConditionReaders
import RowQuery.Proofs.LetterCase
import RowQuery.Proofs.AcceptedSettings
import RowQuery.Proofs.RecordForms
import RowQuery.Proofs.UnknownNames
import RowQuery.Proofs.OctetTexts
import RowQuery.Proofs.ServiceAnswers
import RowQuery.Proofs.Gathering
import RowQuery.Proofs.Logging
import RowQuery.Proofs.ShutdownSignal
