import Cadence.Calendar.Columns
import Cadence.Calendar.Date
import Cadence.Calendar.Distance
import Cadence.Calendar.Error
import Cadence.Calendar.Moment
import Cadence.Calendar.Month
import Cadence.Calendar.NthWeekday
import Cadence.Calendar.Numbered
import Cadence.Calendar.Spelling
import Cadence.Calendar.Weekday
import Cadence.Calendar.Year
import Cadence.Calendar.YearMonth
import Cadence.Number.Amount
import Cadence.Number.Binary64
import Cadence.Number.Integer
import Cadence.Payment.Batch
import Cadence.Payment.Due
import Cadence.Payment.Instruction
import Cadence.Proofs.Calendar.SpelledDates
import Cadence.Proofs.Calendar.Stretches
import Cadence.Proofs.Calendar.WeekdayCounts
import Cadence.Proofs.Calendar.WeekdayPlaces
import Cadence.Proofs.Number.DigitCount
import Cadence.Proofs.Number.Numerals
import Cadence.Proofs.Number.WholePart
import Cadence.Proofs.Payment.Accounts
import Cadence.Proofs.Payment.Daily
import Cadence.Proofs.Payment.EagerDues
import Cadence.Proofs.Payment.Evaluable
import Cadence.Proofs.Payment.Independence
import Cadence.Proofs.Payment.Isolation
import Cadence.Proofs.Payment.Journal
import Cadence.Proofs.Payment.Lifetime
import Cadence.Proofs.Payment.Warrant
import Cadence.Proofs.Recurrence.Boundaries
import Cadence.Proofs.Recurrence.CalendarEnds
import Cadence.Proofs.Recurrence.Gaps
import Cadence.Proofs.Recurrence.Generated
import Cadence.Proofs.Recurrence.Grammar
import Cadence.Proofs.Recurrence.Layout
import Cadence.Proofs.Recurrence.Neighbours
import Cadence.Proofs.Recurrence.Periods
import Cadence.Proofs.Recurrence.Pieces
import Cadence.Proofs.Recurrence.Readers
import Cadence.Proofs.Recurrence.Reanchored
import Cadence.Proofs.Recurrence.Restarts
import Cadence.Proofs.Recurrence.RoundTrip
import Cadence.Proofs.Recurrence.RuleFields
import Cadence.Proofs.Recurrence.Searches
import Cadence.Proofs.Recurrence.Sentences
import Cadence.Proofs.Recurrence.ShortMonths
import Cadence.Proofs.Recurrence.SingleDate
import Cadence.Proofs.Recurrence.SpelledFields
import Cadence.Proofs.Recurrence.Stopping
import Cadence.Proofs.Recurrence.TypedParts
import Cadence.Proofs.Recurrence.Units
import Cadence.Proofs.Recurrence.Windows
import Cadence.Proofs.Recurrence.WritableFaults
import Cadence.Proofs.Recurrence.WrittenParts
import Cadence.Proofs.Scheduling.Answers
import Cadence.Proofs.Scheduling.Coverage
import Cadence.Proofs.Scheduling.EditChecks
import Cadence.Proofs.Scheduling.EditRuns
import Cadence.Proofs.Scheduling.Listed
import Cadence.Proofs.Scheduling.LockedPace
import Cadence.Proofs.Scheduling.MovedMeetings
import Cadence.Proofs.Scheduling.Past
import Cadence.Proofs.Scheduling.UnmovedMeetings
import Cadence.Proofs.Stored.Built
import Cadence.Proofs.Stored.FormFields
import Cadence.Proofs.Stored.FormNumbers
import Cadence.Proofs.Stored.GivenFields
import Cadence.Proofs.Stored.RowOrder
import Cadence.Proofs.Text.Plain
import Cadence.Proofs.Text.Recased
import Cadence.Proofs.Workday.NamedDays
import Cadence.Proofs.Workday.Rescheduling
import Cadence.Recurrence.Anchor
import Cadence.Recurrence.Description
import Cadence.Recurrence.Fault
import Cadence.Recurrence.Fields
import Cadence.Recurrence.Frequency
import Cadence.Recurrence.Occurrence
import Cadence.Recurrence.Parts
import Cadence.Recurrence.Rule
import Cadence.Recurrence.RuleText
import Cadence.Recurrence.Search
import Cadence.Recurrence.Selector
import Cadence.Recurrence.Sequence
import Cadence.Recurrence.Survey
import Cadence.Scheduling.Edit
import Cadence.Scheduling.Listing
import Cadence.Scheduling.Period
import Cadence.Scheduling.Schedule
import Cadence.Stored.Instruction
import Cadence.Stored.Period
import Cadence.Stored.Row
import Cadence.Stored.RuleForm
import Cadence.Stored.Value
import Cadence.Text.Blank
import Cadence.Text.Digit
import Cadence.Text.LetterCase
import Cadence.Text.LetterCase.Context
import Cadence.Text.LetterCase.Lower
import Cadence.Text.LetterCase.Title
import Cadence.Text.LetterCase.Upper
import Cadence.Text.Pieces
import Cadence.Text.Printable
import Cadence.Text.Quoted
import Cadence.Text.Ranges
import Cadence.Workday.Holiday
import Cadence.Workday.WorkingDays
