import Cadence.Number.Integer
import Cadence.Recurrence.Sequence

/-!
# Searching for occurrences

Sequences with a probe limit that suits their rule, and the occurrences around a
date.  A limit that is not given is never shorter than the longest gap of the
rule.
-/

namespace Cadence
namespace Recurrence

open Calendar Number

/-- Why there is no sequence to search. -/
inductive SearchFault where
  | probeLimitBelowOne
  | neitherCountNorUntil
  | negativeCount (count : Int)
  deriving DecidableEq, Repr

/-- The wording of a search fault. -/
def SearchFault.message : SearchFault → String
  | probeLimitBelowOne => "max_probe_days must be at least 1"
  | neitherCountNorUntil => "generate() needs a count or an until_date"
  | negativeCount count => "count must not be negative, got " ++ integerText count

/-- How many days in a row a search probes in vain before it gives up. -/
inductive ProbeLimit where
  /-- Ten years, or the longest gap of the rule when that is longer. -/
  | automatic
  /-- A given number of days. -/
  | days (count : Nat) (positive : 0 < count)

namespace ProbeLimit

/-- The limit of a given number of days, or the automatic one. -/
def of? : Option Int → Except SearchFault ProbeLimit
  | none => .ok automatic
  | some count =>
    if positive : 1 ≤ count then
      .ok (days count.toNat (toNat_pos_of_one_le positive))
    else
      .error .probeLimitBelowOne

end ProbeLimit

/-- The days of ten years. -/
def leastAutomaticLimit : Int :=
  3653

/-- The most days that one unit of a pattern's frequency may have. -/
def Pattern.longestUnit (pattern : Pattern) : Nat :=
  match pattern.frequency? with
  | some frequency => frequency.longestUnit
  | none => 1

/-- A bound on the days in a row that may be no occurrences: the periods from one
occurrence to the next, the first period when it is skipped, and the days of the
least gap. -/
def longestGapDays
    (rule : Option Rule)
    (skipFirstPeriod : Bool)
    (minGapDays : Option Int) : Int :=
  match rule with
  | none => 1
  | some rule =>
    let skipped := if skipFirstPeriod then rule.interval else 0
    (rule.pattern.longestUnit * (rule.interval + 1 + skipped) : Nat) +
      minGapDays.getD 0

/-- The probe limit of a search for a rule. -/
def ProbeLimit.forRule
    (limit : ProbeLimit)
    (rule : Option Rule)
    (skipFirstPeriod : Bool)
    (minGapDays : Option Int) : Nat :=
  match limit with
  | days count _ => count
  | automatic =>
    (max leastAutomaticLimit (longestGapDays rule skipFirstPeriod minGapDays)).toNat

/-- Every search may probe a day. -/
theorem ProbeLimit.forRule_pos
    (limit : ProbeLimit)
    (rule : Option Rule)
    (skipFirstPeriod : Bool)
    (minGapDays : Option Int) :
    0 < limit.forRule rule skipFirstPeriod minGapDays := by
  cases limit with
  | automatic =>
      simp only [forRule, leastAutomaticLimit]
      omega
  | days count positive => exact positive

/-- A number of dates to ask for. -/
def checkCount (count : Int) : Except SearchFault Nat :=
  if count < 0 then .error (.negativeCount count) else .ok count.toNat

/-- A sequence from a date on, with a bound on its dates or on its days. -/
def ProbeLimit.sequence
    (limit : ProbeLimit)
    (rule : Option Rule)
    (start : Date)
    (fromDate : Option Date)
    (count : Option Int)
    (untilDate : Option Date)
    (limits : Limits) : Except SearchFault Sequence :=
  match count, untilDate with
  | none, none => .error .neitherCountNorUntil
  | none, some _ => .ok (sequenceOf none)
  | some count, _ => (checkCount count).map fun count => sequenceOf (some count)
where
  /-- The sequence with a checked bound on its dates. -/
  sequenceOf (count : Option Nat) : Sequence := {
    rule
    start
    firstProbe := fromDate.elim start (max start)
    count
    untilDate
    limits
    probeLimit := limit.forRule rule limits.skipFirstPeriod limits.minGapDays }

/-- The sequence of all occurrences from a date to another. -/
def ProbeLimit.windowSequence
    (limit : ProbeLimit)
    (rule : Option Rule)
    (start fromDate untilDate : Date)
    (endDate : Option Date) : Sequence where
  rule := rule
  start := start
  firstProbe := max start fromDate
  count := none
  untilDate := some untilDate
  limits := { endDate }
  probeLimit := limit.forRule rule false none

/-- The dates of a run that stopped for want of further occurrences; other
interruptions stay. -/
def foundDates : List Date × Ending → Except Interruption (List Date)
  | (dates, .complete) => .ok dates
  | (dates, .interrupted (.exhausted ..)) => .ok dates
  | (_, .interrupted interruption) => .error interruption

/-- The sequence of up to `count` occurrences on or after a date. -/
def ProbeLimit.nextSequence
    (limit : ProbeLimit)
    (rule : Option Rule)
    (start fromDate : Date)
    (count : Nat)
    (endDate : Option Date) : Sequence where
  rule := rule
  start := start
  firstProbe := max start fromDate
  count := some count
  untilDate := none
  limits := { endDate }
  probeLimit := limit.forRule rule false none

/-- Up to `count` occurrences on or after a date. -/
def ProbeLimit.nextOccurrences
    (limit : ProbeLimit)
    (rule : Option Rule)
    (start fromDate : Date)
    (count : Nat)
    (endDate : Option Date) : Except Interruption (List Date) :=
  foundDates (limit.nextSequence rule start fromDate count endDate).run

/-- The first occurrence after a date, or on it when it counts itself. -/
def ProbeLimit.nextOccurrence
    (limit : ProbeLimit)
    (rule : Option Rule)
    (start after : Date)
    (inclusive : Bool)
    (endDate : Option Date) : Except Interruption (Option Date) :=
  match if inclusive then some after else after.next? with
  | none => .error .outOfCalendar
  | some fromDate =>
    (limit.nextOccurrences rule start fromDate 1 endDate).map List.head?

/-- Probe backwards from a date, at most `probes` days and not before the start. -/
def probeBack
    (rule : Option Rule)
    (start : Date)
    (endDate : Option Date) : Nat → Date → Except Interruption (Option Date)
  | 0, _ => .ok none
  | probes + 1, date =>
    if date < start then
      .ok none
    else
      match isOccurrence rule start { endDate } date with
      | .error unsupported => .error (.unsupported unsupported)
      | .ok true => .ok (some date)
      | .ok false =>
        match date.previous? with
        | none => .error .outOfCalendar
        | some preceding => probeBack rule start endDate probes preceding

/-- The last occurrence on or before a date. -/
def ProbeLimit.previousOccurrence
    (limit : ProbeLimit)
    (rule : Option Rule)
    (start onOrBefore : Date)
    (endDate : Option Date) : Except Interruption (Option Date) :=
  probeBack rule start endDate (limit.forRule rule false none)
    (endDate.elim onOrBefore (min onOrBefore))

end Recurrence
end Cadence
