import Cadence.Proofs.Calendar.PaddedColumns
import Cadence.Proofs.Calendar.Stretches
import Cadence.Proofs.Text.Recased

/-!
# Spelled dates

Every spelling of a date is read back as the date, and no spelling of a day that its month does
not have is read.  Of the readers that are tried in turn, each either refuses a spelling or reads
the year, the month and the day that are spelled, so the order of the readers makes no difference.
-/

namespace Cadence
namespace Calendar

open Text

/-! ## Names of months -/

/-- Names of months that begin with the short names and hold no white space. -/
structure IsNaming (nameOf : Month → List Char) : Prop where
  starts : ∀ month, (nameOf month).take 3 = month.shortName
  noBlank : ∀ month, ∀ letter ∈ nameOf month, isBlank letter = false

theorem isNaming_smallName : IsNaming Month.smallName where
  starts := fun _ => rfl
  noBlank := by
    intro month letter isMember
    have allLetters : (month.smallName.all fun letter => !isBlank letter) = true := by
      cases month <;> decide
    simpa using List.all_eq_true.mp allLetters letter isMember

theorem isNaming_shortName : IsNaming Month.shortName where
  starts := fun _ => List.take_take
  noBlank := fun month letter isMember =>
    isNaming_smallName.noBlank month letter (List.mem_of_mem_take isMember)

theorem length_shortName (month : Month) : month.shortName.length = 3 := by
  cases month <;> rfl

theorem Month.shortName_injective : Function.Injective Month.shortName := by
  intro month other same
  revert same
  cases month <;> cases other <;> decide

/-- The first answer of several that are given in turn is any one of them with which all others
agree. -/
theorem findSome?_eq_of_agree
    {Asked Answer : Type}
    {answer : Asked → Option Answer}
    {all : List Asked}
    {asked : Asked}
    (isMember : asked ∈ all)
    (agree : ∀ other ∈ all, answer other = none ∨ answer other = answer asked) :
    all.findSome? answer = answer asked := by
  cases isAnswer : answer asked with
  | none =>
      rw [isAnswer] at agree
      rw [List.findSome?_eq_none_iff]
      exact fun other inAll => (agree other inAll).elim id id
  | some value =>
      have answered : (all.findSome? answer).isSome = true :=
        List.findSome?_isSome_iff.mpr ⟨asked, isMember, isAnswer ▸ rfl⟩
      obtain ⟨first, isFirst⟩ := Option.isSome_iff_exists.mp answered
      obtain ⟨other, inAll, gives⟩ := List.exists_of_findSome?_eq_some isFirst
      rcases agree other inAll with refuses | alike
      · rw [refuses] at gives
        cases gives
      · rw [isFirst, ← gives, alike, isAnswer]

/-- A word without white space stands at the start of a text exactly when it stands at the start
of what comes before a blank. -/
theorem takeWord_append_blank
    {word : List Char}
    (noBlank : ∀ letter ∈ word, isBlank letter = false)
    (name rest : List Char) :
    takeWord word (name ++ ' ' :: rest) =
      if word <+: name.map Char.toLower then
        some (name.drop word.length ++ ' ' :: rest)
      else
        none := by
  unfold takeWord
  rcases Nat.lt_or_ge name.length word.length with isLonger | fits
  · have noStart : ¬ word <+: name.map Char.toLower := fun isStart => by
      have atMost := isStart.length_le
      rw [List.length_map] at atMost
      omega
    have blankTaken : ' ' ∈ ((name ++ ' ' :: rest).take word.length).map Char.toLower := by
      obtain ⟨more, isMore⟩ : ∃ more, word.length = name.length + (more + 1) :=
        ⟨word.length - name.length - 1, by omega⟩
      rw [isMore, List.take_length_add_append, List.take_succ_cons, List.map_append,
        List.map_cons]
      exact List.mem_append_right _ (List.mem_cons_self ..)
    rw [if_neg noStart, if_neg]
    intro isWord
    exact absurd (noBlank ' ' (isWord ▸ blankTaken)) (by decide)
  · rw [List.take_append_of_le_length fits, List.drop_append_of_le_length fits, List.map_take]
    exact if_congr (eq_comm.trans List.prefix_iff_eq_take.symm) rfl rfl

section Named

variable {nameOf spelledBy : Month → List Char} (naming : IsNaming nameOf)
  (spelling : IsNaming spelledBy)
  {month : Month} {word : List Char} (isName : word.map Char.toLower = spelledBy month)

section Letters

include spelling isName

theorem isBlank_of_mem_name {letter : Char} (isMember : letter ∈ word) :
    isBlank letter = false := by
  rw [← isBlank_toLower]
  exact spelling.noBlank month _ (isName ▸ List.mem_map_of_mem isMember)

theorem isBlank_of_mem_head?_name
    (rest : List Char)
    {first : Char}
    (isFirst : first ∈ (word ++ rest).head?) : isBlank first = false := by
  cases word with
  | nil =>
      have threeLetters := congrArg List.length (spelling.starts month)
      rw [← isName, length_shortName] at threeLetters
      cases threeLetters
  | cons letter word =>
      cases isFirst
      exact isBlank_of_mem_name spelling isName (List.mem_cons_self ..)

end Letters

include naming spelling isName

/-- No month but the one that a word names stands at the start of the word, since the first three
letters tell the months apart. -/
theorem takeMonthName_append_blank (rest : List Char) :
    takeMonthName nameOf (word ++ ' ' :: rest) =
      if nameOf month <+: spelledBy month then
        some (month, word.drop (nameOf month).length ++ ' ' :: rest)
      else
        none := by
  have others : ∀ other, other ≠ month → ¬ nameOf other <+: spelledBy month := by
    rintro other isOther ⟨rest, isWhole⟩
    have threeLetters : 3 ≤ (nameOf other).length := by
      have isShort := congrArg List.length (naming.starts other)
      rw [List.length_take, length_shortName] at isShort
      omega
    have sameStart := congrArg (List.take 3) isWhole
    rw [List.take_append_of_le_length threeLetters, naming.starts, spelling.starts] at sameStart
    exact isOther (Month.shortName_injective sameStart)
  unfold takeMonthName
  rw [findSome?_eq_of_agree month.mem_all]
  · rw [takeWord_append_blank (naming.noBlank month), isName]
    split <;> rfl
  · intro other _
    by_cases same : other = month
    · exact Or.inr (by rw [same])
    · left
      rw [takeWord_append_blank (naming.noBlank other), isName, if_neg (others other same)]
      rfl

/-- A day, a name of a month and a year with blanks between them. -/
def namedColumns (year : Nat) (word : List Char) (day : Nat) : List Char :=
  padded 2 day ++ ' ' :: word ++ ' ' :: padded 4 year

/-- A name is read as the day that is spelled when it is the right sort of name, and not at all
when a part of it would be left over. -/
theorem readNamedDate?_namedColumns
    {year day : Nat}
    (shortYear : year < 10 ^ 4)
    (positive : 1 ≤ day)
    (atMost : day ≤ 31) :
    readNamedDate? nameOf (namedColumns year word day) =
      if nameOf month = spelledBy month then Date.of? year month day else none := by
  have wordStarts (tail : List Char) (first : Char) :
      first ∈ (word ++ ' ' :: tail).head? → isBlank first = false :=
    isBlank_of_mem_head?_name spelling isName _
  have yearStarts : ∀ first ∈ (padded 4 year).head?, isBlank first = false :=
    fun first isFirst => isBlank_of_isDigit (isDigit_of_mem_padded (List.mem_of_mem_head? isFirst))
  simp only [readNamedDate?, namedColumns, List.append_assoc, List.cons_append,
    takeDay_padded positive atMost, takeBlanks_blank_cons (wordStarts _),
    takeMonthName_append_blank naming spelling isName, Option.bind_eq_bind, Option.bind_some]
  by_cases same : nameOf month = spelledBy month
  · have noRest : word.drop (nameOf month).length = [] := by
      rw [same, ← isName, List.length_map, List.drop_length]
    rw [if_pos same, if_pos (same ▸ List.prefix_rfl)]
    simp only [noRest, List.nil_append, Option.bind_some, takeBlanks_blank_cons yearStarts,
      readYear?_padded shortYear]
  · rw [if_neg same]
    split
    · next isStart =>
        have isShorter : (nameOf month).length < word.length := by
          have wordLength := congrArg List.length isName
          rw [List.length_map] at wordLength
          rw [wordLength]
          exact Nat.lt_of_le_of_ne isStart.length_le fun sameLength =>
            same (isStart.eq_of_length sameLength)
        have leftOver : isBlank word[(nameOf month).length] = false :=
          isBlank_of_mem_name spelling isName (List.getElem_mem isShorter)
        rw [List.drop_eq_getElem_cons isShorter]
        simp only [List.cons_append, Option.bind_some, takeBlanks, leftOver, Bool.false_eq_true,
          if_false, Option.bind_none]
    · rfl

end Named

/-! ## Spellings that are not meant for a reader -/

/-- Of three digits at the start of a text, a day takes no more than two. -/
theorem readNamedDate?_of_digits
    (nameOf : Month → List Char)
    {first second third : Char}
    (secondDigit : second.isDigit = true)
    (thirdDigit : third.isDigit = true)
    (rest : List Char) :
    readNamedDate? nameOf (first :: second :: third :: rest) = none := by
  have digitLeft : ∀ day afterDay,
      takeDay (first :: second :: third :: rest) = some (day, afterDay) →
        takeBlanks afterDay = none := by
    intro day afterDay taken
    have notBlank {digit : Char} (isDigit : digit.isDigit = true) (after : List Char) :
        takeBlanks (digit :: after) = none := by
      simp [takeBlanks, isBlank_of_isDigit isDigit]
    have isLeft : afterDay = third :: rest ∨ afterDay = second :: third :: rest := by
      unfold takeDay at taken
      split at taken <;> grind
    rcases isLeft with rfl | rfl
    · exact notBlank thirdDigit rest
    · exact notBlank secondDigit (third :: rest)
  unfold readNamedDate?
  cases taken : takeDay (first :: second :: third :: rest) with
  | none => rfl
  | some read => simp [digitLeft read.1 read.2 taken]

theorem readNamedDate?_markedColumns
    (nameOf : Month → List Char)
    (mark : Char)
    {year : Nat}
    (month : Month)
    (day : Nat)
    (shortYear : year < 10 ^ 4)
    (rest : List Char) :
    readNamedDate? nameOf (markedColumns mark year month day ++ rest) = none := by
  have allDigits : ∀ digit ∈ padded 4 year, digit.isDigit = true :=
    fun _ isMember => isDigit_of_mem_padded isMember
  obtain ⟨first, second, third, fourth, isPadded⟩ := exists_padded_year shortYear
  rw [isPadded] at allDigits
  simp only [markedColumns, isPadded, List.cons_append]
  exact readNamedDate?_of_digits nameOf (allDigits second (by simp)) (allDigits third (by simp)) _

theorem readDateColumns_namedColumns
    (year : Nat)
    {day : Nat}
    (shortDay : day < 10 ^ 2)
    (word : List Char)
    (length : Nat) :
    readDateColumns length (namedColumns year word day) = none := by
  obtain ⟨tens, units, isPadded⟩ := exists_padded_day shortDay
  simp [readDateColumns, namedColumns, isPadded, takeColumns]

theorem readSlashedDate?_namedColumns
    (year : Nat)
    {day : Nat}
    (shortDay : day < 10 ^ 2)
    (word : List Char) :
    readSlashedDate? (namedColumns year word day) = none := by
  obtain ⟨tens, units, isPadded⟩ := exists_padded_day shortDay
  have noDigit : digitValue? ' ' = none := by decide
  simp [readSlashedDate?, namedColumns, isPadded, readYear?, noDigit]

theorem readSlashedDate?_hyphens
    {year day : Nat}
    {month : Month}
    (shortYear : year < 10 ^ 4)
    (rest : List Char) :
    readSlashedDate? (markedColumns '-' year month day ++ rest) = none := by
  have isWide := length_padded (by decide) shortYear
  simp only [readSlashedDate?, markedColumns, List.append_assoc, List.cons_append,
    List.take_left' isWide, List.drop_left' isWide, readYear?_padded shortYear]
  rfl

theorem readSlashedDate?_slashes
    {year day : Nat}
    {month : Month}
    (shortYear : year < 10 ^ 4)
    (positive : 1 ≤ day)
    (atMost : day ≤ 31) :
    readSlashedDate? (markedColumns '/' year month day) = Date.of? year month day := by
  have isWide := length_padded (by decide) shortYear
  have dayTaken := takeDay_padded positive atMost []
  rw [List.append_nil] at dayTaken
  simp only [readSlashedDate?, markedColumns, List.append_assoc, List.cons_append,
    List.take_left' isWide, List.drop_left' isWide, readYear?_padded shortYear, takeMark_cons,
    takeMonth_padded, dayTaken, Option.bind_eq_bind, Option.bind_some, List.isEmpty_nil, if_true,
    ofNumbers?_number]

/-! ## All readers -/

/-- The answers of the readers that are tried in turn. -/
def readings (text : List Char) : List (Option Date) := [
  readColumnDate? text,
  (Moment.read? text).map Moment.date,
  readNamedDate? Month.smallName text,
  readNamedDate? Month.shortName text,
  readSlashedDate? text]

/-- Some reader answers as expected, and each other one refuses the text or answers alike. -/
def ReadersAgree (text : List Char) (expected : Option Date) : Prop :=
  expected ∈ readings text ∧
    ∀ reading ∈ readings text, reading = none ∨ reading = expected

theorem read?_eq_findSome? (text : List Char) :
    Date.read? text = (readings (trim text)).findSome? id := by
  simp only [Date.read?, readings, List.findSome?_cons, List.findSome?_nil, id]
  cases readColumnDate? (trim text) <;> cases (Moment.read? (trim text)).map Moment.date <;>
    cases readNamedDate? Month.smallName (trim text) <;>
    cases readNamedDate? Month.shortName (trim text) <;>
    cases readSlashedDate? (trim text) <;> rfl

/-- The order of readers that agree makes no difference. -/
theorem ReadersAgree.read? {text : List Char} {expected : Option Date}
    (agree : ReadersAgree (trim text) expected) : Date.read? text = expected := by
  rw [read?_eq_findSome?]
  exact findSome?_eq_of_agree agree.1 agree.2

theorem readColumnDate?_of_columns
    {text : List Char}
    {expected : Option Date}
    (isRead : ∀ length, readDateColumns length text = expected) :
    readColumnDate? text = none ∨ readColumnDate? text = expected := by
  simp only [readColumnDate?, isRead]
  split
  · exact Or.inr rfl
  · exact Or.inl rfl

/-- Without a date in columns there is no moment either. -/
theorem read?_eq_none_of_columns
    {text : List Char}
    (refused : ∀ length, readDateColumns length text = none) :
    (Moment.read? text).map Moment.date = none := by
  simp only [Moment.read?, refused]
  rfl

section Agree

variable {year day : Nat} {month : Month} (shortYear : year < 10 ^ 4) (atMost : day ≤ 31)
include shortYear atMost

theorem readersAgree_hyphens
    {rest : List Char}
    (isRest : rest = [] ∨ ∃ time : ClockTime,
      time.isTimeOfDay = true ∧ rest = 'T' :: time.columns) :
    ReadersAgree (markedColumns '-' year month day ++ rest) (Date.of? year month day) := by
  have shortDay : day < 10 ^ 2 := Nat.lt_of_le_of_lt atMost (by decide)
  have columns : readColumnDate? (markedColumns '-' year month day ++ rest) = none ∨ _ :=
    readColumnDate?_of_columns fun length =>
      readDateColumns_hyphens shortYear shortDay length rest
  have moment := map_date_read?_hyphens month shortYear shortDay isRest
  have noName (nameOf : Month → List Char) :
      readNamedDate? nameOf (markedColumns '-' year month day ++ rest) = none :=
    readNamedDate?_markedColumns nameOf '-' month day shortYear rest
  refine ⟨?_, ?_⟩
  · rw [← moment]
    simp [readings]
  · simp only [readings, List.forall_mem_cons]
    exact ⟨columns, Or.inr moment, Or.inl (noName _), Or.inl (noName _),
      Or.inl (readSlashedDate?_hyphens shortYear rest), List.forall_mem_nil _⟩

variable (positive : 1 ≤ day)
include positive

theorem readersAgree_named
    {spelledBy : Month → List Char}
    (isSort : spelledBy = Month.smallName ∨ spelledBy = Month.shortName)
    {word : List Char}
    (isName : word.map Char.toLower = spelledBy month) :
    ReadersAgree (namedColumns year word day) (Date.of? year month day) := by
  have shortDay : day < 10 ^ 2 := Nat.lt_of_le_of_lt atMost (by decide)
  have spelling : IsNaming spelledBy := by
    rcases isSort with rfl | rfl
    · exact isNaming_smallName
    · exact isNaming_shortName
  have noColumns := readDateColumns_namedColumns year shortDay word
  have columns := readColumnDate?_of_columns noColumns
  have small := readNamedDate?_namedColumns isNaming_smallName spelling isName shortYear positive
    atMost
  have short := readNamedDate?_namedColumns isNaming_shortName spelling isName shortYear positive
    atMost
  refine ⟨?_, ?_⟩
  · simp only [readings, List.mem_cons, small, short]
    rcases isSort with rfl | rfl <;> simp
  · simp only [readings, List.forall_mem_cons, small, short]
    exact ⟨Or.inl (columns.elim id id), Or.inl (read?_eq_none_of_columns noColumns),
      (ite_eq_or_eq _ _ _).symm, (ite_eq_or_eq _ _ _).symm,
      Or.inl (readSlashedDate?_namedColumns year shortDay word), List.forall_mem_nil _⟩

theorem readersAgree_slashes :
    ReadersAgree (markedColumns '/' year month day) (Date.of? year month day) := by
  have noColumns (length : Nat) :
      readDateColumns length (markedColumns '/' year month day) = none :=
    readDateColumns_slashes shortYear length
  have columns := readColumnDate?_of_columns noColumns
  have noName (nameOf : Month → List Char) :
      readNamedDate? nameOf (markedColumns '/' year month day) = none := by
    rw [← List.append_nil (markedColumns '/' year month day)]
    exact readNamedDate?_markedColumns nameOf '/' month day shortYear []
  have slashes : readSlashedDate? (markedColumns '/' year month day) = Date.of? year month day :=
    readSlashedDate?_slashes shortYear positive atMost
  refine ⟨?_, ?_⟩
  · rw [← slashes]
    simp [readings]
  · simp only [readings, List.forall_mem_cons]
    exact ⟨Or.inl (columns.elim id id), Or.inl (read?_eq_none_of_columns noColumns),
      Or.inl (noName _), Or.inl (noName _), Or.inr slashes, List.forall_mem_nil _⟩

end Agree

/-! ## Spellings -/

/-- The spellings of a year, a month and a day number: in columns, alone or with a time of day,
with the English name of the month or its first three letters in capital and small letters, or
with slashes. -/
inductive Spells (year : Nat) (month : Month) (day : Nat) : List Char → Prop where
  | columns : Spells year month day (markedColumns '-' year month day)
  | moment {time : ClockTime} (isTime : time.isTimeOfDay = true) :
      Spells year month day (markedColumns '-' year month day ++ 'T' :: time.columns)
  | named {name : List Char} (isName : name.map Char.toLower = month.smallName) :
      Spells year month day (namedColumns year name day)
  | shortNamed {name : List Char} (isName : name.map Char.toLower = month.shortName) :
      Spells year month day (namedColumns year name day)
  | slashed : Spells year month day (markedColumns '/' year month day)

namespace Spells

variable {year day : Nat} {month : Month} {text : List Char}

/-- A spelling starts and ends with a padded number. -/
theorem exists_padded (spells : Spells year month day text) :
    ∃ width number rest before lastWidth last,
      text = padded width number ++ rest ∧ text = before ++ padded lastWidth last := by
  have named (name : List Char) : ∃ width number rest before lastWidth last,
      namedColumns year name day = padded width number ++ rest ∧
        namedColumns year name day = before ++ padded lastWidth last :=
    ⟨2, day, _, _, 4, year, List.append_assoc .., List.append_cons ..⟩
  cases spells with
  | columns | slashed =>
      exact ⟨4, year, _, _, 2, day, List.append_assoc .., List.append_cons ..⟩
  | @moment time _ =>
      have opens (tail : List Char) : markedColumns '-' year month day ++ tail =
          padded 4 year ++ ('-' :: padded 2 month.number ++ '-' :: padded 2 day ++ tail) := by
        simp only [markedColumns, List.append_assoc]
      have closes : markedColumns '-' year month day ++ 'T' :: time.columns =
          markedColumns '-' year month day ++
            ('T' :: padded 2 time.hours ++ ':' :: padded 2 time.minutes ++ [':']) ++
              padded 2 time.seconds := by
        simp [ClockTime.columns]
      exact ⟨4, year, _, _, 2, time.seconds, opens _, closes⟩
  | named _ => exact named _
  | shortNamed _ => exact named _

/-- White space around a spelling is trimmed away, and no more. -/
theorem trim_surrounded
    (spells : Spells year month day text)
    {left right : List Char}
    (blankLeft : isBlankText left = true)
    (blankRight : isBlankText right = true) : trim (left ++ text ++ right) = text := by
  obtain ⟨width, number, rest, before, lastWidth, last, opens, closes⟩ := spells.exists_padded
  have notBlank {width number : Nat} {digit : Char} (isMember : digit ∈ padded width number) :
      isBlank digit = false := isBlank_of_isDigit (isDigit_of_mem_padded isMember)
  apply trimBy_surrounded
  · rw [opens]
    simp [padded_ne_nil]
  · rw [opens, List.head?_append_of_ne_nil _ (padded_ne_nil _ _)]
    exact fun first isFirst => notBlank (List.mem_of_mem_head? isFirst)
  · rw [closes, List.getLast?_append_of_ne_nil _ (padded_ne_nil _ _)]
    exact fun last isLast => notBlank (List.mem_of_mem_getLast? isLast)
  · exact List.all_eq_true.mp blankLeft
  · exact List.all_eq_true.mp blankRight

theorem readersAgree
    (spells : Spells year month day text)
    (shortYear : year < 10 ^ 4)
    (positive : 1 ≤ day)
    (atMost : day ≤ 31) : ReadersAgree text (Date.of? year month day) := by
  cases spells with
  | columns =>
      rw [← List.append_nil (markedColumns '-' year month day)]
      exact readersAgree_hyphens shortYear atMost (Or.inl rfl)
  | moment isTime => exact readersAgree_hyphens shortYear atMost (Or.inr ⟨_, isTime, rfl⟩)
  | named isName => exact readersAgree_named shortYear atMost positive (Or.inl rfl) isName
  | shortNamed isName => exact readersAgree_named shortYear atMost positive (Or.inr rfl) isName
  | slashed => exact readersAgree_slashes shortYear atMost positive

theorem read?_surrounded
    (spells : Spells year month day text)
    (shortYear : year < 10 ^ 4)
    (positive : 1 ≤ day)
    (atMost : day ≤ 31)
    {left right : List Char}
    (blankLeft : isBlankText left = true)
    (blankRight : isBlankText right = true) :
    Date.read? (left ++ text ++ right) = Date.of? year month day := by
  apply ReadersAgree.read?
  rw [spells.trim_surrounded blankLeft blankRight]
  exact spells.readersAgree shortYear positive atMost

end Spells

/-- A day behind the end of its month is no date. -/
theorem of?_eq_none_of_length_lt
    {year day : Nat}
    {month : Month}
    (isBehind : month.length (isLeapYear year) < day) : Date.of? year month day = none := by
  rw [Option.eq_none_iff_forall_ne_some]
  intro date found
  obtain ⟨rfl, rfl, rfl⟩ := Date.of?_eq_some_iff.mp found
  exact absurd date.day_le_length (Nat.not_le_of_gt isBehind)

/-- Every spelling of a date, with any white space around it, is read as the date.  No spelling of
a day behind the end of its month is read. -/
theorem spelled_dates_read_back :
    (∀ (date : Date) (text left right : List Char),
      Spells date.year date.month date.day text →
        isBlankText left = true → isBlankText right = true →
          Date.read? (left ++ text ++ right) = some date) ∧
      ∀ (year : Nat) (month : Month) (day : Nat) (text left right : List Char),
        year ≤ 9999 → month.length (isLeapYear year) < day → day ≤ 31 →
          Spells year month day text →
            isBlankText left = true → isBlankText right = true →
              Date.read? (left ++ text ++ right) = none := by
  constructor
  · intro date text left right spells blankLeft blankRight
    have shortYear : date.year < 10 ^ 4 :=
      Nat.lt_succ_of_le date.yearMonth.year_in_calendar.2
    have atMost : date.day ≤ 31 := Nat.le_trans date.day_le_length date.yearMonth.length_le
    rw [spells.read?_surrounded shortYear date.day_pos atMost blankLeft blankRight]
    exact Date.of?_eq_some_iff.mpr ⟨rfl, rfl, rfl⟩
  · intro year month day text left right atMostYear isBehind atMost spells blankLeft blankRight
    have shortYear : year < 10 ^ 4 := Nat.lt_succ_of_le atMostYear
    have positive : 1 ≤ day := by
      have atLeast := month.length_ge (isLeapYear year)
      omega
    rw [spells.read?_surrounded shortYear positive atMost blankLeft blankRight]
    exact of?_eq_none_of_length_lt isBehind

/-- The last day of February 2024 with the name of the month in mixed letters, and the evening of
a day that February 2023 does not have. -/
theorem spelled_dates_read_back_leapDay :
    Date.read? "\t29 fEbRuArY 2024\n".toList = some ⟨738944, by decide⟩ ∧
      Date.read? " 2023-02-29T23:59:59".toList = none := by
  obtain ⟨dates, noDates⟩ := spelled_dates_read_back
  constructor
  · let leapDay : Date := ⟨738944, by decide⟩
    have isYear : leapDay.year = 2024 := by decide +kernel
    have isMonth : leapDay.month = .february := by decide +kernel
    have isDay : leapDay.day = 29 := by decide +kernel
    have isName : "fEbRuArY".toList.map Char.toLower = leapDay.month.smallName := by
      rw [isMonth]
      decide +kernel
    have isRead := dates leapDay _ ['\t'] ['\n'] (Spells.named isName) (by decide) (by decide)
    have isText : ['\t'] ++ namedColumns leapDay.year "fEbRuArY".toList leapDay.day ++ ['\n'] =
        "\t29 fEbRuArY 2024\n".toList := by
      rw [isYear, isDay]
      decide +kernel
    rwa [isText] at isRead
  · have isTime : (ClockTime.mk 23 59 59 0).isTimeOfDay = true := by decide
    have isText : [' '] ++ (markedColumns '-' 2023 .february 29 ++
        'T' :: (ClockTime.mk 23 59 59 0).columns) ++ [] = " 2023-02-29T23:59:59".toList := by
      decide +kernel
    rw [← isText]
    exact noDates 2023 .february 29 _ [' '] [] (by decide) (by decide) (by decide)
      (Spells.moment isTime) (by decide) (by decide)

end Calendar
end Cadence
