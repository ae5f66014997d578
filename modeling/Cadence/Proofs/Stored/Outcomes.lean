/-!
# Ways to fail

A computation that may fail can often fail with some errors only.  What it does with its results
adds the errors of the next step and no others.
-/

namespace Cadence
namespace Stored

/-- A computation does not fail but with errors of a kind. -/
def FailsOnlyWith
    {Error Value : Type}
    (allowed : Error → Prop)
    (outcome : Except Error Value) : Prop :=
  ∀ error, outcome = .error error → allowed error

namespace FailsOnlyWith

variable {Error Account Value Result : Type} {allowed : Error → Prop}

theorem ok (value : Value) : FailsOnlyWith allowed (.ok value) :=
  nofun

theorem of_error
    {error : Error}
    (isAllowed : allowed error) :
    FailsOnlyWith allowed (.error error : Except Error Value) := by
  rintro _ ⟨⟩
  exact isAllowed

theorem imp
    {weaker : Error → Prop}
    {outcome : Except Error Value}
    (only : FailsOnlyWith allowed outcome)
    (weaken : ∀ error, allowed error → weaker error) : FailsOnlyWith weaker outcome :=
  fun error fails => weaken error (only error fails)

theorem bind_of_ok
    {first : Except Error Value}
    {next : Value → Except Error Result}
    (firstOnly : FailsOnlyWith allowed first)
    (nextOnly : ∀ value, first = .ok value → FailsOnlyWith allowed (next value)) :
    FailsOnlyWith allowed (first >>= next) := by
  cases first with
  | error error => exact of_error (firstOnly error rfl)
  | ok value => exact nextOnly value rfl

theorem bind
    {first : Except Error Value}
    {next : Value → Except Error Result}
    (firstOnly : FailsOnlyWith allowed first)
    (nextOnly : ∀ value, FailsOnlyWith allowed (next value)) :
    FailsOnlyWith allowed (first >>= next) :=
  bind_of_ok firstOnly fun value _ => nextOnly value

theorem map
    {outcome : Except Error Value}
    (only : FailsOnlyWith allowed outcome)
    (convert : Value → Result) : FailsOnlyWith allowed (outcome.map convert) := by
  cases outcome with
  | error error => exact of_error (only error rfl)
  | ok value => exact ok (convert value)

theorem mapError
    {outcome : Except Account Value}
    {account : Account → Error}
    (only : FailsOnlyWith (fun error => allowed (account error)) outcome) :
    FailsOnlyWith allowed (outcome.mapError account) := by
  cases outcome with
  | error error => exact of_error (only error rfl)
  | ok value => exact ok value

end FailsOnlyWith

end Stored
end Cadence
