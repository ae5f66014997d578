/-!
# Scaled numbers

A natural number times a power of a base, with a sign: what decimal amounts and binary
floating point numbers have in common.
-/

namespace Cadence
namespace Number

/-- The factor that a power with a whole exponent puts above the line of a
fraction. -/
def raised (base : Nat) (exponent : Int) : Nat :=
  Nat.pow base exponent.toNat

/-- The whole number between a scaled number and zero that is nearest to it. -/
def truncated
    (base : Nat)
    (negative : Bool)
    (coefficient : Nat)
    (exponent : Int) : Int :=
  let magnitude : Int :=
    (coefficient * raised base exponent / raised base (-exponent) : Nat)
  if negative then -magnitude else magnitude

end Number
end Cadence
