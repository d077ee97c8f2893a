/-!
# Numbers

Sums of numbers, and which power of natural numbers is meant.

A power of natural numbers is that of the core library. The algebra which some proofs import brings
the powers of all monoids, and makes them the first choice wherever the type of an exponent is left
open, as in `2 ^ 64`. Both come to the same number, but a bound that is written in a module without
that algebra would not match the same bound in a module with it, nor would `omega` and `decide` see
through both alike. So the power of the core library comes first in every module that imports this
one, directly or not: as an instance, and where the exponent is a literal. This decides which of
two equal terms is written down and nothing that is computed. It cannot be made local to a section,
since a choice of the second kind is always made for all that follows.
-/

attribute [instance (high), default_instance 20000] instPowNat

namespace HistoryExpansion

/-- The sum of numbers. -/
def sumOf (numbers : List Nat) : Nat :=
  numbers.foldr (· + ·) 0

end HistoryExpansion
