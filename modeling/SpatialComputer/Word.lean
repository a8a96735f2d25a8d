/-!
# Words

Counts, ids and seeds have to fit in 64 bits. They are natural numbers here, and whatever comes from outside is checked against the size of a word.
-/

namespace SpatialComputer

/-- The least number that does not fit in 64 bits. -/
def wordBound : Nat := 0x10000000000000000

def word? (n : Nat) : Option Nat := if n < wordBound then some n else none

end SpatialComputer
