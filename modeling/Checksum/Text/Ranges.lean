/-!
# Sets of characters

A set of characters is listed as the ranges of code points that it covers, each with its first and
its last member, in ascending order.
-/

namespace Checksum.Text

abbrev Ranges := List (Nat × Nat)

def Ranges.has (ranges : Ranges) (c : Char) : Bool :=
  ranges.any fun range => range.1 ≤ c.toNat && c.toNat ≤ range.2

end Checksum.Text
