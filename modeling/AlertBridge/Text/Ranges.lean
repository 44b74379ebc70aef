/-!
# Membership in a table of code points

A Unicode property is kept as a list of closed ranges of code points; `inRanges` asks whether a
character lies in one of them.
-/

namespace AlertBridge

/-- The character lies in one of the closed ranges. -/
def inRanges (ranges : List (Nat × Nat)) (c : Char) : Bool :=
  ranges.any fun r => r.1 ≤ c.toNat && c.toNat ≤ r.2

end AlertBridge
