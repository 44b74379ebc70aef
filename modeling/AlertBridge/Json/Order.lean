import AlertBridge.Json.Access

/-!
# Comparing numbers

Integers and doubles compare by their exact values, where true counts as one and false as zero.
-/

namespace AlertBridge.Json

/-- How two numbers compare; not a number compares with none. -/
def order? : Int ⊕ Binary64 → Int ⊕ Binary64 → Option Ordering
  | .inl m, .inl n => some (compare m n)
  | .inr x, .inl n => x.compareInt? n
  | .inl m, .inr y => (y.compareInt? m).map Ordering.swap
  | .inr x, .inr y => x.compare? y

/-- Two values are numbers, and the first is not above the second. -/
def atMost (v w : Json) : Except Fault Bool :=
  match plus.number? v, plus.number? w with
  | some x, some y => .ok (match order? x y with
    | some .lt => true
    | some .eq => true
    | _ => false)
  | _, _ => .error .notComparable

/-- Two values are numbers, and the first is above the second. -/
def above (v w : Json) : Except Fault Bool :=
  match plus.number? v, plus.number? w with
  | some x, some y => .ok (order? x y == some .gt)
  | _, _ => .error .notComparable

end AlertBridge.Json
