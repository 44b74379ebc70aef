import AlertBridge.Json.Basic
import AlertBridge.Text.Substring

/-!
# Masking secrets

Every occurrence of a secret in a text becomes the mask. Longer secrets go first, so that a secret
that contains another one is masked as a whole; empty ones are left out.
-/

namespace AlertBridge

namespace Mask

/-- What stands for a secret. -/
def mark : String := "*****"

/-- Secrets in the order in which they are masked: each once, the longest first. -/
def ordered (secrets : List String) : List String :=
  (dedup (secrets.filter (· ≠ ""))).mergeSort fun a b => b.length ≤ a.length

/-- Secrets masked one after the other. -/
def each (secrets : List String) (text : String) : String :=
  secrets.foldl (fun text secret => replaceAll secret mark text) text

/-- A text without secrets. -/
def text (secrets : List String) (shown : String) : String := each (ordered secrets) shown

/-- A value without secrets, if it is a text. What is inside of other values stays. -/
def value (secrets : List String) : Json → Json
  | .str shown => .str (Mask.text secrets shown)
  | v => v

/-- The fields of an event without secrets. -/
def fields (secrets : List String) (event : List (String × Json)) : List (String × Json) :=
  event.map fun (name, v) => (name, value secrets v)

end Mask

end AlertBridge
