import AlertBridge.Log.Mask
import AlertBridge.Proofs.FirstOccurrence
import AlertBridge.Proofs.Text.Replacement
import Mathlib.Data.List.Sort

/-!
# No secret is left by masking

Secrets are masked one after the other, so it has to be excluded that masking a secret brings
back one that was masked before. It is enough that secrets do not contain the character that the
mask is made of: then no occurrence of a secret reaches into a mask, and each pass leaves of the
other secrets at most the occurrences that there were. This holds for every order of the secrets.

## Main definitions

* `Occurs pattern text`: the text contains the pattern
* `Maskable secret`: what masking relies on

## Main results

* `not_occurs_each`: no secret occurs in the masked text
* `each_eq_self`: a text without secrets stays
-/

namespace AlertBridge

/-- A text contains a pattern. -/
def Occurs (pattern text : String) : Prop := pattern.toList <:+: text.toList

/-- A secret that masking removes: it is not empty and has no character of the mask. -/
structure Maskable (secret : String) : Prop where
  ne_empty : secret ≠ ""
  not_mem : '*' ∉ secret.toList

namespace Mask

theorem toList_ne_nil_of_maskable {secret : String} (h : Maskable secret) : secret.toList ≠ [] :=
  fun hnil => h.ne_empty (String.toList_eq_nil_iff.1 hnil)

theorem not_mem_of_mem_mark {secret : String} (h : Maskable secret) :
    ∀ c ∈ mark.toList, c ∉ secret.toList := by
  intro c hc
  obtain rfl : c = '*' := by simpa [mark] using hc
  exact h.not_mem

/-! ## One secret -/

theorem not_occurs_replaceAll {secret : String} (h : Maskable secret) (text : String) :
    ¬ Occurs secret (replaceAll secret mark text) := by
  simpa [Occurs, replaceAll] using not_infix_replaceChars (toList_ne_nil_of_maskable h)
    (by decide) (not_mem_of_mem_mark h) text.toList

/-- Masking another secret makes no occurrence of a secret. -/
theorem occurs_of_occurs_replaceAll {secret other text : String} (h : Maskable secret)
    (hother : Maskable other) (hoccurs : Occurs secret (replaceAll other mark text)) :
    Occurs secret text := by
  have hinfix : secret.toList <:+: replaceChars other.toList mark.toList text.toList := by
    simpa [Occurs, replaceAll] using hoccurs
  exact infix_of_infix_replaceChars (toList_ne_nil_of_maskable hother) (by decide)
    (toList_ne_nil_of_maskable h) (not_mem_of_mem_mark h) hinfix

theorem replaceAll_eq_self {secret text : String} (h : ¬ Occurs secret text) :
    replaceAll secret mark text = text := by
  rw [replaceAll, replaceChars_eq_self h, String.ofList_toList]

/-! ## Secrets one after the other -/

theorem each_cons (secret : String) (secrets : List String) (text : String) :
    each (secret :: secrets) text = each secrets (replaceAll secret mark text) := rfl

/-- Masking some secrets makes no occurrence of a secret. -/
theorem occurs_of_occurs_each {secret : String} (h : Maskable secret) {secrets : List String}
    (hsecrets : ∀ s ∈ secrets, Maskable s) {text : String}
    (hoccurs : Occurs secret (each secrets text)) : Occurs secret text := by
  induction secrets generalizing text with
  | nil => exact hoccurs
  | cons other secrets ih =>
    rw [each_cons] at hoccurs
    have hrest := ih (fun s hs => hsecrets s (List.mem_cons_of_mem _ hs)) hoccurs
    exact occurs_of_occurs_replaceAll h (hsecrets other List.mem_cons_self) hrest

/-- The pass of a secret removes it, and later passes do not bring it back. -/
theorem not_occurs_each {secrets : List String} (hsecrets : ∀ s ∈ secrets, Maskable s)
    {secret : String} (hsecret : secret ∈ secrets) (text : String) :
    ¬ Occurs secret (each secrets text) := by
  have h : Maskable secret := hsecrets secret hsecret
  induction secrets generalizing text with
  | nil => simp at hsecret
  | cons other secrets ih =>
    have hrest : ∀ s ∈ secrets, Maskable s := fun s hs => hsecrets s (List.mem_cons_of_mem _ hs)
    rw [each_cons]
    rcases List.mem_cons.1 hsecret with rfl | hsecret
    · exact fun hoccurs => not_occurs_replaceAll h text (occurs_of_occurs_each h hrest hoccurs)
    · exact ih hrest hsecret _

theorem each_eq_self {secrets : List String} {text : String}
    (h : ∀ s ∈ secrets, ¬ Occurs s text) : each secrets text = text := by
  induction secrets with
  | nil => rfl
  | cons secret secrets ih =>
    rw [each_cons, replaceAll_eq_self (h secret List.mem_cons_self)]
    exact ih fun s hs => h s (List.mem_cons_of_mem _ hs)

/-! ## The order of masking -/

@[simp] theorem mem_ordered {secret : String} {secrets : List String} :
    secret ∈ ordered secrets ↔ secret ∈ secrets ∧ secret ≠ "" := by
  simp [ordered]

end Mask

end AlertBridge
