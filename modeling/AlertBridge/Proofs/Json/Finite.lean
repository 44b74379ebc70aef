import AlertBridge.Json.Written
import AlertBridge.Proofs.Alert.Form

/-!
# Values whose numbers are all finite

JSON cannot write a number that is not finite. If a value has none, neither have its parts, and so
neither have the annotations of an alert.

Main statement: `Alert.isFinite_annotations`.
-/

namespace AlertBridge

namespace Json

theorem areFiniteItems_iff {items : List Json} :
    areFiniteItems items ↔ ∀ v ∈ items, v.isFinite := by
  induction items with
  | nil => simp [areFiniteItems]
  | cons v items ih => simp [areFiniteItems, ih]

theorem areFiniteFields_iff {fields : List (String × Json)} :
    areFiniteFields fields ↔ ∀ f ∈ fields, f.2.isFinite := by
  induction fields with
  | nil => simp [areFiniteFields]
  | cons f fields ih => simp [areFiniteFields, ih]

/-- What is asked for is a part of the value, or null. -/
theorem isFinite_of_get {v w : Json} {name : String} (hv : v.isFinite) (h : v.get name = .ok w) :
    w.isFinite := by
  cases v with
  | obj fields =>
    obtain rfl := Except.ok.inj h
    cases hfield : fieldOf? fields name with
    | none => rfl
    | some w =>
      rw [isFinite, areFiniteFields_iff] at hv
      exact hv _ (mem_of_fieldOf? hfield)
  | _ => cases h

theorem isFinite_orElse {v w : Json} (hv : v.isFinite) (hw : w.isFinite) :
    (v.orElse w).isFinite := by
  rw [orElse]
  split
  · exact hv
  · exact hw

end Json

theorem Alert.isFinite_annotations {alert annotations : Json} (halert : alert.isFinite)
    (h : Alert.annotations alert = .ok annotations) : annotations.isFinite := by
  obtain ⟨value, hvalue, h⟩ := bind_eq_ok_iff.1 h
  obtain rfl := Except.ok.inj h
  exact Json.isFinite_orElse (Json.isFinite_of_get halert hvalue) rfl

end AlertBridge
