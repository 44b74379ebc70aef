import AlertBridge.Token.Basic

/-!
# Induction on trees of tokens

A child weighs less than its parent. So a property of tokens holds if it passes from the children
of a token to the token. A list is looked at two levels at a time, as its children are items, so
that a property of lists passes to a list from the children of its items.

`Occurs` tells which tokens there are in a forest, and how many levels down each of them is.
-/

namespace AlertBridge.Token

theorem weight_le_weights {t : Token} {ts : List Token} (h : t ∈ ts) : t.weight ≤ weights ts := by
  induction ts with
  | nil => cases h
  | cons u ts ih =>
    rw [weights]
    rcases List.mem_cons.1 h with rfl | h
    · exact Nat.le_add_right _ _
    · exact Nat.le_add_left_of_le (ih h)

theorem weight_lt_of_mem_children {t u : Token} (h : u ∈ t.children) : u.weight < t.weight := by
  rw [weight_eq t]
  exact Nat.lt_succ_of_le (weight_le_weights h)

theorem induction_on_weight {motive : Token → Prop}
    (step : ∀ t, (∀ u, u.weight < t.weight → motive u) → motive t) (t : Token) : motive t :=
  (measure weight).wf.induction t step

theorem induction_on_children {motive : Token → Prop}
    (step : ∀ t, (∀ u ∈ t.children, motive u) → motive t) (t : Token) : motive t :=
  induction_on_weight (fun t ih => step t fun u hu => ih u (weight_lt_of_mem_children hu)) t

theorem induction_on_items {motive : Token → Prop}
    (step : ∀ t, (∀ item ∈ t.children, ∀ u ∈ item.children, motive u) → motive t) (t : Token) :
    motive t := by
  refine induction_on_weight (fun t ih => step t fun item hitem u hu => ih u ?_) t
  exact Nat.lt_trans (weight_lt_of_mem_children hu) (weight_lt_of_mem_children hitem)

/-! ## Tokens in a forest -/

/-- A token somewhere in a forest, a number of levels down. -/
inductive Occurs : List Token → Nat → Token → Prop where
  | root {forest : List Token} {t : Token} (ht : t ∈ forest) : Occurs forest 0 t
  | deeper {forest : List Token} {t u : Token} {level : Nat} (ht : t ∈ forest)
      (hu : Occurs t.children level u) : Occurs forest (level + 1) u

theorem not_occurs_nil {level : Nat} {t : Token} : ¬ Occurs [] level t := by
  rintro (⟨ht⟩ | ⟨ht, -⟩) <;> cases ht

theorem Occurs.child {forest : List Token} {t u : Token} {level : Nat} (h : Occurs forest level t)
    (hu : u ∈ t.children) : Occurs forest (level + 1) u := by
  induction h with
  | root ht => exact .deeper ht (.root hu)
  | deeper ht _ ih => exact .deeper ht (ih hu)

theorem Occurs.exists_parent {forest : List Token} {u : Token} {level : Nat}
    (h : Occurs forest (level + 1) u) : ∃ t, Occurs forest level t ∧ u ∈ t.children := by
  induction level generalizing forest with
  | zero =>
    obtain ⟨-⟩ | ⟨ht, hu⟩ := h
    obtain ⟨hu⟩ := hu
    exact ⟨_, .root ht, hu⟩
  | succ level ih =>
    obtain ⟨-⟩ | ⟨ht, hu⟩ := h
    obtain ⟨t, hparent, hu⟩ := ih hu
    exact ⟨t, .deeper ht hparent, hu⟩

/-- Every token in a forest has a property at the depth that it has, if the forest lies `depth`
levels down. -/
def Throughout (P : Int → Token → Prop) (depth : Int) (forest : List Token) : Prop :=
  ∀ level t, Occurs forest level t → P (depth + level) t

section Throughout

variable {P : Int → Token → Prop} {depth : Int} {t : Token} {ts us : List Token}

theorem throughout_nil (P : Int → Token → Prop) (depth : Int) : Throughout P depth [] :=
  fun _ _ h => absurd h not_occurs_nil

theorem Throughout.of_mem_root (h : Throughout P depth ts) (ht : t ∈ ts) : P depth t := by
  simpa using h 0 t (.root ht)

theorem Throughout.children (h : Throughout P depth ts) (ht : t ∈ ts) :
    Throughout P (depth + 1) t.children := by
  intro level u hu
  have hroot := h (level + 1) u (.deeper ht hu)
  rwa [Int.natCast_succ, Int.add_comm (level : Int), ← Int.add_assoc] at hroot

/-- A property holds throughout a forest if it holds of each root and throughout its children. -/
theorem throughout_of_forall (hroot : ∀ t ∈ ts, P depth t)
    (hchildren : ∀ t ∈ ts, Throughout P (depth + 1) t.children) : Throughout P depth ts := by
  intro level u hu
  cases hu with
  | root hu => simpa using hroot u hu
  | @deeper _ t _ level ht hu =>
    have hbelow := hchildren t ht level u hu
    rwa [Int.add_assoc, Int.add_comm 1] at hbelow

theorem throughout_cons_iff :
    Throughout P depth (t :: ts) ↔
      P depth t ∧ Throughout P (depth + 1) t.children ∧ Throughout P depth ts := by
  constructor
  · intro h
    refine ⟨h.of_mem_root List.mem_cons_self, h.children List.mem_cons_self, ?_⟩
    exact throughout_of_forall (fun u hu => h.of_mem_root (List.mem_cons_of_mem _ hu))
      fun u hu => h.children (List.mem_cons_of_mem _ hu)
  · rintro ⟨ht, hchildren, hts⟩
    refine throughout_of_forall (List.forall_mem_cons.2 ⟨ht, fun u hu => hts.of_mem_root hu⟩) ?_
    exact List.forall_mem_cons.2 ⟨hchildren, fun u hu => hts.children hu⟩

theorem Throughout.append (h : Throughout P depth ts) (h' : Throughout P depth us) :
    Throughout P depth (ts ++ us) := by
  refine throughout_of_forall (fun u hu => ?_) fun u hu => ?_
  · exact (List.mem_append.1 hu).elim h.of_mem_root h'.of_mem_root
  · exact (List.mem_append.1 hu).elim h.children h'.children

/-- Other tokens without children may take the place of roots. -/
theorem Throughout.of_mem (h : Throughout P depth ts)
    (hmem : ∀ u ∈ us, u ∈ ts ∨ (P depth u ∧ u.children = [])) : Throughout P depth us := by
  refine throughout_of_forall (fun u hu => ?_) fun u hu => ?_
  · exact (hmem u hu).elim h.of_mem_root And.left
  · rcases hmem u hu with hu | ⟨-, hchildren⟩
    · exact h.children hu
    · rw [hchildren]
      exact throughout_nil P (depth + 1)

end Throughout

end AlertBridge.Token
