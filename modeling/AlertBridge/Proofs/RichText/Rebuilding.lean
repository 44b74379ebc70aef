import AlertBridge.RichText.Schema

/-!
# Nodes that their constructors make again

Each node of a rich text has a type, and each type has a constructor whose parameters are the other
fields of the node. A node of proper shape passes all checks of its constructor, which gives back
the node as it was: nothing is added, dropped or put in another order.

## Main definitions

* `rebuild?`, `Rebuilds`: what the constructor of a node makes of its fields
* `IsStyle`, `IsRun`, `IsSection`, `IsList`: the shapes of nodes

## Main results

* `IsRun.rebuilds`, `IsSection.rebuilds`, `IsList.rebuilds`: nodes of these shapes are made again
-/

namespace AlertBridge.Schema

/-! ## Making nodes again -/

/-- The names of the constructors of the types of nodes. -/
def constructorNames : List (String × String) := [
  ("rich_text", "rich"), ("rich_text_section", "rich_section"),
  ("rich_text_preformatted", "rich_preformatted"), ("rich_text_quote", "rich_quote"),
  ("rich_text_list", "rich_list"), ("text", "rich_text"), ("link", "rich_link")]

/-- What the constructor of a node's type makes of the other fields of the node, given by name. -/
def rebuild? (node : Json) : Option (Except Fault Json) :=
  match node with
  | .obj (("type", .str type) :: fields) =>
    (constructorNames.lookup type).bind fun name => construct? name [] fields
  | _ => none

/-- The nodes that a node holds. -/
def partsOf (node : Json) : List Json :=
  match node with
  | .obj fields => match Json.fieldOf? fields "elements" with
    | some (.arr parts) => parts
    | _ => []
  | _ => []

/-- A node, and every node below it, is what its constructor makes of its fields. -/
inductive Rebuilds : Json → Prop where
  | intro {node : Json} (hself : rebuild? node = some (.ok node))
      (hparts : ∀ part ∈ partsOf node, Rebuilds part) : Rebuilds node

/-! ## Shapes -/

/-- The styles of a run, if it has any: true for some words of the vocabulary, in its order. -/
inductive IsStyle : List (String × Json) → Prop where
  | unstyled : IsStyle []
  | styled {words : List String} (hne : words ≠ []) (hwords : words.Sublist styleWords) :
      IsStyle [("style", .obj (words.map fun word => (word, .bool true)))]

/-- A run of text or a link. -/
inductive IsRun : Json → Prop where
  | text (text : String) {style : List (String × Json)} (hstyle : IsStyle style) :
      IsRun (typed "text" (("text", .str text) :: style))
  | link (url text : String) {style : List (String × Json)} (hstyle : IsStyle style) :
      IsRun (typed "link" (("url", .str url) :: ("text", .str text) :: style))

/-- A node of a type that holds nodes. -/
def holder (type : String) (parts : List Json) : Json := typed type [("elements", .arr parts)]

/-- A section of runs. -/
inductive IsSection : Json → Prop where
  | intro {runs : List Json} (hruns : ∀ run ∈ runs, IsRun run) :
      IsSection (holder "rich_text_section" runs)

/-- A list of sections, at least one, that is indented no further than `ceiling`. -/
inductive IsList (ceiling : Int) : Json → Prop where
  | intro {style : String} {indent : Int} {items : List Json}
      (hstyle : style = "bullet" ∨ style = "ordered") (hindent : 0 ≤ indent ∧ indent ≤ ceiling)
      (hne : items ≠ []) (hitems : ∀ item ∈ items, IsSection item) :
      IsList ceiling (typed "rich_text_list" [("style", .str style), ("indent", .int indent),
        ("offset", .int 0), ("border", .int 0), ("elements", .arr items)])

/-! ## Styles and runs -/

theorem checkStyleFields_of_words {words : List String} (h : ∀ word ∈ words, word ∈ styleWords) :
    checkStyleFields (words.map fun word => (word, .bool true)) = .ok () := by
  induction words with
  | nil => rfl
  | cons word words ih =>
    obtain ⟨hword, hwords⟩ := List.forall_mem_cons.1 h
    rw [List.map_cons, checkStyleFields, if_pos (List.contains_iff_mem.2 hword)]
    exact ih hwords

/-- A style of words of the vocabulary is kept as it is. -/
theorem styleFields_of_words {words : List String} (hne : words ≠ [])
    (hwords : words.Sublist styleWords) :
    styleFields (.obj (words.map fun word => (word, .bool true))) =
      .ok [("style", .obj (words.map fun word => (word, .bool true)))] := by
  have htruthy : (Json.obj (words.map fun word => (word, .bool true))).truthy = true := by
    simpa [Json.truthy] using hne
  have hcheck : checkStyle (.obj (words.map fun word => (word, .bool true))) = .ok () :=
    checkStyleFields_of_words fun word hword => hwords.subset hword
  rw [styleFields, if_pos htruthy, hcheck]
  rfl

theorem richText_of_styleFields {style : Json} {fields : List (String × Json)}
    (h : styleFields style = .ok fields) (text : Json) :
    richText text style = .ok (typed "text" (("text", text) :: fields)) := by
  rw [richText, h]
  rfl

theorem richLink_of_styleFields {style : Json} {fields : List (String × Json)}
    (h : styleFields style = .ok fields) (url text : Json) :
    richLink url text style = .ok (typed "link" (("url", url) :: ("text", text) :: fields)) := by
  rw [richLink, h]
  rfl

/-- A run holds no nodes. -/
theorem IsRun.partsOf_eq_nil {run : Json} (h : IsRun run) : partsOf run = [] := by
  cases h with
  | text text hstyle | link url text hstyle => cases hstyle <;> rfl

theorem IsRun.rebuild?_eq {run : Json} (h : IsRun run) : rebuild? run = some (.ok run) := by
  cases h with
  | text text hstyle =>
    cases hstyle with
    | unstyled => rfl
    | styled hne hwords =>
      exact congrArg some (richText_of_styleFields (styleFields_of_words hne hwords) (.str text))
  | link url text hstyle =>
    cases hstyle with
    | unstyled => rfl
    | styled hne hwords =>
      exact congrArg some
        (richLink_of_styleFields (styleFields_of_words hne hwords) (.str url) (.str text))

theorem IsRun.rebuilds {run : Json} (h : IsRun run) : Rebuilds run :=
  .intro h.rebuild?_eq (by simp [h.partsOf_eq_nil])

/-! ## Nodes that hold nodes -/

/-- The types of nodes that have nothing but the nodes that they hold. -/
def holderTypes : List String :=
  ["rich_text", "rich_text_section", "rich_text_preformatted", "rich_text_quote"]

theorem rebuild?_holder {type : String} (h : type ∈ holderTypes) (parts : List Json) :
    rebuild? (holder type parts) = some (.ok (holder type parts)) := by
  simp only [holderTypes, List.mem_cons, List.not_mem_nil, or_false] at h
  rcases h with rfl | rfl | rfl | rfl <;> rfl

theorem rebuilds_holder {type : String} (h : type ∈ holderTypes) {parts : List Json}
    (hparts : ∀ part ∈ parts, Rebuilds part) : Rebuilds (holder type parts) :=
  .intro (rebuild?_holder h parts) hparts

theorem IsSection.rebuilds {node : Json} (h : IsSection node) : Rebuilds node := by
  obtain ⟨hruns⟩ := h
  exact rebuilds_holder (by decide) fun run hrun => (hruns run hrun).rebuilds

theorem IsList.rebuilds {ceiling : Int} {node : Json} (h : IsList ceiling node) :
    Rebuilds node := by
  obtain ⟨hstyle, -, -, hitems⟩ := h
  refine .intro ?_ fun item hitem => (hitems item hitem).rebuilds
  rcases hstyle with rfl | rfl <;> rfl

end AlertBridge.Schema
