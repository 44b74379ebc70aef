import AlertBridge.Proofs.Alert.Form
import AlertBridge.Proofs.Fault.Sequence
import AlertBridge.Proofs.RichText.Rebuilding

/-!
# What the constructors of the schema accept

Four constructors look at their arguments, which may be any values. Each has a list of conditions: a
list those on its elements, its style and its three numbers, a run of text or a link those on the
entries of its style, one after the other, and a simple list those on its texts. The constructor
gives a block exactly if all conditions hold, and otherwise it reports the first that does not.

A check is a step: it goes on to the rest of the conditions, or it ends with its fault
(`Checks.cons`). So the order of the conditions is that of the steps.

## Main definitions

* `Condition`, `FirstBroken`: conditions in their order, and the first that does not hold
* `Call`: a call of one of the constructors, with its conditions and its block
* `Checks`: how a result answers to conditions

## Main results

* `checks_result`: every call answers to its conditions, and its block is made again of its fields
-/

namespace AlertBridge.Schema

/-! ## Conditions -/

/-- A condition on arguments, and the rule that is broken where it does not hold. -/
structure Condition where
  holds : Prop
  fault : SchemaFault

/-- The first condition that does not hold has this fault. -/
inductive FirstBroken : List Condition → SchemaFault → Prop where
  | here {c : Condition} {rest : List Condition} (h : ¬ c.holds) : FirstBroken (c :: rest) c.fault
  | later {c : Condition} {rest : List Condition} {fault : SchemaFault} (h : c.holds)
      (hrest : FirstBroken rest fault) : FirstBroken (c :: rest) fault

/-- A result that is the block if all conditions hold, and the fault of the first that does not
otherwise. -/
structure Checks (conditions : List Condition) (block : Json) (result : Except Fault Json) :
    Prop where
  ok_iff : ∀ node, result = .ok node ↔ (∀ c ∈ conditions, c.holds) ∧ node = block
  error_iff : ∀ fault, result = .error fault ↔
    ∃ broken, FirstBroken conditions broken ∧ fault = .schema broken

section Steps

variable {c : Condition} {rest : List Condition} {block : Json} {result : Except Fault Json}
  {fault : SchemaFault}

theorem firstBroken_cons_of_holds (h : c.holds) :
    FirstBroken (c :: rest) fault ↔ FirstBroken rest fault := by
  constructor
  · intro hbroken
    cases hbroken with
    | here hc => exact absurd h hc
    | later _ hrest => exact hrest
  · exact .later h

theorem firstBroken_cons_of_not_holds (h : ¬ c.holds) :
    FirstBroken (c :: rest) fault ↔ fault = c.fault := by
  constructor
  · intro hbroken
    cases hbroken with
    | here => rfl
    | later hc => exact absurd hc h
  · rintro rfl
    exact .here h

theorem checks_nil (block : Json) : Checks [] block (.ok block) where
  ok_iff node := by simp [eq_comm]
  error_iff fault := by
    constructor
    · intro h
      cases h
    · rintro ⟨broken, hbroken, -⟩
      cases hbroken

/-- **The step of a check.** If the condition holds, the result answers to the rest of the
conditions, and otherwise it is the fault of this one. -/
theorem Checks.cons (hrest : c.holds → Checks rest block result)
    (hbroken : ¬ c.holds → result = broken c.fault) : Checks (c :: rest) block result := by
  by_cases hc : c.holds
  · obtain ⟨hok, herror⟩ := hrest hc
    refine ⟨fun node => ?_, fun fault => ?_⟩
    · rw [hok, List.forall_mem_cons, and_iff_right hc]
    · simp only [herror, firstBroken_cons_of_holds hc]
  · rw [hbroken hc]
    refine ⟨fun node => ?_, fun fault => ?_⟩
    · constructor
      · intro h
        cases h
      · rintro ⟨hall, -⟩
        exact absurd (hall c List.mem_cons_self) hc
    · simp only [firstBroken_cons_of_not_holds hc, exists_eq_left]
      rw [Schema.broken, Except.error.injEq, eq_comm]

/-- A check in front of what follows it. -/
theorem Checks.bind {α : Type} {check : Except Fault α} {next : α → Except Fault Json} {a : α}
    (hok : c.holds → check = .ok a) (hbroken : ¬ c.holds → check = broken c.fault)
    (hrest : c.holds → Checks rest block (next a)) : Checks (c :: rest) block (check >>= next) := by
  apply Checks.cons
  · intro hc
    rw [bind_of_ok (hok hc)]
    exact hrest hc
  · intro hc
    rw [hbroken hc]
    rfl

/-- A test in front of what follows it. -/
theorem Checks.unless {test : Bool} {next : PUnit → Except Fault Json}
    (htest : test = true ↔ c.holds) (hfault : ¬ c.holds → fault = c.fault)
    (hrest : c.holds → Checks rest block (next ⟨⟩)) :
    Checks (c :: rest) block (if (!test) = true then broken fault >>= next else next ⟨⟩) := by
  apply Checks.cons
  · intro hc
    rw [if_neg (by simp [htest.2 hc])]
    exact hrest hc
  · intro hc
    rw [if_pos (by simpa using mt htest.1 hc), hfault hc]
    rfl

end Steps

/-! ## The conditions of the constructors -/

/-- An array. -/
def IsArray (v : Json) : Prop := ∃ items, v = .arr items

/-- Null, or one of the two styles of lists. -/
def IsNullOrListStyle (v : Json) : Prop := v = .null ∨ v = .str "bullet" ∨ v = .str "ordered"

/-- Null, or a number. A truth value is none. -/
def IsNullOrNumber (v : Json) : Prop := v = .null ∨ (∃ n, v = .int n) ∨ ∃ x, v = .real x

/-- The items of an array. -/
def itemsOf (v : Json) : List Json :=
  match v with
  | .arr items => items
  | _ => []

/-- The entries of an object, in their order. -/
def entriesOf (v : Json) : List (String × Json) :=
  match v with
  | .obj entries => entries
  | _ => []

/-- An entry of a style has a key of the vocabulary, and its value is a truth value. -/
def entryConditions (entry : String × Json) : List Condition := [
  ⟨entry.1 ∈ ["bold", "italic", "strike", "code"], .unknownStyleKey entry.1⟩,
  ⟨∃ b, entry.2 = .bool b, .styleValueNotBoolean entry.1 entry.2⟩]

/-- A style that counts as present is an object, and each of its entries is proper. -/
def styleConditions (style : Json) : List Condition :=
  if style.truthy then
    ⟨∃ entries, style = .obj entries, .styleNotAnObject style⟩ ::
      (entriesOf style).flatMap entryConditions
  else []

/-- A style as a field, if it counts as present. -/
def styleEntry (style : Json) : List (String × Json) :=
  if style.truthy then [("style", style)] else []

/-- A section with one text. -/
def textSection (text : Json) : Json := holder "rich_text_section" [typed "text" [("text", text)]]

/-- A list of given fields. -/
def listBlock (elements style indent offset border : Json) : Json :=
  typed "rich_text_list" [("style", style), ("indent", indent), ("offset", offset),
    ("border", border), ("elements", elements)]

/-- The texts of the items of a simple list. -/
def itemTexts (node : Json) : List Json :=
  (((partsOf node).flatMap partsOf).flatMap partsOf).map fun run => run.part "text"

/-- A call of a constructor that looks at its arguments. -/
inductive Call where
  | list (elements style indent offset border : Json)
  | text (content style : Json)
  | link (url content style : Json)
  | simpleList (elements : Json)

namespace Call

/-- What the constructor makes of the arguments. -/
def result : Call → Except Fault Json
  | list elements style indent offset border => richList elements style indent offset border
  | text content style => richText content style
  | link url content style => richLink url content style
  | simpleList elements => Schema.simpleList elements

/-- The conditions on the arguments, in their order. -/
def conditions : Call → List Condition
  | list elements style indent offset border => [
      ⟨IsArray elements, .notAnArray "elements" elements⟩,
      ⟨IsNullOrListStyle style, .unknownListStyle style⟩,
      ⟨IsNullOrNumber indent, .notANumber "indent" indent⟩,
      ⟨IsNullOrNumber offset, .notANumber "offset" offset⟩,
      ⟨IsNullOrNumber border, .notANumber "border" border⟩]
  | text _ style => styleConditions style
  | link _ _ style => styleConditions style
  | simpleList elements => [
      ⟨IsArray elements, .notAnArray "elements" elements⟩,
      ⟨∀ item ∈ itemsOf elements, ∃ text, item = .str text, .elementNotText⟩]

/-- The block that is made of proper arguments. -/
def block : Call → Json
  | list elements style indent offset border =>
    listBlock elements (orDefault style (.str "bullet")) (orDefault indent (.int 0))
      (orDefault offset (.int 0)) (orDefault border (.int 0))
  | text content style => typed "text" (("text", content) :: styleEntry style)
  | link url content style =>
    typed "link" (("url", url) :: ("text", content) :: styleEntry style)
  | simpleList elements =>
    holder "rich_text" [listBlock (.arr ((itemsOf elements).map textSection)) (.str "bullet")
      (.int 0) (.int 0) (.int 0)]

/-- A call of the same constructor with the fields of a node, or for a simple list with the texts of
its items. -/
def again (node : Json) : Call → Call
  | list .. => list (node.part "elements") (node.part "style") (node.part "indent")
      (node.part "offset") (node.part "border")
  | text .. => text (node.part "text") (node.part "style")
  | link .. => link (node.part "url") (node.part "text") (node.part "style")
  | simpleList _ => simpleList (.arr (itemTexts node))

end Call

/-! ## Lists -/

variable {v style : Json}

theorem isListStyle_orDefault_iff :
    isListStyle (orDefault v (.str "bullet")) = true ↔ IsNullOrListStyle v := by
  cases v <;> simp [isListStyle, orDefault, IsNullOrListStyle]

theorem checkNumber_of_isNullOrNumber (h : IsNullOrNumber v) (name : String) :
    checkNumber (orDefault v (.int 0)) name = .ok () := by
  rcases h with rfl | ⟨n, rfl⟩ | ⟨x, rfl⟩ <;> rfl

theorem checkNumber_of_not_isNullOrNumber (h : ¬ IsNullOrNumber v) (name : String) :
    checkNumber (orDefault v (.int 0)) name = broken (.notANumber name v) := by
  cases v with
  | null => exact absurd (.inl rfl) h
  | int n => exact absurd (.inr (.inl ⟨n, rfl⟩)) h
  | real x => exact absurd (.inr (.inr ⟨x, rfl⟩)) h
  | bool | str | arr | obj => rfl

theorem ensureArray_of_not_isArray (h : ¬ IsArray v) (name : String) :
    ensureArray v name = broken (.notAnArray name v) := by
  cases v with
  | arr items => exact absurd ⟨items, rfl⟩ h
  | null | bool | int | real | str | obj => rfl

/-- A style that is neither null nor one of the two is reported as it is. -/
theorem orDefault_of_not_isNullOrListStyle (h : ¬ IsNullOrListStyle v) (default : Json) :
    orDefault v default = v := by
  cases v with
  | null => exact absurd (.inl rfl) h
  | bool | int | real | str | arr | obj => rfl

theorem checks_richList (elements style indent offset border : Json) :
    Checks (Call.list elements style indent offset border).conditions
      (Call.list elements style indent offset border).block
      (richList elements style indent offset border) := by
  unfold richList
  refine Checks.bind (a := itemsOf elements) ?_ (ensureArray_of_not_isArray · _) ?_
  · rintro ⟨items, rfl⟩
    rfl
  rintro ⟨items, rfl⟩
  refine Checks.unless isListStyle_orDefault_iff ?_ fun _ => ?_
  · intro hstyle
    rw [orDefault_of_not_isNullOrListStyle hstyle]
  refine Checks.bind (checkNumber_of_isNullOrNumber · _) (checkNumber_of_not_isNullOrNumber · _)
    fun _ => ?_
  refine Checks.bind (checkNumber_of_isNullOrNumber · _) (checkNumber_of_not_isNullOrNumber · _)
    fun _ => ?_
  refine Checks.bind (checkNumber_of_isNullOrNumber · _) (checkNumber_of_not_isNullOrNumber · _)
    fun _ => ?_
  exact checks_nil _

/-! ## Styles -/

theorem checks_checkStyleFields (entries : List (String × Json)) (block : Json) :
    Checks (entries.flatMap entryConditions) block
      (checkStyleFields entries >>= fun _ => .ok block) := by
  induction entries with
  | nil => exact checks_nil block
  | cons entry entries ih =>
    obtain ⟨key, value⟩ := entry
    have hword : styleWords.contains key = true ↔ key ∈ ["bold", "italic", "strike", "code"] :=
      List.contains_iff_mem
    unfold checkStyleFields
    refine Checks.cons (fun hkey => ?_) fun hkey => ?_
    · rw [if_pos (hword.2 hkey)]
      refine Checks.cons ?_ fun hvalue => ?_
      · rintro ⟨b, rfl⟩
        exact ih
      · cases value with
        | bool b => exact absurd ⟨b, rfl⟩ hvalue
        | null | int | real | str | arr | obj => rfl
    · rw [if_neg (mt hword.1 hkey)]
      rfl

/-- What is made with a style answers to the conditions on the style. -/
theorem checks_styleFields (style : Json) (make : List (String × Json) → Json) :
    Checks (styleConditions style) (make (styleEntry style))
      (styleFields style >>= fun fields => .ok (make fields)) := by
  rw [styleConditions, styleFields, styleEntry]
  by_cases htruthy : style.truthy
  · rw [if_pos htruthy, if_pos htruthy, if_pos htruthy]
    refine Checks.cons ?_ fun hobject => ?_
    · rintro ⟨entries, rfl⟩
      have hsteps : ((checkStyle (.obj entries) >>= fun _ => pure [("style", Json.obj entries)]) >>=
          fun fields => Except.ok (make fields)) =
            checkStyleFields entries >>= fun _ => .ok (make [("style", .obj entries)]) := by
        rw [bind_assoc]
        rfl
      rw [hsteps]
      exact checks_checkStyleFields entries _
    · cases style with
      | obj entries => exact absurd ⟨entries, rfl⟩ hobject
      | null | bool | int | real | str | arr => rfl
  · rw [if_neg htruthy, if_neg htruthy, if_neg htruthy]
    exact checks_nil _

/-! ## Simple lists -/

theorem areTexts_iff {items : List Json} :
    areTexts items = true ↔ ∀ item ∈ items, ∃ text, item = .str text := by
  rw [areTexts, List.all_eq_true]
  refine forall₂_congr fun item _ => ?_
  cases item <;> simp

theorem checks_simpleList (elements : Json) :
    Checks (Call.simpleList elements).conditions (Call.simpleList elements).block
      (simpleList elements) := by
  unfold simpleList
  refine Checks.bind (a := itemsOf elements) ?_ (ensureArray_of_not_isArray · _) ?_
  · rintro ⟨items, rfl⟩
    rfl
  rintro ⟨items, rfl⟩
  refine Checks.unless areTexts_iff (fun _ => rfl) fun _ => ?_
  have hsections : (items.mapM fun text => do richSection (.arr [← richText text .null])) =
      .ok (items.map textSection) :=
    mapM_eq_ok_map fun _ _ => rfl
  dsimp only [itemsOf]
  rw [bind_of_ok hsections]
  exact checks_nil _

/-! ## All calls -/

theorem Call.checks (call : Call) : Checks call.conditions call.block call.result := by
  cases call with
  | list elements style indent offset border =>
    exact checks_richList elements style indent offset border
  | text content style =>
    exact checks_styleFields style fun fields => typed "text" (("text", content) :: fields)
  | link url content style =>
    exact checks_styleFields style fun fields =>
      typed "link" (("url", url) :: ("text", content) :: fields)
  | simpleList elements => exact checks_simpleList elements

theorem orDefault_orDefault (v default : Json) :
    orDefault (orDefault v default) default = orDefault v default := by
  cases v with
  | null => cases default <;> rfl
  | bool | int | real | str | arr | obj => rfl

/-- A style that does not count as present makes no difference. -/
theorem styleFields_of_present (style : Json) :
    styleFields (if style.truthy then style else .null) = styleFields style := by
  split
  · rfl
  · next hfalsy =>
    rw [styleFields, styleFields, if_neg hfalsy]
    rfl

theorem part_style_text (content style : Json) :
    (Call.text content style).block.part "style" = if style.truthy then style else .null := by
  rw [Call.block, styleEntry]
  split <;> rfl

theorem part_style_link (url content style : Json) :
    (Call.link url content style).block.part "style" = if style.truthy then style else .null := by
  rw [Call.block, styleEntry]
  split <;> rfl

theorem itemTexts_block (items : List Json) :
    itemTexts (Call.simpleList (.arr items)).block = items := by
  have hsections : (partsOf (Call.simpleList (.arr items)).block).flatMap partsOf =
      items.map textSection := List.append_nil _
  rw [itemTexts, hsections]
  induction items with
  | nil => rfl
  | cons item items ih =>
    rw [List.map_cons, List.flatMap_cons, List.map_append, ih]
    · rfl
    · exact List.append_nil _

/-- What a constructor makes is made again of its fields. -/
theorem Call.result_again {call : Call} {node : Json} (h : call.result = .ok node) :
    (call.again node).result = .ok node := by
  obtain ⟨hholds, rfl⟩ := (call.checks.ok_iff node).1 h
  rw [← h]
  cases call with
  | list elements style indent offset border =>
    show richList elements (orDefault style _) (orDefault indent _) (orDefault offset _)
      (orDefault border _) = richList elements style indent offset border
    simp only [richList, orDefault_orDefault]
  | text content style =>
    show richText content ((Call.text content style).block.part "style") = richText content style
    rw [part_style_text, richText, richText, styleFields_of_present]
  | link url content style =>
    show richLink url content ((Call.link url content style).block.part "style") =
      richLink url content style
    rw [part_style_link, richLink, richLink, styleFields_of_present]
  | simpleList elements =>
    obtain ⟨items, rfl⟩ := (List.forall_mem_cons.1 hholds).1
    rw [Call.again, itemTexts_block]

/-- **The constructors accept what the schema admits.** For any arguments a call gives its block if
all of its conditions hold, and otherwise the fault of the first that does not; and the block is
made again by the same constructor of its own fields. -/
theorem checks_result (call : Call) :
    Checks call.conditions call.block call.result ∧
      ∀ node, call.result = .ok node → (call.again node).result = .ok node :=
  ⟨call.checks, fun _ => Call.result_again⟩

/-- A list with a style that there is not, and with an indentation that is no number. -/
def oddList : Call := .list (.arr []) (.str "square") (.bool true) .null .null

/-- A link in bold that is not struck through. -/
def boldLink : Call :=
  .link (.str "u") (.str "a") (.obj [("bold", .bool true), ("strike", .bool false)])

/-- Of two faults the first is reported, and a style with proper entries is kept. -/
theorem checks_result_boldLink :
    oddList.result = .error (.schema (.unknownListStyle (.str "square"))) ∧
      boldLink.result = .ok boldLink.block ∧
      (boldLink.again boldLink.block).result = .ok boldLink.block := by
  obtain ⟨hodd, -⟩ := checks_result oddList
  obtain ⟨hbold, hagain⟩ := checks_result boldLink
  have hstyle : ¬ IsNullOrListStyle (.str "square") := by
    simp [IsNullOrListStyle]
  have hholds : ∀ c ∈ boldLink.conditions, c.holds := by
    simp [boldLink, Call.conditions, styleConditions, Json.truthy, entriesOf, entryConditions]
  have hresult : boldLink.result = .ok boldLink.block := (hbold.ok_iff _).2 ⟨hholds, rfl⟩
  refine ⟨?_, hresult, hagain _ hresult⟩
  exact (hodd.error_iff _).2 ⟨_, .later ⟨[], rfl⟩ (.here hstyle), rfl⟩

end AlertBridge.Schema
