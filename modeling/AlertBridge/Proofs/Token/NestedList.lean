import AlertBridge.Proofs.Text.Concat
import AlertBridge.Proofs.Token.VisibleText

/-!
# Trees of nested lists

`IsNestedList` tells which nodes are lists of which every item begins with a block of texts and goes
on with lists of the same form, to any depth.

Of such a list a certain number of levels can be shown, which `shownText` counts from the list
itself down. Two levels make the step from a list to the lists in its items. If there is room for an
odd number of levels, it ends between an item and what the item holds, and all text of the item is
shown. If there is room for an even number, it ends between a list and its items, and nothing of
that list is shown. `listsAt` gives the lists that are lost then.

## Main definitions

* `IsNestedList`: trees of nested lists
* `shownText`: what is shown of a list where there is room for some levels
* `listsAt`: the lists some steps inside of a list

## Main results

* `shownText_eq_textOf_iff`: which texts are shown as a whole
-/

namespace AlertBridge.Token

open Json (fieldOf?)

/-! ## Lists -/

/-- The fields of a node of a type that holds others. -/
structure IsHolder (fields : List (String × Json)) (type : String) (children : List Json) :
    Prop where
  type_eq : fieldOf? fields "type" = some (.str type)
  raw_eq : fieldOf? fields "raw" = none
  children_eq : fieldOf? fields "children" = some (.arr children)
  attributes : HasAttributes fields

/-- A node that is a text. -/
inductive IsTextNode : Json → Prop where
  | text {fields : List (String × Json)} {raw : String}
      (htype : fieldOf? fields "type" = some (.str "text"))
      (hraw : fieldOf? fields "raw" = some (.str raw)) (hchildren : HasNoChildren fields)
      (hattributes : HasAttributes fields) : IsTextNode (.obj fields)

/-- A node that is a block of texts. -/
inductive IsTextBlock : Json → Prop where
  | block {fields : List (String × Json)} {type : String} {children : List Json}
      (htype : type = "block_text" ∨ type = "paragraph") (h : IsHolder fields type children)
      (htexts : ∀ child ∈ children, IsTextNode child) : IsTextBlock (.obj fields)

mutual

/-- A node that is a list, with lists in its items, to any depth. -/
inductive IsNestedList : Json → Prop where
  | list {fields : List (String × Json)} {items : List Json} (h : IsHolder fields "list" items)
      (hitems : ∀ item ∈ items, IsListItem item) : IsNestedList (.obj fields)

/-- A node that is an item of such a list: a block of texts, and then lists. -/
inductive IsListItem : Json → Prop where
  | item {fields : List (String × Json)} {first : Json} {lists : List Json}
      (h : IsHolder fields "list_item" (first :: lists)) (hfirst : IsTextBlock first)
      (hlists : ∀ l ∈ lists, IsNestedList l) : IsListItem (.obj fields)

end

variable {fields : List (String × Json)} {type : String} {node item part l : Json}
  {nodes children : List Json} {room : Nat}

theorem IsHolder.isNode (h : IsHolder fields type children) (hmem : type ∈ holderTypes)
    (hbelow : ∀ child ∈ children, IsNode child) : IsNode (.obj fields) :=
  .holder h.type_eq hmem h.raw_eq h.children_eq h.attributes hbelow

theorem IsTextNode.isNode (h : IsTextNode node) : IsNode node := by
  obtain ⟨htype, hraw, hchildren, hattributes⟩ := h
  exact .literal htype (by decide) hraw hchildren hattributes

theorem IsTextBlock.isNode (h : IsTextBlock node) : IsNode node := by
  obtain ⟨htype, h, htexts⟩ := h
  refine h.isNode ?_ fun child hchild => (htexts child hchild).isNode
  rcases htype with rfl | rfl <;> decide

mutual

theorem IsNestedList.isNode {l : Json} : IsNestedList l → IsNode l
  | .list h hitems => h.isNode (by decide) fun item hitem => (hitems item hitem).isNode

theorem IsListItem.isNode {item : Json} : IsListItem item → IsNode item
  | .item h hfirst hlists => h.isNode (by decide) fun child hchild =>
    match List.mem_cons.1 hchild with
    | .inl heq => heq ▸ hfirst.isNode
    | .inr hl => (hlists child hl).isNode

end

/-! ### Documents -/

section Documents

open Markdown (Node)

variable {ns : List Node}

theorem isTextBlock_blockText (h : ∀ node ∈ Node.toJsons ns, IsTextNode node) :
    IsTextBlock (Node.blockText ns).toJson :=
  .block (.inl rfl) ⟨rfl, rfl, rfl, hasAttributes_of_none rfl⟩ h

theorem isListItem_listItem {n : Node} (hfirst : IsTextBlock n.toJson)
    (hlists : ∀ l ∈ Node.toJsons ns, IsNestedList l) :
    IsListItem (Node.listItem (n :: ns)).toJson :=
  .item ⟨rfl, rfl, rfl, hasAttributes_of_none rfl⟩ hfirst hlists

theorem isNestedList_list (ordered : Bool) (h : ∀ item ∈ Node.toJsons ns, IsListItem item) :
    IsNestedList (Node.list ordered ns).toJson := by
  refine .list ⟨rfl, rfl, rfl, fun v hv => ?_⟩ h
  obtain rfl := Option.some.inj hv
  exact .inr ⟨_, rfl, Node.isAttributes_ordered ordered⟩

end Documents

/-! ## What a node holds -/

/-- The nodes that a node holds. -/
def nodesBelow (node : Json) : List Json := (childrenOf node).toOption.getD []

/-- The text of a node. -/
def textOf (node : Json) : String := (flatten node).toOption.getD ""

/-- The node is a list. -/
def isListNode (node : Json) : Bool := isType ((node.get "type").toOption.getD .null) "list"

theorem IsHolder.nodesBelow (h : IsHolder fields type children) :
    nodesBelow (.obj fields) = children := by
  rw [Token.nodesBelow, childrenOf_of_fieldOf? h.children_eq]
  rfl

theorem IsHolder.isListNode (h : IsHolder fields type children) :
    isListNode (.obj fields) = (type = "list" : Bool) := by
  rw [Token.isListNode, get_of_fieldOf? h.type_eq]
  rfl

theorem IsTextBlock.isListNode (h : IsTextBlock node) : isListNode node = false := by
  obtain ⟨rfl | rfl, h, -⟩ := h <;> exact h.isListNode

theorem IsNestedList.isListNode (h : IsNestedList l) : isListNode l = true := by
  obtain ⟨h, -⟩ := h
  exact h.isListNode

theorem textOf_of_reads {text : String} (h : Reads [node] text) : textOf node = text := by
  rw [textOf, flatten_eq_ok_iff.2 h]
  rfl

theorem IsNode.reads (h : IsNode node) : Reads [node] (textOf node) := by
  obtain ⟨tokens, text, hshows⟩ := h.exists_shows 0 0
  exact (textOf_of_reads hshows.reads).symm ▸ hshows.reads

theorem reads_of_isNode (h : ∀ node ∈ nodes, IsNode node) :
    Reads nodes (concat (nodes.map textOf)) := by
  induction nodes with
  | nil => exact reads_nil
  | cons node rest ih =>
    obtain ⟨hnode, hrest⟩ := List.forall_mem_cons.1 h
    exact hnode.reads.append (ih hrest)

/-- The text of a node that holds others is their texts, one after the other. -/
theorem IsHolder.textOf (h : IsHolder fields type children) (hmem : type ∈ holderTypes)
    (hbelow : ∀ child ∈ children, IsNode child) :
    textOf (.obj fields) = concat (children.map textOf) :=
  textOf_of_reads (reads_holder h.type_eq hmem h.raw_eq h.children_eq (reads_of_isNode hbelow))

theorem IsNestedList.isListItem (h : IsNestedList l) (hitem : item ∈ nodesBelow l) :
    IsListItem item := by
  obtain ⟨h, hitems⟩ := h
  exact hitems item (h.nodesBelow ▸ hitem)

/-- Only the parts of an item behind the first one are lists. -/
theorem IsListItem.isNestedList (h : IsListItem item) (hpart : part ∈ nodesBelow item)
    (hlist : isListNode part) : IsNestedList part := by
  obtain ⟨h, hfirst, hlists⟩ := h
  rw [h.nodesBelow] at hpart
  rcases List.mem_cons.1 hpart with rfl | hl
  · rw [hfirst.isListNode] at hlist
    cases hlist
  · exact hlists part hl

theorem IsNestedList.textOf (h : IsNestedList l) :
    textOf l = concat ((nodesBelow l).map Token.textOf) := by
  obtain ⟨h, hitems⟩ := h
  rw [h.nodesBelow]
  exact h.textOf (by decide) fun item hitem => (hitems item hitem).isNode

theorem IsListItem.textOf (h : IsListItem item) :
    textOf item = concat ((nodesBelow item).map Token.textOf) := by
  obtain ⟨h, hfirst, hlists⟩ := h
  rw [h.nodesBelow]
  refine h.textOf (by decide) fun child hchild => ?_
  rcases List.mem_cons.1 hchild with rfl | hl
  · exact hfirst.isNode
  · exact (hlists child hl).isNode

/-! ## What is shown of a list -/

/-- What is shown of a list where there is room for some levels of nodes below its own. -/
def shownText : Nat → Json → String
  | 0, _ => ""
  | 1, l => textOf l
  | room + 2, l => concat ((nodesBelow l).map fun item => concat ((nodesBelow item).map fun part =>
      if isListNode part then shownText room part else textOf part))

/-- The lists that lie a number of steps inside of a list, where one step leads to the lists in its
items. -/
def listsAt : Nat → Json → List Json
  | 0, l => [l]
  | steps + 1, l => (nodesBelow l).flatMap fun item =>
      ((nodesBelow item).filter isListNode).flatMap (listsAt steps)

/-- What is shown of a part of an item, if there is room for some levels below the part. -/
def shownPart (room : Nat) (part : Json) : String :=
  if isListNode part then shownText room part else textOf part

theorem shownText_step (room : Nat) (l : Json) : shownText (room + 2) l =
    concat ((nodesBelow l).map fun item => concat ((nodesBelow item).map (shownPart room))) := rfl

theorem IsTextBlock.shownPart (h : IsTextBlock node) (room : Nat) :
    shownPart room node = textOf node := by
  rw [Token.shownPart, h.isListNode, if_neg Bool.false_ne_true]

theorem IsNestedList.shownPart (h : IsNestedList l) (room : Nat) :
    shownPart room l = shownText room l := by
  rw [Token.shownPart, h.isListNode, if_pos rfl]

/-- What is shown of an item is not longer than its text, if that is true of its lists. -/
theorem length_shownPart_le (h : IsListItem item)
    (hlists : ∀ l, IsNestedList l → (shownText room l).length ≤ (textOf l).length)
    (hpart : part ∈ nodesBelow item) : (shownPart room part).length ≤ (textOf part).length := by
  rw [shownPart]
  split
  · next hlist => exact hlists part (h.isNestedList hpart hlist)
  · exact Nat.le_refl _

theorem length_shownText_le (room : Nat) :
    ∀ l, IsNestedList l → (shownText room l).length ≤ (textOf l).length := by
  induction room using Nat.twoStepInduction with
  | zero => exact fun l _ => Nat.zero_le _
  | one => exact fun l _ => Nat.le_refl _
  | more room ih _ =>
    intro l h
    rw [shownText_step, h.textOf]
    refine concat_map_length_le fun item hitem => ?_
    have hitem := h.isListItem hitem
    rw [hitem.textOf]
    exact concat_map_length_le fun part hpart => length_shownPart_le hitem ih hpart

/-- A list is shown as a whole if the lists in its items are. As no part is shown longer than it is,
there is no other way. -/
theorem shownText_step_eq_textOf_iff (h : IsNestedList l) :
    shownText (room + 2) l = textOf l ↔ ∀ item ∈ nodesBelow l, ∀ part ∈ nodesBelow item,
      isListNode part → shownText room part = textOf part := by
  have hpart {item : Json} (hitem : IsListItem item) : ∀ part ∈ nodesBelow item,
      (shownPart room part).length ≤ (textOf part).length :=
    fun part => length_shownPart_le hitem (length_shownText_le room)
  have hitem : ∀ item ∈ nodesBelow l,
      (concat ((nodesBelow item).map (shownPart room))).length ≤ (textOf item).length := by
    intro item hitem
    rw [(h.isListItem hitem).textOf]
    exact concat_map_length_le (hpart (h.isListItem hitem))
  rw [shownText_step, h.textOf, concat_map_eq_iff hitem]
  refine forall₂_congr fun item hitem => ?_
  rw [(h.isListItem hitem).textOf, concat_map_eq_iff (hpart (h.isListItem hitem))]
  refine forall₂_congr fun part _ => ?_
  rw [shownPart]
  cases isListNode part <;> simp

theorem mem_listsAt_succ {steps : Nat} {u : Json} : u ∈ listsAt (steps + 1) l ↔
    ∃ item ∈ nodesBelow l, ∃ part ∈ nodesBelow item, isListNode part ∧ u ∈ listsAt steps part := by
  simp only [listsAt, List.mem_flatMap, List.mem_filter, and_assoc]

/-- **A list is shown as a whole** unless there is room for an even number of levels, and a list
with a text lies half as many steps inside. -/
theorem shownText_eq_textOf_iff (room : Nat) : ∀ l, IsNestedList l →
    (shownText room l = textOf l ↔
      ∀ steps, room = 2 * steps → ∀ u ∈ listsAt steps l, textOf u = "") := by
  induction room using Nat.twoStepInduction with
  | zero =>
    intro l _
    constructor
    · intro heq steps hsteps u hu
      obtain rfl : steps = 0 := by omega
      rw [List.mem_singleton.1 hu, ← heq, shownText]
    · exact fun hlost => (hlost 0 rfl l List.mem_cons_self).symm
  | one => exact fun l _ => ⟨fun _ steps hsteps => by omega, fun _ => rfl⟩
  | more room ih _ =>
    intro l h
    rw [shownText_step_eq_textOf_iff h]
    constructor
    · intro hshown steps hsteps u hu
      obtain ⟨steps, rfl⟩ : ∃ n, steps = n + 1 := ⟨steps - 1, by omega⟩
      obtain ⟨item, hitem, part, hpart, hlist, hu⟩ := mem_listsAt_succ.1 hu
      have hnested := (h.isListItem hitem).isNestedList hpart hlist
      exact (ih part hnested).1 (hshown item hitem part hpart hlist) steps (by omega) u hu
    · intro hlost item hitem part hpart hlist
      have hnested := (h.isListItem hitem).isNestedList hpart hlist
      refine (ih part hnested).2 fun steps hsteps u hu => hlost (steps + 1) (by omega) u ?_
      exact mem_listsAt_succ.2 ⟨item, hitem, part, hpart, hlist, hu⟩

end AlertBridge.Token
