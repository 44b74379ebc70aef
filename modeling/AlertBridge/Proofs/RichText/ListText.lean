import AlertBridge.Proofs.RichText.RunText
import AlertBridge.Proofs.Token.NestedList

/-!
# The text of nested lists

What a document shows of a tree of nested lists that is converted and compiled with the same limit.

The conversion counts every level of the tree, so a list may be kept whose items lie too deep. They
become texts then, which stand in the token of the list where its items should, and the compilation
shows nothing of an item that holds nothing. Where items are the last that is kept, what they hold
becomes text that is shown. So it depends on the limit being odd or even whether all text is shown.

## Main results

* `exists_elementsText_list`: what is seen of a list, by the room that is left below it
* `compileDocument_nestedList`: what is seen of a document, and when it is all
-/

namespace AlertBridge.RichText

open Token (Shows IsHolder IsTextNode IsTextBlock IsNestedList IsListItem IsNode exists_shows
  exists_shows_forall shows_holder_of_le shows_holder_of_lt shownText shownPart nodesBelow textOf
  listsAt mergeText forall_mem_mergeText ofText)

variable {limit depth indent : Int} {room : Nat} {fields : List (String × Json)} {type : String}
  {node l : Json} {nodes children items : List Json} {t item : Token}
  {tokens : List Token} {text : String}

/-! ## Blocks of texts -/

/-- Text nodes become texts. -/
theorem exists_shows_texts (h : ∀ node ∈ nodes, IsTextNode node) (limit depth : Int) :
    ∃ tokens text, Shows limit depth nodes tokens text ∧ ∀ t ∈ tokens, ∃ s, t = ofText s := by
  refine exists_shows_forall fun node hnode => ?_
  obtain ⟨htype, hraw, hchildren, -⟩ := h node hnode
  obtain ⟨tokens, hshows, htexts⟩ := Token.shows_text htype hraw hchildren limit depth
  exact ⟨tokens, _, hshows, fun t ht => ⟨_, htexts t ht⟩⟩

/-- A block of texts that does not lie too deep becomes an inline tree. -/
theorem exists_shows_block (h : IsTextBlock node) (hdepth : depth ≤ limit) :
    ∃ t text, Shows limit depth [node] [t] text ∧ t.kind = .paragraph ∧ IsInline t := by
  obtain @⟨fields, type, children, htype, h, htexts⟩ := h
  obtain ⟨below, text, hbelow, hleaves⟩ := exists_shows_texts htexts limit (depth + 1)
  have hinlines : ∀ u ∈ below, IsInline u := by
    intro u hu
    obtain ⟨s, rfl⟩ := hleaves u hu
    exact isInline_ofText s
  have hmem : type ∈ Token.holderTypes := by rcases htype with rfl | rfl <;> decide
  have hkind : Token.containerKind? (.str type) = some .paragraph := by
    rcases htype with rfl | rfl <;> rfl
  obtain ⟨t, hshows, hparagraph, hinside, htext⟩ := shows_holder_of_le h.type_eq hmem h.raw_eq
    h.children_eq h.attributes hkind hbelow (.inl hdepth)
  refine ⟨t, text, hshows, hparagraph, .holder (by rw [hparagraph]; rfl) htext ?_⟩
  exact hinside ▸ forall_mem_mergeText isInline_ofText hinlines

/-! ## Below the limit -/

/-- A token without structure: it is inline, or a list with nothing in it. -/
structure IsFlat (t : Token) : Prop where
  inline : isList t = false → IsInline t
  list : isList t = true → t.children = [] ∧ t.text = ""

theorem isFlat_ofText (s : String) : IsFlat (ofText s) := ⟨fun _ => isInline_ofText s, nofun⟩

/-- A block or a list that lies too deep loses its structure. -/
theorem exists_shows_flat (h : IsHolder fields type children)
    (htype : type = "block_text" ∨ type = "paragraph" ∨ type = "list")
    (hbelow : ∀ child ∈ children, IsNode child) (hdepth : limit < depth) :
    ∃ tokens text, Shows limit depth [.obj fields] tokens text ∧ ∀ t ∈ tokens, IsFlat t := by
  have hmem : type ∈ Token.holderTypes := by rcases htype with rfl | rfl | rfl <;> decide
  by_cases hne : children = []
  · subst hne
    obtain ⟨kind, hkind, hcases⟩ : ∃ kind, Token.containerKind? (.str type) = some kind ∧
        (kind = .paragraph ∨ kind = .list) := by
      rcases htype with rfl | rfl | rfl
      · exact ⟨.paragraph, rfl, .inl rfl⟩
      · exact ⟨.paragraph, rfl, .inl rfl⟩
      · exact ⟨.list, rfl, .inr rfl⟩
    obtain ⟨t, hshows, rfl, hinside, htext⟩ := shows_holder_of_le h.type_eq hmem h.raw_eq
      h.children_eq h.attributes hkind (Token.shows_nil limit (depth + 1)) (.inr rfl)
    have hnil : t.children = [] := by rw [hinside, mergeText, ite_self]
    have hempty : t.text = "" := by rw [htext, ite_self]
    refine ⟨[t], "", hshows, fun u hu => ?_⟩
    obtain rfl := List.mem_singleton.1 hu
    refine ⟨fun hother => ?_, fun _ => ⟨hnil, hempty⟩⟩
    rcases hcases with hparagraph | hlist
    · exact .holder (by rw [hparagraph]; rfl) hempty (by simp [hnil])
    · simp [isList, hlist] at hother
  · have hreads := (h.isNode hmem hbelow).reads
    refine ⟨[ofText _], _, shows_holder_of_lt h.type_eq h.children_eq hdepth hne hreads, ?_⟩
    intro u hu
    obtain rfl := List.mem_singleton.1 hu
    exact isFlat_ofText _

/-- Of an item without structure all text is seen. -/
theorem itemText_of_isFlat (h : ∀ t ∈ item.children, IsFlat t) (ceiling indent : Int) :
    itemText ceiling indent item = concat (item.children.map Token.plainText) := by
  have hlists : ∀ t ∈ item.children.filter isList,
      elementsText (compileList ceiling (indent + 1) t) = "" := by
    intro t ht
    obtain ⟨hmem, hlist⟩ := List.mem_filter.1 ht
    rw [compileList_of_children_eq_nil ((h t hmem).list hlist).1, elementsText_nil]
  have hempty : ∀ t ∈ item.children, (!isList t) = false → t.plainText = "" := by
    intro t ht hlist
    obtain ⟨hchildren, htext⟩ := (h t ht).list (by simpa using hlist)
    exact Token.plainText_of_empty hchildren htext
  rw [itemText_eq ceiling indent fun t ht => (h t ht).inline, concat_map_eq_empty hlists,
    String.append_empty, concat_map_filter hempty]

/-! ## Items and lists -/

/-- A node that holds others and does not lie too deep becomes a token that holds theirs. -/
theorem exists_shows_holder {kind : TokenKind} (h : IsHolder fields type children)
    (hmem : type ∈ Token.holderTypes) (hkind : Token.containerKind? (.str type) = some kind)
    (himage : kind ≠ .image) (hbelow : Shows limit (depth + 1) children tokens text)
    (hdepth : depth ≤ limit) :
    ∃ t, Shows limit depth [.obj fields] [t] text ∧ t.kind = kind ∧
      t.children = mergeText tokens := by
  obtain ⟨t, hshows, hkind, hinside, -⟩ := shows_holder_of_le h.type_eq hmem h.raw_eq
    h.children_eq h.attributes hkind hbelow (.inl hdepth)
  exact ⟨t, hshows, hkind, by rw [hinside, if_neg himage]⟩

theorem mergeText_eq_self_of_kind {kind : TokenKind} (hkind : kind ≠ .text)
    (h : ∀ t ∈ tokens, t.kind = kind) : mergeText tokens = tokens :=
  Token.mergeText_eq_self (Token.isNormal_of_forall_ne_text fun t ht => h t ht ▸ hkind)

/-- Nodes that all become one token each, of which a text is seen in some way, are seen in this way
all together. -/
theorem exists_shows_each {kind : TokenKind} {f : Token → String} {g : Json → String}
    (h : ∀ node ∈ nodes, ∃ t text, Shows limit depth [node] [t] text ∧ t.kind = kind ∧
      f t = g node) :
    ∃ tokens text, Shows limit depth nodes tokens text ∧ (∀ t ∈ tokens, t.kind = kind) ∧
      concat (tokens.map f) = concat (nodes.map g) := by
  refine exists_shows (R := fun nodes tokens => (∀ t ∈ tokens, t.kind = kind) ∧
    concat (tokens.map f) = concat (nodes.map g)) ⟨by simp, rfl⟩ ?_ fun node hnode => ?_
  · rintro ns ns' ts ts' ⟨hkind, hf⟩ ⟨hkind', hf'⟩
    refine ⟨fun t ht => (List.mem_append.1 ht).elim (hkind t) (hkind' t), ?_⟩
    rw [List.map_append, concat_append, hf, hf', List.map_append, concat_append]
  · obtain ⟨t, text, hshows, hkind, hf⟩ := h node hnode
    exact ⟨[t], text, hshows, by simpa using hkind, by simp [hf]⟩

/-- What is seen of the items of a list is seen of the list. -/
theorem exists_elementsText_of_items (h : IsHolder fields "list" items) {g : Json → String}
    (hitems : ∀ item ∈ items, ∃ t text, Shows limit (depth + 1) [item] [t] text ∧
      t.kind = .listitem ∧ itemText limit indent t = g item)
    (hdepth : depth ≤ limit) (hindent : indent < limit) :
    ∃ t text, Shows limit depth [.obj fields] [t] text ∧ t.kind = .list ∧
      elementsText (compileList limit indent t) = concat (items.map g) := by
  obtain ⟨tokens, text, hbelow, hkinds, hseen⟩ := exists_shows_each hitems
  obtain ⟨t, hshows, hkind, hinside⟩ :=
    exists_shows_holder h (by decide) rfl (by decide) hbelow hdepth
  refine ⟨t, text, hshows, hkind, ?_⟩
  rw [elementsText_compileList hindent, hinside, mergeText_eq_self_of_kind (by decide) hkinds,
    hseen]

/-! ## Where the limit lies -/

/-- Nothing is seen of a list whose items lie too deep. They are texts where items should be. -/
theorem exists_elementsText_of_room_zero (h : IsNestedList l) (hindent : indent < limit) :
    ∃ t text, Shows limit limit [l] [t] text ∧ t.kind = .list ∧
      elementsText (compileList limit indent t) = "" := by
  obtain @⟨fields, items, h, hitems⟩ := h
  obtain ⟨tokens, text, hbelow, htexts⟩ : ∃ tokens text,
      Shows limit (limit + 1) items tokens text ∧ ∀ t ∈ tokens, ∃ s, t = ofText s := by
    refine exists_shows_forall fun item hmem => ?_
    have hreads := (hitems item hmem).isNode.reads
    obtain ⟨hitem, -, -⟩ := hitems item hmem
    refine ⟨_, _, shows_holder_of_lt hitem.type_eq hitem.children_eq (Int.lt_succ limit)
      (List.cons_ne_nil _ _) hreads, fun t ht => ⟨_, List.mem_singleton.1 ht⟩⟩
  obtain ⟨t, hshows, hkind, hinside⟩ :=
    exists_shows_holder h (by decide) rfl (by decide) hbelow (Int.le_refl limit)
  refine ⟨t, text, hshows, hkind, ?_⟩
  have htexts : ∀ u ∈ mergeText tokens, ∃ s, u = ofText s :=
    forall_mem_mergeText (fun s => ⟨s, rfl⟩) htexts
  rw [elementsText_compileList hindent, hinside]
  refine concat_map_eq_empty fun u hu => ?_
  obtain ⟨s, rfl⟩ := htexts u hu
  exact itemText_of_isFlat (by simp [ofText]) limit indent

/-- All text is seen of an item whose parts lie too deep. -/
theorem exists_itemText_of_room_one (h : IsListItem node) (indent : Int) :
    ∃ t text, Shows limit limit [node] [t] text ∧ t.kind = .listitem ∧
      itemText limit indent t = textOf node := by
  obtain @⟨fields, first, lists, h, hfirst, hlists⟩ := h
  obtain ⟨tokens, text, hbelow, hflat⟩ : ∃ tokens text,
      Shows limit (limit + 1) (first :: lists) tokens text ∧ ∀ t ∈ tokens, IsFlat t := by
    refine exists_shows_forall fun part hpart => ?_
    rcases List.mem_cons.1 hpart with rfl | hl
    · obtain ⟨htype, hblock, htexts⟩ := hfirst
      refine exists_shows_flat hblock (by tauto) (fun child hchild => ?_) (Int.lt_succ limit)
      exact (htexts child hchild).isNode
    · obtain ⟨hlist, hitems⟩ := hlists part hl
      refine exists_shows_flat hlist (.inr (.inr rfl)) (fun item hitem => ?_) (Int.lt_succ limit)
      exact (hitems item hitem).isNode
  obtain ⟨t, hshows, hkind, hinside⟩ :=
    exists_shows_holder h (by decide) rfl (by decide) hbelow (Int.le_refl limit)
  refine ⟨t, text, hshows, hkind, ?_⟩
  have hflat : ∀ u ∈ t.children, IsFlat u := hinside ▸ forall_mem_mergeText isFlat_ofText hflat
  rw [itemText_of_isFlat hflat, hinside, hbelow.normalize.2.1, Token.textOf_of_reads hshows.reads]

/-- Where there is more room, the text of an item is seen, and what is seen of its lists. -/
theorem exists_itemText_of_room (h : IsListItem node) (hdepth : depth + 1 ≤ limit)
    (hlists : ∀ l, IsNestedList l → ∃ t text, Shows limit (depth + 1) [l] [t] text ∧
      t.kind = .list ∧ elementsText (compileList limit (indent + 1) t) = shownText room l) :
    ∃ t text, Shows limit depth [node] [t] text ∧ t.kind = .listitem ∧
      itemText limit indent t = concat ((nodesBelow node).map (shownPart room)) := by
  obtain @⟨fields, first, lists, h, hfirst, hnested⟩ := h
  obtain ⟨p, text, hblock, hparagraph, hinline⟩ := exists_shows_block hfirst hdepth
  obtain ⟨tokens, text', hbelow, hkinds, hseen⟩ :=
    exists_shows_each fun l hl => hlists l (hnested l hl)
  obtain ⟨t, hshows, hkind, hinside⟩ := exists_shows_holder h (by decide) rfl (by decide)
    (hblock.append hbelow) (by omega)
  refine ⟨t, _, hshows, hkind, ?_⟩
  have hchildren : t.children = p :: tokens := by
    rw [hinside]
    refine Token.mergeText_eq_self (Token.isNormal_of_forall_ne_text fun u hu => ?_)
    rcases List.mem_cons.1 hu with rfl | hu
    · rw [hparagraph]
      decide
    · rw [hkinds u hu]
      decide
  have htext : p.plainText = textOf first := by
    have hseen := hblock.plainText
    rw [List.map_singleton, concat_cons, concat_nil, String.append_empty] at hseen
    rw [hseen, Token.textOf_of_reads hblock.reads]
  have hparts : lists.map (shownPart room) = lists.map (shownText room) :=
    List.map_congr_left fun l hl => (hnested l hl).shownPart room
  have hother : isList p = false := by simp [isList, hparagraph]
  have hlists : ∀ u ∈ tokens, isList u := fun u hu => by simp [isList, hkinds u hu]
  rw [itemText_of_block hchildren hother hinline hlists, hseen, htext, h.nodesBelow, List.map_cons,
    concat_cons, hfirst.shownPart, hparts]

/-! ## Documents -/

/-- What is seen of a list that lies at a level of the tree, where its indentation is half of it. -/
theorem exists_elementsText_list (hlimit : 1 ≤ limit) (room : Nat) :
    ∀ (indent : Int), limit = 2 * indent + room → ∀ l, IsNestedList l →
      ∃ t text, Shows limit (2 * indent) [l] [t] text ∧ t.kind = .list ∧
        elementsText (compileList limit indent t) = shownText room l := by
  induction room using Nat.twoStepInduction with
  | zero =>
    intro indent hroom l h
    obtain rfl : limit = 2 * indent := by omega
    exact exists_elementsText_of_room_zero h (by omega)
  | one =>
    intro indent hroom l h
    rw [shownText, h.textOf]
    obtain @⟨fields, items, h, hitems⟩ := h
    obtain rfl : limit = 2 * indent + 1 := by omega
    rw [h.nodesBelow]
    refine exists_elementsText_of_items h (fun item hitem => ?_) (by omega) (by omega)
    exact exists_itemText_of_room_one (hitems item hitem) indent
  | more room ih _ =>
    intro indent hroom l h
    obtain @⟨fields, items, h, hitems⟩ := h
    have hlists : ∀ l, IsNestedList l → ∃ t text, Shows limit (2 * indent + 1 + 1) [l] [t] text ∧
        t.kind = .list ∧ elementsText (compileList limit (indent + 1) t) = shownText room l := by
      intro l hl
      have hdepth : 2 * indent + 1 + 1 = 2 * (indent + 1) := by omega
      rw [hdepth]
      exact ih (indent + 1) (by push_cast at hroom; omega) l hl
    rw [Token.shownText_step, h.nodesBelow]
    refine exists_elementsText_of_items h (fun item hitem => ?_) (by omega) (by omega)
    exact exists_itemText_of_room (hitems item hitem) (by omega) hlists

/-- **What a document shows of nested lists.** A tree of nested lists is always converted, and what
is shown of it is what there is room for below the limit. This is all of its text exactly if the
limit is odd, or no list with a text lies half as many steps inside as the limit has levels. -/
theorem compileDocument_nestedList (h : IsNestedList l) (hlimit : 1 ≤ limit) :
    ∃ tokens, Token.ofNodes? [l] 0 limit = .ok tokens ∧ Token.flatten l = .ok (textOf l) ∧
      elementsText (compileDocument limit tokens) = shownText limit.toNat l ∧
      (elementsText (compileDocument limit tokens) = textOf l ↔
        ∀ steps : Nat, limit = 2 * steps → ∀ u ∈ listsAt steps l, textOf u = "") := by
  have hroom : limit = 2 * 0 + (limit.toNat : Int) := by omega
  obtain ⟨t, text, hshows, hkind, hseen⟩ :=
    exists_elementsText_list hlimit limit.toNat 0 hroom l h
  have hnormal : mergeText [t] = [t] :=
    mergeText_eq_self_of_kind (by decide : TokenKind.list ≠ .text) (by simpa using hkind)
  have hnormalize : Token.normalize [t] = .ok [t] := by rw [hshows.normalize.1, hnormal]
  have hconverted : Token.ofNodes? [l] 0 limit = .ok [t] :=
    Token.ofNodes?_eq_ok_iff.2 ⟨[t], hshows.converted, hnormalize⟩
  have hdocument : elementsText (compileDocument limit [t]) = shownText limit.toNat l := by
    rw [compileDocument, List.flatMap_singleton, dispatch, hkind, hseen]
  refine ⟨[t], hconverted, Token.flatten_eq_ok_iff.2 h.isNode.reads, hdocument, ?_⟩
  rw [hdocument, Token.shownText_eq_textOf_iff limit.toNat l h]
  refine forall_congr' fun steps => ?_
  rw [show limit.toNat = 2 * steps ↔ limit = 2 * steps by omega]

/-- A list of which the item holds a list. -/
def twoLists : Markdown.Node :=
  .list false [.listItem [.blockText [.text "a"],
    .list false [.listItem [.blockText [.text "b"]]]]]

theorem isNestedList_twoLists : IsNestedList twoLists.toJson := by
  have htext (raw : String) : IsTextBlock (Markdown.Node.blockText [.text raw]).toJson := by
    refine Token.isTextBlock_blockText fun node hnode => ?_
    obtain rfl := List.mem_singleton.1 hnode
    exact .text rfl rfl (Token.hasNoChildren_of_none rfl) (Token.hasAttributes_of_none rfl)
  refine Token.isNestedList_list false fun item hitem => ?_
  obtain rfl := List.mem_singleton.1 hitem
  refine Token.isListItem_listItem (htext "a") fun l hl => ?_
  obtain rfl := List.mem_singleton.1 hl
  refine Token.isNestedList_list false fun item hitem => ?_
  obtain rfl := List.mem_singleton.1 hitem
  exact Token.isListItem_listItem (htext "b") fun l hl => by cases hl

/-- With a limit of three levels all of its text is shown. -/
theorem compileDocument_twoLists_three : IsNestedList twoLists.toJson ∧ (1 : Int) ≤ 3 ∧
    ∃ tokens, Token.ofNodes? [twoLists.toJson] 0 3 = .ok tokens ∧
      elementsText (compileDocument 3 tokens) = textOf twoLists.toJson := by
  obtain ⟨tokens, htokens, -, -, hiff⟩ :=
    compileDocument_nestedList isNestedList_twoLists (by decide : (1 : Int) ≤ 3)
  refine ⟨isNestedList_twoLists, by decide, tokens, htokens, hiff.2 fun steps hsteps => ?_⟩
  omega

/-- With a limit of two levels the text of the inner list is not shown. -/
theorem compileDocument_twoLists_two : IsNestedList twoLists.toJson ∧ (1 : Int) ≤ 2 ∧
    ∃ tokens, Token.ofNodes? [twoLists.toJson] 0 2 = .ok tokens ∧
      Token.flatten twoLists.toJson = .ok "ab" ∧
      elementsText (compileDocument 2 tokens) = "a" := by
  have hdocument : (Token.ofNodes? [twoLists.toJson] 0 2).toOption.map
      (fun tokens => elementsText (compileDocument 2 tokens)) = some "a" := by
    decide +kernel
  have htext : (Token.flatten twoLists.toJson).toOption.map id = some "ab" := by decide +kernel
  obtain ⟨tokens, htokens, hshown⟩ := Token.exists_eq_ok_of_map hdocument
  obtain ⟨text, hflatten, rfl⟩ := Token.exists_eq_ok_of_map htext
  exact ⟨isNestedList_twoLists, by decide, tokens, htokens, hflatten, hshown⟩

end AlertBridge.RichText
