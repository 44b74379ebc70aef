import AlertBridge.Proofs.RichText.ListWalk
import AlertBridge.Proofs.Token.Subtree
import Mathlib.Data.List.Forall2
import Mathlib.Data.List.Pairwise

/-!
# The elements of a list

The elements that a list is compiled to show exactly the sections of its walk, in the same order,
each element some sections of one list. What remains to be said is where an element ends: two
sections of a list stand in one element exactly if no item from the first up to the second holds a
list.

The sections that stand together are those of the same `key`: the address of their list, and how
many items that hold lists come before them in it. The invariant of the compilation is `Layout`:
the elements are made of groups of sections, of which each has a key of its own. Parts that are
compiled one after the other can be joined because an address tells them apart
(`address_of_mem_walkLists`, `place_of_mem_walkItems`).

Main statement: `compileList_walk`.
-/

namespace AlertBridge.RichText

/-! ## Where sections come from -/

theorem of_mem_ownSection {ceiling : Int} {l : ListPlace} {number : Nat} {item : Token}
    {s : ItemSection} (h : s ∈ ownSection ceiling l number item) :
    s.list = l ∧ s.number = number := by
  obtain ⟨runs, -, rfl⟩ : ∃ runs, itemRuns? ceiling l.indent item = some runs ∧
      ⟨l, number, runs⟩ = s := by
    simpa [ownSection] using h
  exact ⟨rfl, rfl⟩

theorem address_of_mem_walkLists {ceiling : Int} {address : List Nat} {indent : Int} {number : Nat}
    {ts : List Token}
    (hwalk : ∀ t ∈ ts, ∀ address, ∀ s ∈ walk ceiling address indent t, address <+: s.list.address)
    {s : ItemSection} (hs : s ∈ walkLists ceiling address indent number ts) :
    ∃ n, number ≤ n ∧ address ++ [n] <+: s.list.address := by
  induction ts generalizing number with
  | nil => simp [walkLists] at hs
  | cons t ts ih =>
    rw [walkLists] at hs
    rcases List.mem_append.1 hs with hs | hs
    · split at hs
      · exact ⟨number, Nat.le_refl _, hwalk t List.mem_cons_self _ s hs⟩
      · cases hs
    · obtain ⟨n, hn, haddress⟩ := ih (fun t ht => hwalk t (List.mem_cons_of_mem _ ht)) hs
      exact ⟨n, by omega, haddress⟩

/-- A section of a list comes from one of its items, or from a list in one of them. -/
theorem place_of_mem_walkItems {ceiling : Int} {l : ListPlace} {number : Nat} {items : List Token}
    (hwalk : ∀ item ∈ items, ∀ t ∈ item.children, ∀ address indent,
      ∀ s ∈ walk ceiling address indent t, address <+: s.list.address)
    {s : ItemSection} (hs : s ∈ walkItems ceiling l number items) :
    (s.list = l ∧ number ≤ s.number) ∨
      ∃ n, number ≤ n ∧ ∃ m, l.address ++ [n] ++ [m] <+: s.list.address := by
  induction items generalizing number with
  | nil => simp [walkItems] at hs
  | cons item items ih =>
    rw [walkItems_cons] at hs
    rcases List.mem_append.1 hs with hs | hs
    · rcases List.mem_append.1 hs with hs | hs
      · obtain ⟨hlist, hnumber⟩ := of_mem_ownSection hs
        exact .inl ⟨hlist, Nat.le_of_eq hnumber.symm⟩
      · split at hs
        · cases hs
        · obtain ⟨m, -, haddress⟩ := address_of_mem_walkLists
            (fun t ht address => hwalk item List.mem_cons_self t ht address _) hs
          exact .inr ⟨number, Nat.le_refl _, m, haddress⟩
    · rcases ih (fun item hitem => hwalk item (List.mem_cons_of_mem _ hitem)) hs with
        ⟨hlist, hn⟩ | ⟨n, hn, haddress⟩
      · exact .inl ⟨hlist, by omega⟩
      · exact .inr ⟨n, by omega, haddress⟩

/-- All sections of a list are at its address or further in. -/
theorem address_of_mem_walk {ceiling : Int} (t : Token) : ∀ address indent,
    ∀ s ∈ walk ceiling address indent t, address <+: s.list.address := by
  induction t using Token.induction_on_items with
  | step t ih =>
    intro address indent s hs
    rw [walk_eq] at hs
    rcases place_of_mem_walkItems ih hs with ⟨hlist, -⟩ | ⟨n, -, m, haddress⟩
    · simp [hlist]
    · exact List.IsPrefix.trans ⟨[n, m], by simp⟩ haddress

theorem ne_of_longer {address other : List Nat} {n : Nat} (h : address ++ [n] <+: other) :
    address ≠ other := by
  rintro rfl
  have hlength := h.length_le
  rw [List.length_append, List.length_singleton] at hlength
  omega

theorem ne_of_branch {address left right : List Nat} {m n : Nat} (hleft : address ++ [m] <+: left)
    (hright : address ++ [n] <+: right) (hmn : m ≠ n) : left ≠ right := by
  rintro rfl
  obtain ⟨_, rfl⟩ := hleft
  rw [List.append_assoc, List.prefix_append_right_inj] at hright
  exact hmn (List.cons_prefix_cons.1 hright).1.symm

/-- Lists that are different children of an item have their sections at different addresses. -/
theorem address_ne_of_mem_walk {ceiling indent : Int} {address : List Nat} {number : Nat}
    {t : Token} {ts : List Token} {s s' : ItemSection}
    (hs : s ∈ walk ceiling (address ++ [number]) indent t)
    (hs' : s' ∈ walkLists ceiling address indent (number + 1) ts) :
    s.list.address ≠ s'.list.address := by
  obtain ⟨n, hn, hright⟩ :=
    address_of_mem_walkLists (fun u _ address => address_of_mem_walk u address _) hs'
  exact ne_of_branch (address_of_mem_walk t _ _ s hs) hright (by omega)

/-- The sections of the lists in an item lie further in than those of the item's list. -/
theorem address_ne_of_mem_walkLists {ceiling indent : Int} {l : ListPlace} {number : Nat}
    {ts : List Token} {s s' : ItemSection} (hs : s.list = l)
    (hs' : s' ∈ walkLists ceiling (l.address ++ [number]) indent 0 ts) :
    s.list.address ≠ s'.list.address := by
  obtain ⟨n, -, haddress⟩ :=
    address_of_mem_walkLists (fun u _ address => address_of_mem_walk u address _) hs'
  rw [hs]
  exact ne_of_longer (List.IsPrefix.trans ⟨[n], rfl⟩ haddress)

/-- The sections of the lists in an item are at other addresses than those of later items. -/
theorem address_ne_of_mem_walkItems {ceiling indent : Int} {l : ListPlace} {number : Nat}
    {ts rest : List Token} {s s' : ItemSection}
    (hs : s ∈ walkLists ceiling (l.address ++ [number]) indent 0 ts)
    (hs' : s' ∈ walkItems ceiling l (number + 1) rest) : s.list.address ≠ s'.list.address := by
  obtain ⟨n, -, hleft⟩ :=
    address_of_mem_walkLists (fun u _ address => address_of_mem_walk u address _) hs
  have hleft : l.address ++ [number] <+: s.list.address := List.IsPrefix.trans ⟨[n], rfl⟩ hleft
  rcases place_of_mem_walkItems (fun _ _ u _ => address_of_mem_walk u) hs' with
    ⟨hlist', -⟩ | ⟨n', hn', m, hright⟩
  · rw [hlist']
    exact (ne_of_longer hleft).symm
  · exact ne_of_branch hleft (List.IsPrefix.trans ⟨[m], rfl⟩ hright) (by omega)

/-- Two sections come from different items. -/
def Elsewhere (s s' : ItemSection) : Prop :=
  s.list.address ≠ s'.list.address ∨ s.number ≠ s'.number

theorem pairwise_elsewhere_walkLists {ceiling indent : Int} (address : List Nat) (number : Nat)
    {ts : List Token}
    (hwalk : ∀ t ∈ ts, ∀ address, (walk ceiling address indent t).Pairwise Elsewhere) :
    (walkLists ceiling address indent number ts).Pairwise Elsewhere := by
  induction ts generalizing number with
  | nil => exact .nil
  | cons t ts ih =>
    have hrest := ih (number + 1) fun u hu => hwalk u (List.mem_cons_of_mem _ hu)
    rw [walkLists]
    split
    · refine List.pairwise_append.2 ⟨hwalk t List.mem_cons_self _, hrest, ?_⟩
      exact fun s hs s' hs' => .inl (address_ne_of_mem_walk hs hs')
    · exact hrest

theorem pairwise_elsewhere_walkItems {ceiling : Int} {l : ListPlace} (number : Nat)
    {items : List Token} (hwalk : ∀ item ∈ items, ∀ t ∈ item.children, ∀ address indent,
      (walk ceiling address indent t).Pairwise Elsewhere) :
    (walkItems ceiling l number items).Pairwise Elsewhere := by
  induction items generalizing number with
  | nil => exact .nil
  | cons item rest ih =>
    have hrest := ih (number + 1) fun item hitem => hwalk item (List.mem_cons_of_mem _ hitem)
    have hown : (ownSection ceiling l number item).Pairwise Elsewhere := by
      rw [ownSection]
      cases itemRuns? ceiling l.indent item <;> simp
    have hnested := pairwise_elsewhere_walkLists (l.address ++ [number]) 0
      fun t ht address => hwalk item List.mem_cons_self t ht address (l.indent + 1)
    rw [walkItems_cons]
    refine List.pairwise_append.2 ⟨List.pairwise_append.2 ⟨hown, ?_, ?_⟩, hrest, ?_⟩
    · split
      · exact .nil
      · exact hnested
    · intro s hs s' hs'
      split at hs'
      · cases hs'
      · exact .inl (address_ne_of_mem_walkLists (of_mem_ownSection hs).1 hs')
    · intro s hs s' hs'
      rcases List.mem_append.1 hs with hs | hs
      · obtain ⟨hlist, hnumber⟩ := of_mem_ownSection hs
        rcases place_of_mem_walkItems (fun _ _ u _ => address_of_mem_walk u) hs'
          with ⟨-, hnumber'⟩ | ⟨n, -, m, haddress⟩
        · exact .inr (by omega)
        · rw [Elsewhere, hlist]
          exact .inl (ne_of_longer (List.IsPrefix.trans ⟨[m], rfl⟩ haddress))
      · split at hs
        · cases hs
        · exact .inl (address_ne_of_mem_walkItems hs hs')

/-- No item has two sections. -/
theorem pairwise_elsewhere_walk {ceiling : Int} (t : Token) : ∀ address indent,
    (walk ceiling address indent t).Pairwise Elsewhere := by
  induction t using Token.induction_on_items with
  | step t ih =>
    intro address indent
    rw [walk_eq]
    exact pairwise_elsewhere_walkItems 0 ih

/-! ## Keys -/

/-- What the sections of one element have in common: the address of their list, and how many items
that hold lists come before them in it. At the ceiling no list is held apart. -/
def ItemSection.key (ceiling : Int) (s : ItemSection) : List Nat × Nat :=
  (s.list.address,
    if s.list.indent ≥ ceiling then 0 else (s.list.items.take s.number).countP holdsList)

/-- The number of items that hold lists among the first items of a list. -/
def ListPlace.cuts (l : ListPlace) (number : Nat) : Nat := (l.items.take number).countP holdsList

theorem ItemSection.key_eq {ceiling : Int} {s : ItemSection} (hbelow : s.list.indent < ceiling) :
    s.key ceiling = (s.list.address, s.list.cuts s.number) := by
  rw [key, if_neg (by omega), ListPlace.cuts]

theorem ItemSection.key_ne_of_address {ceiling : Int} {s s' : ItemSection}
    (h : s.list.address ≠ s'.list.address) : s.key ceiling ≠ s'.key ceiling :=
  fun heq => h (Prod.mk.inj heq).1

theorem ListPlace.cuts_le {l : ListPlace} {m n : Nat} (h : m ≤ n) : l.cuts m ≤ l.cuts n :=
  (List.take_sublist_take_left h).countP_le

theorem ListPlace.cuts_succ {l : ListPlace} {number : Nat} {item : Token} {rest : List Token}
    (h : l.items.drop number = item :: rest) :
    l.cuts (number + 1) = l.cuts number + if holdsList item then 1 else 0 := by
  have hitem : l.items[number]? = some item := by
    rw [← List.head?_drop, h, List.head?_cons]
  rw [cuts, List.take_add_one, hitem, List.countP_append, cuts]
  simp [List.countP_cons]

/-- Sections of one list have the same key if no item between them holds a list. -/
theorem ListPlace.cuts_eq_iff {l : ListPlace} {m n : Nat} (h : m ≤ n) :
    l.cuts m = l.cuts n ↔ ∀ item ∈ (l.items.take n).drop m, holdsList item = false := by
  have hsplit : l.cuts n = l.cuts m + ((l.items.take n).drop m).countP holdsList := by
    conv_lhs => rw [cuts, ← List.take_append_drop m (l.items.take n)]
    rw [List.countP_append, List.take_take, Nat.min_eq_left h, cuts]
  rw [hsplit]
  simp [List.countP_eq_zero]

/-! ## Layouts -/

/-- An element shows the sections of a group, which are of one list. -/
structure IsBlock (group : List ItemSection) (element : RichElement) : Prop where
  ne_nil : group ≠ []
  eq_list : ∃ l : ListPlace, (∀ s ∈ group, s.list = l) ∧
    element = .list l.ordered l.indent (group.map ItemSection.runs)

/-- Groups of sections without a common key. -/
def Apart (ceiling : Int) (group group' : List ItemSection) : Prop :=
  ∀ s ∈ group, ∀ s' ∈ group', s.key ceiling ≠ s'.key ceiling

instance (ceiling : Int) : Std.Symm (Apart ceiling) where
  symm _ _ h s hs s' hs' := (h s' hs' s hs).symm

/-- Elements show sections in groups, each with a key of its own. -/
structure Layout (ceiling : Int) (sections : List ItemSection) (elements : List RichElement)
    (groups : List (List ItemSection)) : Prop where
  flatten : groups.flatten = sections
  blocks : List.Forall₂ IsBlock groups elements
  same : ∀ group ∈ groups, ∀ s ∈ group, ∀ s' ∈ group, s.key ceiling = s'.key ceiling
  distinct : groups.Pairwise (Apart ceiling)

/-- The elements show the sections in some groups. -/
def HasLayout (ceiling : Int) (sections : List ItemSection) (elements : List RichElement) : Prop :=
  ∃ groups, Layout ceiling sections elements groups

theorem HasLayout.nil (ceiling : Int) : HasLayout ceiling [] [] :=
  ⟨[], rfl, .nil, by simp, .nil⟩

/-- Two parts without a common key, one after the other. -/
theorem HasLayout.append {ceiling : Int} {sections sections' : List ItemSection}
    {elements elements' : List RichElement} (h : HasLayout ceiling sections elements)
    (h' : HasLayout ceiling sections' elements')
    (hne : Apart ceiling sections sections') :
    HasLayout ceiling (sections ++ sections') (elements ++ elements') := by
  obtain ⟨groups, h⟩ := h
  obtain ⟨groups', h'⟩ := h'
  refine ⟨groups ++ groups', ?_, List.rel_append h.blocks h'.blocks, ?_, ?_⟩
  · rw [List.flatten_append, h.flatten, h'.flatten]
  · intro group hgroup
    rcases List.mem_append.1 hgroup with hgroup | hgroup
    · exact h.same group hgroup
    · exact h'.same group hgroup
  · refine List.pairwise_append.2 ⟨h.distinct, h'.distinct, ?_⟩
    intro group hgroup group' hgroup' s hs s' hs'
    refine hne s ?_ s' ?_
    · exact h.flatten ▸ List.mem_flatten_of_mem hgroup hs
    · exact h'.flatten ▸ List.mem_flatten_of_mem hgroup' hs'

/-- The sections that are collected become one element, if there are any. -/
theorem hasLayout_flush {ceiling : Int} {l : ListPlace} {sections : List ItemSection}
    (hlist : ∀ s ∈ sections, s.list = l) {key : List Nat × Nat}
    (hkey : ∀ s ∈ sections, s.key ceiling = key) :
    HasLayout ceiling sections (flush l.ordered l.indent (sections.map ItemSection.runs)) := by
  cases sections with
  | nil => exact .nil ceiling
  | cons first rest =>
    refine ⟨[first :: rest], by simp, ?_, ?_, by simp⟩
    · exact .cons ⟨by simp, l, hlist, rfl⟩ .nil
    · intro group hgroup s hs s' hs'
      obtain rfl := List.mem_singleton.1 hgroup
      rw [hkey s hs, hkey s' hs']

/-- Two sections stand in one group exactly if they have the same key. -/
theorem Layout.mem_group_iff {ceiling : Int} {sections : List ItemSection}
    {elements : List RichElement} {groups : List (List ItemSection)}
    (h : Layout ceiling sections elements groups) {s s' : ItemSection} (hs : s ∈ sections)
    (hs' : s' ∈ sections) :
    (∃ group ∈ groups, s ∈ group ∧ s' ∈ group) ↔ s.key ceiling = s'.key ceiling := by
  constructor
  · rintro ⟨group, hgroup, hs, hs'⟩
    exact h.same group hgroup s hs s' hs'
  · intro heq
    obtain ⟨group, hgroup, hs⟩ := List.mem_flatten.1 (h.flatten ▸ hs)
    obtain ⟨group', hgroup', hs'⟩ := List.mem_flatten.1 (h.flatten ▸ hs')
    suffices group = group' from ⟨group, hgroup, hs, this ▸ hs'⟩
    by_contra hne
    exact h.distinct.forall hgroup hgroup' hne s hs s' hs' heq

/-! ## The compilation -/

theorem compileList_eq (ceiling indent : Int) (t : Token) :
    compileList ceiling indent t =
      if indent ≥ ceiling then flattenedList t.ordered indent t.children
      else compileItems ceiling indent t.ordered [] t.children := by
  cases t
  rw [compileList]

/-- A list without items has no elements, whether it is flattened or not. -/
theorem compileList_of_children_eq_nil {t : Token} (h : t.children = []) (ceiling indent : Int) :
    compileList ceiling indent t = [] := by
  rw [compileList_eq, h, compileItems]
  split <;> rfl

/-- The lists in an item are compiled one after the other. -/
theorem compileNested_eq_flatMap (ceiling indent : Int) (ts : List Token) :
    compileNested ceiling indent ts =
      (ts.filter isList).flatMap (compileList ceiling indent) := by
  induction ts with
  | nil => rfl
  | cons t ts ih =>
    rw [compileNested, ih]
    cases hlist : isList t with
    | true => rw [if_pos rfl, List.filter_cons_of_pos hlist, List.flatMap_cons]
    | false => rw [if_neg Bool.false_ne_true, List.filter_cons_of_neg (by simp [hlist])]; rfl

/-- What an item shows is collected, and becomes an element before the lists in the item. -/
theorem compileItems_cons {ceiling indent : Int} (hbelow : indent < ceiling) (ordered : Bool)
    (collected : List (List TextRun)) (item : Token) (rest : List Token) :
    compileItems ceiling indent ordered collected (item :: rest) =
      if holdsList item then
        flush ordered indent (collected ++ (itemRuns? ceiling indent item).toList)
          ++ compileNested ceiling (indent + 1) item.children
          ++ compileItems ceiling indent ordered [] rest
      else
        compileItems ceiling indent ordered
          (collected ++ (itemRuns? ceiling indent item).toList) rest := by
  have hcollected (other : List Token) :
      (if other.isEmpty then collected else collected ++ [runsOf ceiling other]) =
        collected ++ (if other.isEmpty then none else some (runsOf ceiling other)).toList := by
    split <;> simp
  rw [itemRuns?, if_neg (Int.not_le.2 hbelow)]
  obtain ⟨kind, text, children, href, title, ordered', level, foreign⟩ := item
  rw [compileItems]
  simp only [hcollected, holdsList]

theorem map_runs_ownSection (ceiling : Int) (l : ListPlace) (number : Nat) (item : Token) :
    (ownSection ceiling l number item).map ItemSection.runs =
      (itemRuns? ceiling l.indent item).toList := by
  rw [ownSection]
  cases itemRuns? ceiling l.indent item <;> rfl

/-! ### Lists at the ceiling -/

theorem map_runs_walkItems_of_ceiling_le {ceiling : Int} {l : ListPlace}
    (hceiling : ceiling ≤ l.indent) (number : Nat) (items : List Token) :
    (walkItems ceiling l number items).map ItemSection.runs =
      ((items.map Token.plainText).filter (· ≠ "")).map fun text => [.text text .empty] := by
  induction items generalizing number with
  | nil => rfl
  | cons item items ih =>
    rw [walkItems_cons, if_pos hceiling, List.append_nil, List.map_append, map_runs_ownSection, ih,
      itemRuns?, if_pos hceiling]
    by_cases h : item.plainText = "" <;> simp [h]

theorem list_of_mem_walkItems_of_ceiling_le {ceiling : Int} {l : ListPlace}
    (hceiling : ceiling ≤ l.indent) {number : Nat} {items : List Token} {s : ItemSection}
    (hs : s ∈ walkItems ceiling l number items) : s.list = l := by
  induction items generalizing number with
  | nil => simp [walkItems] at hs
  | cons item items ih =>
    rw [walkItems_cons, if_pos hceiling, List.append_nil] at hs
    rcases List.mem_append.1 hs with hs | hs
    · exact (of_mem_ownSection hs).1
    · exact ih hs

theorem flattenedList_eq_flush (ordered : Bool) (indent : Int) (items : List Token) :
    flattenedList ordered indent items =
      flush ordered indent (((items.map Token.plainText).filter (· ≠ "")).map
        fun text => [.text text .empty]) := by
  simp only [flattenedList, flush, List.isEmpty_map]

theorem hasLayout_flattenedList {ceiling : Int} {l : ListPlace} (hceiling : ceiling ≤ l.indent) :
    HasLayout ceiling (walkItems ceiling l 0 l.items)
      (flattenedList l.ordered l.indent l.items) := by
  rw [flattenedList_eq_flush, ← map_runs_walkItems_of_ceiling_le hceiling 0]
  have hlist : ∀ s ∈ walkItems ceiling l 0 l.items, s.list = l :=
    fun s hs => list_of_mem_walkItems_of_ceiling_le hceiling hs
  have hkey : ∀ s ∈ walkItems ceiling l 0 l.items, s.key ceiling = (l.address, 0) := by
    intro s hs
    rw [ItemSection.key, hlist s hs, if_pos hceiling]
  exact hasLayout_flush hlist hkey

/-! ### Lists below the ceiling -/

/-- The lists of an item one after the other: their addresses go apart at the child's number. -/
theorem hasLayout_compileNested {ceiling indent : Int} (address : List Nat) (number : Nat)
    {ts : List Token} (hlayout : ∀ t ∈ ts, ∀ address,
      HasLayout ceiling (walk ceiling address indent t) (compileList ceiling indent t)) :
    HasLayout ceiling (walkLists ceiling address indent number ts)
      (compileNested ceiling indent ts) := by
  induction ts generalizing number with
  | nil => exact .nil ceiling
  | cons t ts ih =>
    have hrest := ih (number + 1) fun u hu => hlayout u (List.mem_cons_of_mem _ hu)
    rw [walkLists, compileNested]
    split
    · refine (hlayout t List.mem_cons_self _).append hrest fun s hs s' hs' => ?_
      exact ItemSection.key_ne_of_address (address_ne_of_mem_walk hs hs')
    · exact hrest

/-- Sections up to an item that holds a list are apart from those of the items behind it. -/
theorem apart_walkItems {ceiling : Int} {l : ListPlace} (hbelow : l.indent < ceiling)
    {number : Nat} {item : Token} {rest : List Token}
    (hdrop : l.items.drop number = item :: rest) (hholds : holdsList item)
    {sections : List ItemSection}
    (hsections : ∀ s ∈ sections, s.list = l ∧ s.key ceiling = (l.address, l.cuts number)) :
    Apart ceiling sections (walkItems ceiling l (number + 1) rest) := by
  intro s hs s' hs'
  obtain ⟨hlist, hkey⟩ := hsections s hs
  rcases place_of_mem_walkItems (fun _ _ u _ => address_of_mem_walk u) hs' with
    ⟨hlist', hnumber⟩ | ⟨n, -, m, haddress⟩
  · have hcuts : l.cuts number < l.cuts s'.number := by
      have hle : l.cuts (number + 1) ≤ l.cuts s'.number := ListPlace.cuts_le hnumber
      rw [ListPlace.cuts_succ hdrop, if_pos hholds] at hle
      omega
    have hkey' : s'.key ceiling = (l.address, l.cuts s'.number) := by
      rw [ItemSection.key_eq (by rwa [hlist']), hlist']
    rw [hkey, hkey']
    exact fun heq => Nat.ne_of_lt hcuts (Prod.mk.inj heq).2
  · refine ItemSection.key_ne_of_address ?_
    rw [hlist]
    exact ne_of_longer (List.IsPrefix.trans ⟨[m], rfl⟩ haddress)

theorem walkLists_eq_nil {ceiling indent : Int} {address : List Nat} {number : Nat}
    {ts : List Token} (h : ts.any isList = false) :
    walkLists ceiling address indent number ts = [] := by
  induction ts generalizing number with
  | nil => rfl
  | cons t ts ih =>
    obtain ⟨ht, hts⟩ : isList t = false ∧ ts.any isList = false := by simpa using h
    rw [walkLists, ht, ih hts]
    rfl

/-- The invariant of a list's compilation: what is collected has the key that the section of the
next item would have. -/
theorem hasLayout_compileItems {ceiling : Int} {l : ListPlace} (hbelow : l.indent < ceiling)
    {items : List Token} (hlayout : ∀ item ∈ items, ∀ t ∈ item.children, ∀ address indent,
      HasLayout ceiling (walk ceiling address indent t) (compileList ceiling indent t))
    (number : Nat) (hdrop : l.items.drop number = items) (sections : List ItemSection)
    (hsections : ∀ s ∈ sections, s.list = l ∧ s.key ceiling = (l.address, l.cuts number)) :
    HasLayout ceiling (sections ++ walkItems ceiling l number items)
      (compileItems ceiling l.indent l.ordered (sections.map ItemSection.runs) items) := by
  induction items generalizing number sections with
  | nil =>
    rw [walkItems, compileItems, List.append_nil]
    exact hasLayout_flush (fun s hs => (hsections s hs).1) fun s hs => (hsections s hs).2
  | cons item rest ih =>
    have ih := ih (fun item hitem => hlayout item (List.mem_cons_of_mem _ hitem)) (number + 1)
      (by rw [← List.tail_drop, hdrop, List.tail_cons])
    let collected := sections ++ ownSection ceiling l number item
    have hcollected : ∀ s ∈ collected,
        s.list = l ∧ s.key ceiling = (l.address, l.cuts number) := by
      intro s hs
      rcases List.mem_append.1 hs with hs | hs
      · exact hsections s hs
      · obtain ⟨hlist, hnumber⟩ := of_mem_ownSection hs
        exact ⟨hlist, by rw [ItemSection.key_eq (by rwa [hlist]), hlist, hnumber]⟩
    have hruns : sections.map ItemSection.runs ++ (itemRuns? ceiling l.indent item).toList =
        collected.map ItemSection.runs := by
      rw [← map_runs_ownSection ceiling l number item, ← List.map_append]
    rw [compileItems_cons hbelow, hruns, walkItems_cons, if_neg (Int.not_le.2 hbelow)]
    split
    · next hholds =>
      have hown := hasLayout_flush (fun s hs => (hcollected s hs).1) fun s hs => (hcollected s hs).2
      have hnested := hasLayout_compileNested (l.address ++ [number]) 0
        fun t ht address => hlayout item List.mem_cons_self t ht address (l.indent + 1)
      have hrest := ih [] (by simp)
      have happart : Apart ceiling
          (collected ++ walkLists ceiling (l.address ++ [number]) (l.indent + 1) 0 item.children)
          (walkItems ceiling l (number + 1) rest) := by
        intro s hs
        -- Later sections of this list have a cut more before them, and those of the lists in the
        -- item are at other addresses.
        rcases List.mem_append.1 hs with hs | hs
        · exact apart_walkItems hbelow hdrop hholds hcollected s hs
        · exact fun s' hs' =>
            ItemSection.key_ne_of_address (address_ne_of_mem_walkItems hs hs')
      have hfirst := hown.append hnested fun s hs s' hs' => ItemSection.key_ne_of_address
        (address_ne_of_mem_walkLists (hcollected s hs).1 hs')
      simpa [collected, List.append_assoc] using hfirst.append hrest happart
    · next hholds =>
      have hcuts : l.cuts (number + 1) = l.cuts number := by
        rw [ListPlace.cuts_succ hdrop, if_neg hholds, Nat.add_zero]
      have hrest := ih collected (by rwa [hcuts])
      rw [walkLists_eq_nil (by simpa [holdsList] using hholds)]
      simpa [collected, List.append_assoc] using hrest

theorem hasLayout_compileList {ceiling : Int} (t : Token) : ∀ address indent,
    HasLayout ceiling (walk ceiling address indent t) (compileList ceiling indent t) := by
  induction t using Token.induction_on_items with
  | step t ih =>
    intro address indent
    rw [walk_eq, compileList_eq]
    split
    · next hceiling =>
      exact hasLayout_flattenedList (l := ⟨address, indent, t.ordered, t.children⟩) hceiling
    · next hbelow =>
      exact hasLayout_compileItems (l := ⟨address, indent, t.ordered, t.children⟩)
        (Int.not_le.1 hbelow) ih 0 rfl [] (by simp)

/-! ## What a list is compiled to -/

/-- A list element with at least one section and nothing else. -/
def IsSectionList (element : RichElement) : Prop :=
  ∃ ordered indent items, items ≠ [] ∧ element = .list ordered indent items ∧
    element.toJson = .obj [("type", .str "rich_text_list"),
      ("style", .str (if ordered then "ordered" else "bullet")), ("indent", .int indent),
      ("offset", .int 0), ("border", .int 0),
      ("elements", .arr (items.map fun runs => .obj [("type", .str "rich_text_section"),
        ("elements", .arr (runs.map TextRun.toJson))]))]

theorem isSectionList_of_isBlock {group : List ItemSection} {element : RichElement}
    (h : IsBlock group element) : IsSectionList element := by
  obtain ⟨l, -, rfl⟩ := h.eq_list
  exact ⟨l.ordered, l.indent, group.map ItemSection.runs, by simpa using h.ne_nil, rfl, rfl⟩

theorem isSectionList_of_blocks {groups : List (List ItemSection)} {elements : List RichElement}
    (h : List.Forall₂ IsBlock groups elements) : ∀ element ∈ elements, IsSectionList element := by
  induction h with
  | nil => simp
  | cons hblock _ ih => exact List.forall_mem_cons.2 ⟨isSectionList_of_isBlock hblock, ih⟩

theorem expand_of_isBlock {group : List ItemSection} {element : RichElement}
    (h : IsBlock group element) : expand element = group.map ItemSection.shown := by
  obtain ⟨l, hlist, rfl⟩ := h.eq_list
  rw [expand, List.map_map]
  refine List.map_congr_left fun s hs => ?_
  simp [ItemSection.shown, hlist s hs]

theorem flatMap_expand {groups : List (List ItemSection)} {elements : List RichElement}
    (h : List.Forall₂ IsBlock groups elements) :
    elements.flatMap expand = groups.flatten.map ItemSection.shown := by
  induction h with
  | nil => rfl
  | cons hblock _ ih =>
    rw [List.flatMap_cons, ih, expand_of_isBlock hblock, List.flatten_cons, List.map_append]

/-- **A list loses, doubles and misplaces no item, and lists never nest.** The elements of a list
show the sections of its walk, none of them twice, in groups of which each is one element; all of
them are lists of at least one section. Two sections of one list below the ceiling stand in one
element exactly if no item from the first up to the second holds a list. -/
theorem compileList_walk (ceiling indent : Int) (t : Token) :
    (compileList ceiling indent t).flatMap expand =
        (walk ceiling [] indent t).map ItemSection.shown ∧
      (∀ element ∈ compileList ceiling indent t, IsSectionList element) ∧
      (walk ceiling [] indent t).Pairwise Elsewhere ∧
      ∃ groups : List (List ItemSection), groups.flatten = walk ceiling [] indent t ∧
        List.Forall₂ IsBlock groups (compileList ceiling indent t) ∧
        ∀ s ∈ walk ceiling [] indent t, ∀ s' ∈ walk ceiling [] indent t,
          s.list = s'.list → s.list.indent < ceiling → s.number < s'.number →
            ((∃ group ∈ groups, s ∈ group ∧ s' ∈ group) ↔
              ∀ item ∈ (s.list.items.take s'.number).drop s.number, holdsList item = false) := by
  obtain ⟨groups, hlayout⟩ := hasLayout_compileList t [] indent
  refine ⟨?_, isSectionList_of_blocks hlayout.blocks, pairwise_elsewhere_walk t [] indent,
    groups, hlayout.flatten, hlayout.blocks, ?_⟩
  · rw [flatMap_expand hlayout.blocks, hlayout.flatten]
  · intro s hs s' hs' hlist hbelow hnumber
    rw [hlayout.mem_group_iff hs hs', ItemSection.key_eq hbelow,
      ItemSection.key_eq (hlist ▸ hbelow), ← hlist]
    simpa using ListPlace.cuts_eq_iff (Nat.le_of_lt hnumber)

end AlertBridge.RichText
