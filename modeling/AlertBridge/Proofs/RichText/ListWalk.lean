import AlertBridge.RichText.Compile

/-!
# The sections of a list

A list of a document is written as sections, one for each item that has something to show, in the
order in which a reader meets the items. `walk` lists them with the place each one comes from, and
without a word on how they are distributed over the elements of a rich text.

Where the indentation is below the ceiling an item shows what it holds besides lists, and then its
lists follow, one level further in. From the ceiling on an item shows its text, if there is any,
and nothing follows.

## Main definitions

* `ListPlace`, `ItemSection`: a list in a tree, and the section of one of its items
* `walk`: the sections of a list and of the lists in it
* `expand`: the sections of an element
-/

namespace AlertBridge.RichText

/-- A list that stands in a tree of lists. -/
structure ListPlace where
  /-- The way to the list: of each list around it the number of an item, and the number of a child
  of that item. -/
  address : List Nat
  indent : Int
  ordered : Bool
  items : List Token

/-- The section that an item of a list shows. -/
structure ItemSection where
  list : ListPlace
  number : Nat
  runs : List TextRun

/-- A section with the indentation of its list and whether that is ordered. -/
def ItemSection.shown (s : ItemSection) : Int × Bool × List TextRun :=
  (s.list.indent, s.list.ordered, s.runs)

/-- The sections of an element, each with the indentation and the style of the element. -/
def expand : RichElement → List (Int × Bool × List TextRun)
  | .list ordered indent items => items.map fun runs => (indent, ordered, runs)
  | _ => []

/-- The item holds a list. -/
def holdsList (item : Token) : Bool := item.children.any isList

/-- What an item shows: the runs of what it holds besides lists, or its text if its list is at the
ceiling. -/
def itemRuns? (ceiling indent : Int) (item : Token) : Option (List TextRun) :=
  if indent ≥ ceiling then
    if item.plainText = "" then none else some [.text item.plainText .empty]
  else
    let other := item.children.filter (!isList ·)
    if other.isEmpty then none else some (runsOf ceiling other)

/-- The section of an item, if it shows something. -/
def ownSection (ceiling : Int) (l : ListPlace) (number : Nat) (item : Token) : List ItemSection :=
  ((itemRuns? ceiling l.indent item).map fun runs => ⟨l, number, runs⟩).toList

mutual

/-- The sections of a list at an address. -/
def walk (ceiling : Int) (address : List Nat) (indent : Int) : Token → List ItemSection
  | ⟨_, _, children, _, _, ordered, _, _⟩ =>
    walkItems ceiling ⟨address, indent, ordered, children⟩ 0 children

/-- The sections of the items of a list from a number on: that of the first item, then those of
the lists in it, then those of the other items. -/
def walkItems (ceiling : Int) (l : ListPlace) (number : Nat) : List Token → List ItemSection
  | [] => []
  | ⟨kind, text, children, href, title, ordered, level, foreign⟩ :: rest =>
    ownSection ceiling l number ⟨kind, text, children, href, title, ordered, level, foreign⟩
      ++ (if l.indent ≥ ceiling then []
        else walkLists ceiling (l.address ++ [number]) (l.indent + 1) 0 children)
      ++ walkItems ceiling l (number + 1) rest

/-- The sections of the lists among the children of an item from a number on. -/
def walkLists (ceiling : Int) (address : List Nat) (indent : Int) (number : Nat) :
    List Token → List ItemSection
  | [] => []
  | t :: rest =>
    (if isList t then walk ceiling (address ++ [number]) indent t else [])
      ++ walkLists ceiling address indent (number + 1) rest

end

theorem walk_eq (ceiling : Int) (address : List Nat) (indent : Int) (t : Token) :
    walk ceiling address indent t =
      walkItems ceiling ⟨address, indent, t.ordered, t.children⟩ 0 t.children := by
  cases t
  rw [walk]

theorem walkItems_cons (ceiling : Int) (l : ListPlace) (number : Nat) (item : Token)
    (rest : List Token) :
    walkItems ceiling l number (item :: rest) =
      ownSection ceiling l number item
        ++ (if l.indent ≥ ceiling then []
          else walkLists ceiling (l.address ++ [number]) (l.indent + 1) 0 item.children)
        ++ walkItems ceiling l (number + 1) rest := by
  cases item
  rw [walkItems]

end AlertBridge.RichText
