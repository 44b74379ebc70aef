/-!
# Blank characters

White space in the wide sense: the control characters that move the writing position, the
information separators, and the spaces of Unicode. `trim` removes blanks at both ends.

Main statements: characters that start and end with others are left as they are
(`trimBoth_eq_self`), and trimming twice is trimming once (`trim_trim`).
-/

namespace AlertBridge

/-- A tab, a line or page break, an information separator or a space of any width. -/
def isBlank (c : Char) : Bool :=
  let n := c.toNat
  (9 ≤ n && n ≤ 13) || (28 ≤ n && n ≤ 32) || n = 0x85 || n = 0xA0 || n = 0x1680 ||
    (0x2000 ≤ n && n ≤ 0x200A) || n = 0x2028 || n = 0x2029 || n = 0x202F || n = 0x205F ||
    n = 0x3000

/-- The characters without those at the end that satisfy `p`. -/
def dropTail (p : Char → Bool) (cs : List Char) : List Char :=
  (cs.reverse.dropWhile p).reverse

/-- The characters without those at either end that satisfy `p`. -/
def trimBoth (p : Char → Bool) (cs : List Char) : List Char :=
  dropTail p (cs.dropWhile p)

/-- Nothing is dropped in front of a character that does not satisfy `p`. -/
theorem dropWhile_eq_self_of_head {p : Char → Bool} {cs : List Char}
    (h : ∀ c ∈ cs.head?, p c = false) : cs.dropWhile p = cs := by
  cases cs with
  | nil => rfl
  | cons c cs => rw [List.dropWhile_cons, h c rfl]; rfl

/-- Nothing is dropped behind a character that does not satisfy `p`. -/
theorem dropTail_eq_self {p : Char → Bool} {cs : List Char}
    (h : ∀ c ∈ cs.getLast?, p c = false) : dropTail p cs = cs := by
  rw [dropTail, dropWhile_eq_self_of_head, List.reverse_reverse]
  rwa [List.head?_reverse]

/-- Characters that start and end with others than `p` are left as they are. -/
theorem trimBoth_eq_self {p : Char → Bool} {cs : List Char} (first : ∀ c ∈ cs.head?, p c = false)
    (last : ∀ c ∈ cs.getLast?, p c = false) : trimBoth p cs = cs := by
  rw [trimBoth, dropWhile_eq_self_of_head first, dropTail_eq_self last]

/-- What is left without the characters in front starts with another one. -/
theorem head_dropWhile {p : Char → Bool} {cs : List Char} : ∀ c ∈ (cs.dropWhile p).head?,
    p c = false := by
  induction cs with
  | nil => simp
  | cons d cs ih =>
    by_cases h : p d
    · rwa [List.dropWhile_cons_of_pos h]
    · rw [List.dropWhile_cons_of_neg h]
      intro c hc
      rw [← Option.some.inj hc]
      exact Bool.eq_false_iff.2 h

/-- What is left without the characters at the end is a beginning of what was there. -/
theorem dropTail_prefix (p : Char → Bool) (cs : List Char) : dropTail p cs <+: cs := by
  rw [dropTail, ← List.reverse_suffix, List.reverse_reverse]
  exact List.dropWhile_suffix p

/-- Removing characters at both ends twice is removing them once. -/
theorem trimBoth_trimBoth (p : Char → Bool) (cs : List Char) :
    trimBoth p (trimBoth p cs) = trimBoth p cs := by
  apply trimBoth_eq_self
  · intro c hc
    obtain ⟨rest, hrest⟩ := dropTail_prefix p (cs.dropWhile p)
    refine @head_dropWhile p cs c ?_
    rw [← hrest, List.head?_append]
    exact Option.mem_def.2 (by rw [trimBoth] at hc; rw [Option.mem_def.1 hc]; rfl)
  · intro c hc
    rw [trimBoth, dropTail, List.getLast?_reverse] at hc
    exact head_dropWhile c hc

/-- The text without the blanks at either end. -/
def trim (s : String) : String := String.ofList (trimBoth isBlank s.toList)

/-- Trimming twice is trimming once. -/
theorem trim_trim (s : String) : trim (trim s) = trim s := by
  rw [trim, trim, String.toList_ofList, trimBoth_trimBoth]

/-- Every character is blank. -/
def allBlank (cs : List Char) : Bool := cs.all isBlank

end AlertBridge
