/-!
# Search and replacement

Occurrences are found from left to right and do not overlap. All functions work on the list of
characters; the `String` forms wrap them.
-/

namespace AlertBridge

/-- The rest after `pattern`, if the text starts with it. -/
def stripStart? : (pattern text : List Char) → Option (List Char)
  | [], text => some text
  | _ :: _, [] => none
  | p :: ps, c :: cs => if p = c then stripStart? ps cs else none

theorem stripStart?_eq_some_iff {pattern text rest : List Char} :
    stripStart? pattern text = some rest ↔ text = pattern ++ rest := by
  induction pattern generalizing text with
  | nil => simp [stripStart?, eq_comm]
  | cons p ps ih =>
    cases text with
    | nil => simp [stripStart?]
    | cons c cs =>
      by_cases h : p = c
      · subst h; simp [stripStart?, ih]
      · have h' : ¬ c = p := fun e => h e.symm
        simp [stripStart?, h, h']

theorem length_of_stripStart? {pattern text rest : List Char}
    (h : stripStart? pattern text = some rest) : rest.length ≤ text.length := by
  rw [stripStart?_eq_some_iff.1 h]; simp

/-- Every occurrence of `old`, which is not empty, becomes `new`. -/
def replaceChars (old new : List Char) : List Char → List Char
  | [] => []
  | c :: cs =>
    match old with
    | [] => c :: replaceChars old new cs
    | o :: os =>
      if o = c then
        match _h : stripStart? os cs with
        | some rest => new ++ replaceChars old new rest
        | none => c :: replaceChars old new cs
      else c :: replaceChars old new cs
termination_by text => text.length
decreasing_by
  · simp only [List.length_cons]; omega
  · have := length_of_stripStart? _h
    simp only [List.length_cons]; omega
  all_goals simp only [List.length_cons]; omega

/-- Every occurrence of `old` becomes `new`; an empty `old` changes nothing. -/
def replaceAll (old new text : String) : String :=
  String.ofList (replaceChars old.toList new.toList text.toList)

/-- The text before the first occurrence of `pattern`, and the text from its end on. -/
def splitFirst? (pattern : List Char) : List Char → Option (List Char × List Char)
  | [] => if pattern.isEmpty then some ([], []) else none
  | c :: cs =>
    match stripStart? pattern (c :: cs) with
    | some rest => some ([], rest)
    | none => (splitFirst? pattern cs).map fun (before, rest) => (c :: before, rest)

/-- The parts between the separators: one more than there are separators. -/
def splitChars (separator : Char) : List Char → List (List Char)
  | [] => [[]]
  | c :: cs =>
    if c = separator then [] :: splitChars separator cs
    else match splitChars separator cs with
      | [] => [[c]]
      | part :: parts => (c :: part) :: parts

/-- The parts of a text between the separators. -/
def splitAt (separator : Char) (text : String) : List String :=
  (splitChars separator text.toList).map String.ofList

/-- The words of a text: the longest runs of characters that do not satisfy `p`. -/
def wordsBy (p : Char → Bool) (text : List Char) : List (List Char) :=
  go [] text
where
  go (word : List Char) : List Char → List (List Char)
    | [] => if word.isEmpty then [] else [word.reverse]
    | c :: cs =>
      if p c then (if word.isEmpty then go [] cs else word.reverse :: go [] cs)
      else go (c :: word) cs

/-- The parts joined, with `separator` between two of them. -/
def joinWith (separator : String) : List String → String
  | [] => ""
  | [part] => part
  | part :: parts => part ++ separator ++ joinWith separator parts

/-- The texts one after the other. -/
def concat (parts : List String) : String := parts.foldr (· ++ ·) ""

@[simp] theorem concat_nil : concat [] = "" := rfl

@[simp] theorem concat_cons (part : String) (parts : List String) :
    concat (part :: parts) = part ++ concat parts := rfl

@[simp] theorem concat_append (as bs : List String) :
    concat (as ++ bs) = concat as ++ concat bs := by
  induction as with
  | nil => simp
  | cons a as ih => simp [ih, String.append_assoc]

/-- The list without the elements that occur earlier in it. -/
def dedup {α : Type} [BEq α] : List α → List α
  | [] => []
  | x :: xs => x :: (dedup xs).filter (! · == x)

/-- The first `n` characters. -/
def takeText (n : Nat) (s : String) : String := String.ofList (s.toList.take n)

end AlertBridge
