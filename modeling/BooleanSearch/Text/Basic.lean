/-!
This module contains the representation of text that everything else works on: a text is the list
of its characters, so that every scanner is a recursion over it. Cutting a text into pieces, words
and lines is defined here, as well as putting words together again.
-/

namespace BooleanSearch

/--
A text is the list of its characters.
-/
abbrev Text := List Char

namespace Text

/--
The pieces of a text between the characters that satisfy `isBreak`. Pieces may be empty, and there
is always one piece more than there are breaks.
-/
def splitOn (isBreak : Char → Bool) : Text → List Text
  | [] => [[]]
  | c :: rest =>
    if isBreak c then
      [] :: splitOn isBreak rest
    else
      match splitOn isBreak rest with
      | [] => [[c]]
      | piece :: pieces => (c :: piece) :: pieces

def wordsBetween (isBreak : Char → Bool) (text : Text) : List Text :=
  (splitOn isBreak text).filter (fun piece => !piece.isEmpty)

def unwords : List Text → Text
  | [] => []
  | [word] => word
  | word :: words => word ++ ' ' :: unwords words

/--
The lines of a text. Every line feed ends a line, and what follows the last line feed is a line only
if it is not empty.
-/
def lines (text : Text) : List Text :=
  let pieces := splitOn (· == '\n') text
  if pieces.getLast? == some [] then pieces.dropLast else pieces

def dropEndWhile (p : Char → Bool) (text : Text) : Text :=
  (text.reverse.dropWhile p).reverse

/--
Replace every doubled `c` by a single one. Pairs are taken from the left and do not overlap, so
three in a row become two.
-/
def foldPairs (c : Char) : Text → Text
  | [] => []
  | [d] => [d]
  | d :: e :: rest => if d = c ∧ e = c then c :: foldPairs c rest else d :: foldPairs c (e :: rest)

def dropMark? : (mark : Text) → Text → Option Text
  | [], text => some text
  | _ :: _, [] => none
  | m :: mark, c :: rest => if m = c then dropMark? mark rest else none

def cutAt? (mark : Text) : Text → Option (Text × Text)
  | [] =>
    match dropMark? mark [] with
    | some behind => some ([], behind)
    | none => none
  | c :: rest =>
    match dropMark? mark (c :: rest) with
    | some behind => some ([], behind)
    | none =>
      match cutAt? mark rest with
      | some (before, behind) => some (c :: before, behind)
      | none => none

instance decidableMem (text : Text) (texts : List Text) : Decidable (text ∈ texts) :=
  inferInstance

def addDistinct (texts : List Text) (text : Text) : List Text :=
  if text ∈ texts then texts else texts ++ [text]

def distinct (texts : List Text) : List Text := texts.foldl addDistinct []

theorem sublist_addDistinct (texts : List Text) (text : Text) :
    texts.Sublist (addDistinct texts text) := by
  unfold addDistinct
  split
  · exact List.Sublist.refl texts
  · exact List.sublist_append_left texts [text]

theorem mem_addDistinct (texts : List Text) (text : Text) : text ∈ addDistinct texts text := by
  unfold addDistinct
  split
  next hmem => exact hmem
  next => simp

@[simp]
theorem unwords_nil : unwords [] = [] := rfl

@[simp]
theorem unwords_singleton (word : Text) : unwords [word] = word := rfl

@[simp]
theorem unwords_cons_cons (word next : Text) (words : List Text) :
    unwords (word :: next :: words) = word ++ ' ' :: unwords (next :: words) := rfl

theorem dropMark?_eq_some_iff {mark text behind : Text} :
    dropMark? mark text = some behind ↔ text = mark ++ behind := by
  induction mark generalizing text with
  | nil => simp [dropMark?]
  | cons m mark ih =>
    cases text with
    | nil => simp [dropMark?]
    | cons c rest =>
      by_cases h : m = c
      · subst h
        simp [dropMark?, ih]
      · simp [dropMark?, h, Ne.symm h]

theorem eq_append_of_cutAt? {mark text before behind : Text}
    (h : cutAt? mark text = some (before, behind)) : text = before ++ mark ++ behind := by
  induction text generalizing before with
  | nil =>
    unfold cutAt? at h
    split at h <;> simp at h
    next heq =>
      obtain ⟨rfl, rfl⟩ := h
      simpa using dropMark?_eq_some_iff.mp heq
  | cons c rest ih =>
    unfold cutAt? at h
    split at h
    next heq =>
      simp at h
      obtain ⟨rfl, rfl⟩ := h
      simpa using dropMark?_eq_some_iff.mp heq
    next =>
      split at h <;> simp at h
      next heq =>
        obtain ⟨rfl, rfl⟩ := h
        simpa using ih heq

end Text

end BooleanSearch
