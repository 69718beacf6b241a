import BooleanSearch.Text.Basic

/-!
This module contains the stemmer for English, which removes inflections and derivational suffixes
from words in lower case. A word passes through a sequence of steps, each of which replaces the
longest of its suffixes that the word ends with. Most replacements are made only where the suffix
lies in the first or in the second region of the word: the first region begins behind the first
consonant that follows a vowel, and the second one is the first region of the first.
-/

namespace BooleanSearch.EnglishStem

def isVowel (c : Char) : Bool := ['a', 'e', 'i', 'o', 'u', 'y'].contains c

/--
Write every `y` that acts as a consonant, at the beginning or behind a vowel, as a capital.
-/
def markConsonants : (behindVowel : Bool) → Text → Text
  | _, [] => []
  | behindVowel, c :: rest =>
    let letter := if c = 'y' ∧ behindVowel then 'Y' else c
    letter :: markConsonants (isVowel letter) rest

def unmarkConsonants (word : Text) : Text := word.map fun c => if c = 'Y' then 'y' else c

def region? (word : Text) : Option Text :=
  match word.dropWhile (fun c => !isVowel c) with
  | [] => none
  | _ :: rest =>
    match rest.dropWhile isVowel with
    | [] => none
    | _ :: behind => some behind

def irregularBeginnings : List Text := ["gener".toList, "commun".toList, "arsen".toList]

/--
The numbers of letters in front of the first and of the second region. A word without such a region
has it empty, at its end.
-/
def regions (word : Text) : Nat × Nat :=
  let first :=
    match irregularBeginnings.findSome? (fun beginning => Text.dropMark? beginning word) with
    | some behind => some behind
    | none => region? word
  match first with
  | none => (word.length, word.length)
  | some behind =>
    match region? behind with
    | none => (word.length - behind.length, word.length)
    | some last => (word.length - behind.length, word.length - last.length)

def stemBefore? (suffix word : Text) : Option Text :=
  if suffix.isSuffixOf word then some (word.take (word.length - suffix.length)) else none

/--
What becomes of a word with a certain suffix, given the part in front of it. A word to which nothing
is assigned stays as it is.
-/
structure Rule where
  suffix : Text
  result? : Text → Option Text

def replacing (suffix replacement : String) (applies : Text → Bool) : Rule where
  suffix := suffix.toList
  result? stem := if applies stem then some (stem ++ replacement.toList) else none

def removing (suffix : String) (applies : Text → Bool) : Rule := replacing suffix "" applies

/--
Apply the first rule whose suffix the word has. Longer suffixes are listed before shorter ones that
they end with.
-/
def rewrite (rules : List Rule) (word : Text) : Text :=
  match rules.findSome? fun rule => (stemBefore? rule.suffix word).map rule.result? with
  | some (some result) => result
  | _ => word

def endsWith (letters : List Char) (stem : Text) : Bool :=
  match stem.getLast? with
  | some c => letters.contains c
  | none => false

/--
Whether a stem ends in a short syllable: a vowel between two consonants the last of which is not `w`,
`x` or a consonantal `y`, or a vowel at the beginning and a consonant.
-/
def endsShort (stem : Text) : Bool :=
  match stem.reverse with
  | [last, vowel] => !isVowel last && isVowel vowel
  | last :: vowel :: before :: _ =>
    !isVowel last && !(['w', 'x', 'Y']).contains last && isVowel vowel && !isVowel before
  | _ => false

def always : Text → Bool := fun _ => true

def possessiveRules : List Rule :=
  [removing "'s'" always, removing "'s" always, removing "'" always]

def shortened (suffix : String) : Rule where
  suffix := suffix.toList
  result? stem := some (stem ++ if stem.length < 2 then ['i', 'e'] else ['i'])

def pluralRules : List Rule := [
  replacing "sses" "ss" always,
  shortened "ied", shortened "ies",
  replacing "us" "us" always, replacing "ss" "ss" always,
  removing "s" (fun stem => stem.dropLast.any isVowel)]

def mendEnding (first : Nat) (stem : Text) : Text :=
  if endsWith ['t'] stem && endsWith ['a'] stem.dropLast ||
      endsWith ['l'] stem && endsWith ['b'] stem.dropLast ||
      endsWith ['z'] stem && endsWith ['i'] stem.dropLast then
    stem ++ ['e']
  else
    match stem.reverse with
    | last :: before :: _ =>
      if last = before ∧ ['b', 'd', 'f', 'g', 'm', 'n', 'p', 'r', 't'].contains last then
        stem.dropLast
      else if stem.length = first ∧ endsShort stem then
        stem ++ ['e']
      else
        stem
    | _ => stem

/--
Remove `-ed`, `-ing` and their adverbs behind a vowel. The suffixes in `-eed` are shortened only.
-/
def participleRules (first : Nat) : List Rule :=
  let shortenedEed (suffix : String) : Rule :=
    replacing suffix "ee" fun stem => first ≤ stem.length
  let removed (suffix : String) : Rule :=
    ⟨suffix.toList, fun stem => if stem.any isVowel then some (mendEnding first stem) else none⟩
  [shortenedEed "eedly", removed "ingly", removed "edly", shortenedEed "eed", removed "ing",
    removed "ed"]

def replaceY (word : Text) : Text :=
  match word.reverse with
  | last :: before :: _ :: _ =>
    if (last = 'y' ∨ last = 'Y') ∧ isVowel before = false then word.dropLast ++ ['i'] else word
  | _ => word

def derivationRules (first : Nat) : List Rule :=
  let inFirst (stem : Text) : Bool := first ≤ stem.length
  let replaced (suffix replacement : String) : Rule := replacing suffix replacement inFirst
  [replaced "ational" "ate", replaced "fulness" "ful", replaced "iveness" "ive",
    replaced "ization" "ize", replaced "ousness" "ous",
    replaced "biliti" "ble", replaced "lessli" "less", replaced "tional" "tion",
    replaced "alism" "al", replaced "aliti" "al", replaced "ation" "ate", replaced "entli" "ent",
    replaced "fulli" "ful", replaced "iviti" "ive", replaced "ousli" "ous",
    replaced "abli" "able", replaced "alli" "al", replaced "anci" "ance", replaced "ator" "ate",
    replaced "enci" "ence", replaced "izer" "ize",
    replaced "bli" "ble",
    replacing "ogi" "og" (fun stem => inFirst stem && endsWith ['l'] stem),
    removing "li" (fun stem =>
      inFirst stem && endsWith ['c', 'd', 'e', 'g', 'h', 'k', 'm', 'n', 'r', 't'] stem)]

def adjectiveRules (first second : Nat) : List Rule :=
  let inFirst (stem : Text) : Bool := first ≤ stem.length
  let replaced (suffix replacement : String) : Rule := replacing suffix replacement inFirst
  [replaced "ational" "ate", replaced "tional" "tion",
    replaced "alize" "al",
    removing "ative" (fun stem => inFirst stem && decide (second ≤ stem.length)),
    replaced "icate" "ic", replaced "iciti" "ic",
    replaced "ical" "ic", replaced "ness" "", replaced "ful" ""]

def endingRules (second : Nat) : List Rule :=
  let inSecond (stem : Text) : Bool := second ≤ stem.length
  let removed (suffix : String) : Rule := removing suffix inSecond
  [removed "ement",
    removed "able", removed "ance", removed "ence", removed "ible", removed "ment",
    removed "ant", removed "ate", removed "ent",
    removing "ion" (fun stem => inSecond stem && endsWith ['s', 't'] stem),
    removed "ism", removed "iti", removed "ive", removed "ize", removed "ous",
    removed "al", removed "er", removed "ic"]

def finalLetterRules (first second : Nat) : List Rule := [
  removing "e" (fun stem =>
    decide (second ≤ stem.length) || (decide (first ≤ stem.length) && !endsShort stem)),
  removing "l" (fun stem => decide (second ≤ stem.length) && endsWith ['l'] stem)]

/--
Words whose stem is listed.
-/
def irregularStems : List (Text × Text) :=
  [("skis", "ski"), ("skies", "sky"), ("dying", "die"), ("lying", "lie"), ("tying", "tie"),
    ("idly", "idl"), ("gently", "gentl"), ("ugly", "ugli"), ("early", "earli"), ("only", "onli"),
    ("singly", "singl"), ("sky", "sky"), ("news", "news"), ("howe", "howe"), ("atlas", "atlas"),
    ("cosmos", "cosmos"), ("bias", "bias"), ("andes", "andes")].map
    fun (word, stem) => (word.toList, stem.toList)

/--
Words that keep their ending once a plural is removed.
-/
def invariantStems : List Text :=
  ["inning", "outing", "canning", "herring", "earring", "proceed", "exceed", "succeed"].map
    String.toList

def markedStem (word : Text) : Text :=
  let (first, second) := regions word
  let singular := rewrite pluralRules (rewrite possessiveRules word)
  if invariantStems.contains singular then
    singular
  else
    rewrite (participleRules first) singular
      |> replaceY
      |> rewrite (derivationRules first)
      |> rewrite (adjectiveRules first second)
      |> rewrite (endingRules second)
      |> rewrite (finalLetterRules first second)

def regularStem (word : Text) : Text :=
  let unquoted := if word.head? = some '\'' then word.tail else word
  let marked := markConsonants true unquoted
  if marked = unquoted then markedStem marked else unmarkConsonants (markedStem marked)

def stem (word : Text) : Text :=
  match irregularStems.lookup word with
  | some listed => listed
  | none => if word.length < 3 then word else regularStem word

/--
Words of all other languages are left as they are.
-/
def stemmers (language : Text) : Text → Text :=
  if language = "english".toList then stem else id

end BooleanSearch.EnglishStem
