import BooleanSearch.Config
import BooleanSearch.Error
import BooleanSearch.Text.Decomposition
import BooleanSearch.Text.LetterCase

/-!
This module contains the normalizers, which bring a word to the form under which it is looked up in
the vocabulary and compared with the words of documents.
-/

namespace BooleanSearch

abbrev Normalizer := Text → Text

/--
The languages that can be named in the configuration, in upper or lower case.
-/
def stemmerLanguages : List Text :=
  ["arabic", "danish", "dutch", "english", "finnish", "french", "german", "greek", "hungarian",
    "italian", "norwegian", "portuguese", "romanian", "russian", "spanish", "swedish", "tamil",
    "turkish"].map String.toList

/--
A stemmer for each of the languages.
-/
abbrev Stemmers := Text → Normalizer

namespace Normalizer

/--
Remove accents, fold case and reduce to the stem, in this order and as far as the configuration asks
for it.
-/
def applying (config : NormalizerConfig) (stem : Normalizer) : Normalizer := fun word =>
  let word := if config.stripAccents then Text.removeAccents word else word
  let word := if config.lowercase then Text.lowercase word else word
  stem word

def ofConfig (stemmers : Stemmers) (config : NormalizerConfig) : Except SearchError Normalizer :=
  if config.stem then
    let language := Text.lowercase config.language
    if stemmerLanguages.contains language then
      .ok (applying config (stemmers language))
    else
      .error (.config (.noStemmer config.language))
  else
    .ok (applying config id)

/--
The normalizer of the default configuration: accents are removed and case is folded.
-/
def default : Normalizer := applying {} id

end Normalizer

end BooleanSearch
