/-!
# Word categories

The grammatical category of a word decides where the word may stand in a sentence.
-/

namespace SentenceCards

/-- Grammatical categories of Māori words. -/
inductive Category where
  /-- Opens a sentence: Ko, He. -/
  | particle
  /-- te, ngā. -/
  | article
  | noun
  | pronoun
  | demonstrative
  | verb
  | adjective
  /-- Kei te, I, Ka. -/
  | tenseMarker
  | intensifier
  /-- i, ki. -/
  | locative
  | timeWord
  deriving DecidableEq, Inhabited

namespace Category

/-- Every category, in the order in which they are listed. -/
def all : List Category :=
  [particle, article, noun, pronoun, demonstrative, verb, adjective, tenseMarker,
    intensifier, locative, timeWord]

theorem mem_all (category : Category) : category ∈ all := by
  cases category <;> simp [all]

/-- The name under which a category is stored. -/
def name : Category → String
  | particle => "particle"
  | article => "article"
  | noun => "noun"
  | pronoun => "pronoun"
  | demonstrative => "demonstrative"
  | verb => "verb"
  | adjective => "adjective"
  | tenseMarker => "tense_marker"
  | intensifier => "intensifier"
  | locative => "particle_locative"
  | timeWord => "time_word"

/-- How the ids of the words of a category begin. -/
def idMark : Category → String
  | particle => "p_"
  | article => "art_"
  | noun => "n_"
  | pronoun => "pr_"
  | demonstrative => "d_"
  | verb => "v_"
  | adjective => "adj_"
  | tenseMarker => "tm_"
  | intensifier => "int_"
  | locative => "pl_"
  | timeWord => "tw_"

/-- The category with the given name. -/
def ofName? (name : String) : Option Category :=
  all.find? (·.name == name)

/-- The category whose mark begins the id.  No mark begins another one. -/
def ofId? (id : String) : Option Category :=
  all.find? fun category => category.idMark.toList.isPrefixOf id.toList

theorem ofName?_name (category : Category) : ofName? category.name = some category := by
  cases category <;> decide

end Category

end SentenceCards
