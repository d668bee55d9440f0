import SentenceCards.Challenge.Authoring
import SentenceCards.Curriculum.Basic

/-!
# The standard curriculum

Two modules: identifying and classifying things, and saying what is happening now.
-/

namespace SentenceCards.Curriculum

/-- Meet Ko - Introducing Ko sentences. -/
def meetKo : Lesson where
  id := "lesson_1_1"
  moduleId := "module_1"
  title := "Meet Ko - Introducing Ko sentences"
  description := "Learn to identify specific things using Ko"
  order := 1
  kind := .tutorial
  grammar := {
    summary := "Ko + te/ngā + noun"
    parts := ["Ko", "article", "noun"]
    explanation :=
      "Ko is a definite particle that introduces something specific. Always followed by te " ++
      "(singular) or ngā (plural)."
    tips :=
      ["Ko is like pointing at something and saying \"THAT one!\"",
       "te is for ONE thing (singular)", "ngā is for MANY things (plural)"] }
  vocabulary :=
    ["p_ko", "art_te", "art_nga", "n_whare", "n_ngeru", "n_kaiako", "n_tangata"]

/-- He Sentences - Classification. -/
def classifying : Lesson where
  id := "lesson_1_2"
  moduleId := "module_1"
  title := "He Sentences - Classification"
  description := "Learn to classify things using He"
  order := 2
  kind := .practice
  grammar := {
    summary := "He + noun"
    parts := ["He", "noun"]
    explanation :=
      "He classifies things - \"a/an\" or \"some\". Never use articles (te/ngā) after He!"
    tips :=
      ["He = \"a/an\" for classification", "Ko = \"the\" for specific things",
       "NEVER use te/ngā after He"] }
  vocabulary :=
    ["p_he"]

/-- Tēnei, Tēnā, Tērā - This and That. -/
def pointing : Lesson where
  id := "lesson_1_3"
  moduleId := "module_1"
  title := "Tēnei, Tēnā, Tērā - This and That"
  description := "Add demonstratives to Ko sentences"
  order := 3
  kind := .practice
  grammar := {
    summary := "Ko + te/ngā + noun + demonstrative"
    parts := ["Ko", "article", "noun", "demonstrative"]
    explanation :=
      "Demonstratives indicate distance: tēnei (near speaker), tēnā (near listener), tērā (far " ++
      "from both)"
    tips :=
      ["tēnei = this (by me)", "tēnā = that (by you)", "tērā = that (over there)",
       "Demonstrative comes AFTER the noun"] }
  vocabulary :=
    ["d_tenei", "d_tena", "d_tera"]

/-- Equative Sentences - I am, You are. -/
def equating : Lesson where
  id := "lesson_1_4"
  moduleId := "module_1"
  title := "Equative Sentences - I am, You are"
  description := "Connect pronouns to nouns using Ko"
  order := 4
  kind := .challenge
  grammar := {
    summary := "Ko + pronoun + te/ngā + noun"
    parts := ["Ko", "pronoun", "article", "noun"]
    explanation :=
      "Equative sentences connect who someone is to what they are"
    tips :=
      ["Ko + pronoun + te/ngā + noun", "au = I/me", "koe = you (singular)",
       "ia = he/she/it (gender neutral!)"] }
  vocabulary :=
    ["pr_au", "pr_koe", "pr_ia"]

/-- The module on sentences with Ko and He. -/
def foundations : CourseModule where
  id := "module_1"
  title := "Tūāpapa (Foundations)"
  description := "Master Ko and He sentences to identify and classify people and things"
  order := 1
  lessons := [meetKo, classifying, pointing, equating]

/-- Kei te Basics - Present Continuous. -/
def keiTeBasics : Lesson where
  id := "lesson_2_1"
  moduleId := "module_2"
  title := "Kei te Basics - Present Continuous"
  description := "Learn to express current states and actions"
  order := 1
  kind := .tutorial
  grammar := {
    summary := "Kei te + adjective/verb + pronoun"
    parts := ["Kei te", "adjective/verb", "pronoun"]
    explanation :=
      "Kei te indicates present continuous - actions or states happening RIGHT NOW"
    tips :=
      ["Kei te = present continuous (right now!)", "Verbs never change form in te reo",
       "Word order: Kei te + action/state + who"] }
  vocabulary :=
    ["tm_keite", "adj_pai", "adj_harikoa", "adj_ngenge", "v_haere", "v_kai"]

/-- Intensifiers - Very and Somewhat. -/
def intensifying : Lesson where
  id := "lesson_2_2"
  moduleId := "module_2"
  title := "Intensifiers - Very and Somewhat"
  description := "Add intensity with tino and āhua"
  order := 2
  kind := .practice
  grammar := {
    summary := "Kei te + intensifier + adjective/verb + pronoun"
    parts := ["Kei te", "intensifier", "adjective/verb", "pronoun"]
    explanation :=
      "Intensifiers modify the degree of the adjective or verb"
    tips :=
      ["tino = very", "āhua = somewhat/rather", "Intensifier goes BEFORE the adjective/verb"] }
  vocabulary :=
    ["int_tino", "int_ahua"]

/-- Locations - At and To. -/
def locating : Lesson where
  id := "lesson_2_3"
  moduleId := "module_2"
  title := "Locations - At and To"
  description := "Add locations with i and ki"
  order := 3
  kind := .challenge
  grammar := {
    summary := "Kei te + verb + pronoun + i/ki + location"
    parts := ["Kei te", "verb", "pronoun", "locative", "location"]
    explanation :=
      "i indicates location (at/in), ki indicates direction (to/towards)"
    tips :=
      ["i = at/in (where you are)", "ki = to/towards (where you're going)",
       "Only works with VERBS, not adjectives", "Location comes at the END"] }
  vocabulary :=
    ["pl_i", "pl_ki", "n_kura", "n_tamaki", "v_noho"]

/-- The module on the present tense. -/
def presentTense : CourseModule where
  id := "module_2"
  title := "Kei te (Present Tense)"
  description := "Express actions and states happening right now"
  order := 2
  lessons := [keiTeBasics, intensifying, locating]

/-- The id, the pattern and the target of each challenge. -/
def targets : List (String × Pattern × Target) := [
  ("c_1_1_1", .ko, ⟨"Ko te whare", "The house"⟩),
  ("c_1_1_2", .ko, ⟨"Ko ngā ngeru", "The cats"⟩),
  ("c_1_2_1", .he, ⟨"He whare", "A house"⟩),
  ("c_1_2_2", .he, ⟨"He kaiako au", "I am a teacher"⟩),
  ("c_1_3_1", .ko, ⟨"Ko te whare tēnei", "This is the house"⟩),
  ("c_1_4_1", .equative, ⟨"Ko au te kaiako", "I am the teacher"⟩),
  ("c_2_1_1", .keiTe, ⟨"Kei te pai au", "I am good"⟩),
  ("c_2_1_2", .keiTe, ⟨"Kei te harikoa koe", "You are happy"⟩),
  ("c_2_2_1", .keiTe, ⟨"Kei te tino pai au", "I am very good"⟩),
  ("c_2_3_1", .keiTe, ⟨"Kei te noho au i Tāmaki Makaurau", "I am living in Auckland"⟩)]

/-- The standard modules, and a challenge for each target. -/
def standard : Curriculum where
  modules := [foundations, presentTense]
  challenges := targets.map fun (id, pattern, target) =>
    Challenge.ofTarget Catalog.standard id pattern target

end SentenceCards.Curriculum
