import SentenceCards.Vocabulary.Word

/-!
# The standard vocabulary

The first unit covers sentences with Ko and He, the second the present tense with
Kei te, and the third the past and the future.
-/

namespace SentenceCards.Vocabulary

/-- Words for saying which thing or what kind of thing something is. -/
def identifying : List Word := [
  ⟨"p_ko", "Ko", "definite particle", .particle, .purple, 1, "kaw (like \"core\")",
    some "Points to specific things - THE thing",
    some "Ko often begins introductions and formal speeches"⟩,
  ⟨"p_he", "He", "indefinite particle", .particle, .purple, 1, "heh",
    some "Classifies things - A/AN thing", none⟩,
  ⟨"art_te", "te", "the (singular)", .article, .gray, 1, "teh",
    some "Singular definite article", none⟩,
  ⟨"art_nga", "ngā", "the (plural)", .article, .gray, 1, "ngar",
    some "Plural definite article", none⟩,
  ⟨"n_whare", "whare", "house", .noun, .blue, 1, "fah-reh",
    none, some "Also means meeting house on marae"⟩,
  ⟨"n_ngeru", "ngeru", "cat", .noun, .blue, 1, "nge-roo", none, none⟩,
  ⟨"n_kaiako", "kaiako", "teacher", .noun, .blue, 1, "kai-ah-kaw",
    none, some "Literally \"one who feeds learning\""⟩,
  ⟨"n_tangata", "tangata", "person", .noun, .blue, 1, "tah-nga-tah", none, none⟩,
  ⟨"n_kuri", "kuri", "dog", .noun, .blue, 1, "koo-ree", none, none⟩,
  ⟨"n_tamaiti", "tamaiti", "child", .noun, .blue, 1, "tah-my-tee", none, none⟩,
  ⟨"pr_au", "au", "I/me", .pronoun, .red, 1, "ah-oo", none, none⟩,
  ⟨"pr_ia", "ia", "he/she/it", .pronoun, .red, 1, "ee-ah", some "Gender neutral", none⟩,
  ⟨"pr_koe", "koe", "you (singular)", .pronoun, .red, 1, "kaw-eh", none, none⟩,
  ⟨"d_tenei", "tēnei", "this (near me)", .demonstrative, .orange, 1, "tay-nay", none, none⟩,
  ⟨"d_tena", "tēnā", "that (near you)", .demonstrative, .orange, 1, "tay-nar", none, none⟩,
  ⟨"d_tera", "tērā", "that (over there)", .demonstrative, .orange, 1, "tay-rar", none, none⟩]

/-- Words for saying what is happening now. -/
def present : List Word := [
  ⟨"tm_keite", "Kei te", "present continuous marker", .tenseMarker, .yellow, 2, "kay teh",
    some "Indicates actions happening RIGHT NOW",
    some "Kei te is ONLY for present tense - verbs never change form"⟩,
  ⟨"adj_pai", "pai", "good", .adjective, .lightBlue, 2, "pie", none, none⟩,
  ⟨"adj_harikoa", "harikoa", "happy", .adjective, .lightBlue, 2, "hah-ree-kaw-ah", none, none⟩,
  ⟨"adj_mauiui", "māuiui", "sick/unwell", .adjective, .lightBlue, 2, "mar-oo-wee", none, none⟩,
  ⟨"adj_ngenge", "ngenge", "tired", .adjective, .lightBlue, 2, "nge-nge", none, none⟩,
  ⟨"adj_pouri", "pōuri", "sad", .adjective, .lightBlue, 2, "paw-oo-ree", none, none⟩,
  ⟨"adj_riri", "riri", "angry", .adjective, .lightBlue, 2, "ree-ree", none, none⟩,
  ⟨"adj_ora", "ora", "well/alive/healthy", .adjective, .lightBlue, 2, "aw-rah",
    none, some "Ora has deep meaning - wellness, life force, health"⟩,
  ⟨"adj_hiamoe", "hiamoe", "sleepy", .adjective, .lightBlue, 2, "hee-ah-maw-eh", none, none⟩,
  ⟨"adj_matekai", "matekai", "hungry", .adjective, .lightBlue, 2, "mah-teh-kai", none, none⟩,
  ⟨"adj_hiainu", "hiainu", "thirsty", .adjective, .lightBlue, 2, "hee-ah-ee-noo", none, none⟩,
  ⟨"v_haere", "haere", "go", .verb, .green, 2, "high-reh",
    none, some "Common in greetings: \"Haere mai\" (welcome/come here)"⟩,
  ⟨"v_kai", "kai", "eat/food", .verb, .green, 2, "kai (like \"kite\")",
    some "To eat (verb) or food (noun)", none⟩,
  ⟨"v_noho", "noho", "sit/live/stay", .verb, .green, 2, "naw-haw", none, none⟩,
  ⟨"v_oma", "oma", "run", .verb, .green, 2, "aw-mah", none, none⟩,
  ⟨"v_mahi", "mahi", "work/do", .verb, .green, 2, "mah-hee", none, none⟩,
  ⟨"v_ako", "ako", "learn/teach", .verb, .green, 2, "ah-kaw",
    none, some "Learning and teaching are intertwined in Māori worldview"⟩,
  ⟨"v_mahaki", "māhaki", "rest", .verb, .green, 2, "mar-hah-kee", none, none⟩,
  ⟨"pl_i", "i", "at/in (locative)", .locative, .brown, 2, "ee",
    some "Indicates location or object", none⟩,
  ⟨"pl_ki", "ki", "to/towards (directional)", .locative, .brown, 2, "kee",
    some "Indicates direction/destination", none⟩,
  ⟨"int_ahua", "āhua", "somewhat/rather", .intensifier, .pink, 2, "ar-hoo-ah", none, none⟩,
  ⟨"int_tino", "tino", "very", .intensifier, .pink, 2, "tee-naw", none, none⟩,
  ⟨"n_kura", "kura", "school", .noun, .blue, 2, "koo-rah", none, none⟩,
  ⟨"n_tamaki", "Tāmaki Makaurau", "Auckland", .noun, .blue, 2, "tar-mah-kee mah-kow-row",
    none, some "Traditional Māori name for Auckland"⟩,
  ⟨"pr_matou", "mātou", "we/us (exclusive)", .pronoun, .red, 2, "mar-toh",
    some "Does NOT include the listener", none⟩,
  ⟨"pr_tatou", "tātou", "we/us (inclusive)", .pronoun, .red, 2, "tar-toh",
    some "INCLUDES the listener", none⟩,
  ⟨"pr_koutou", "koutou", "you (plural)", .pronoun, .red, 2, "koh-toh", none, none⟩,
  ⟨"pr_ratou", "rātou", "they/them", .pronoun, .red, 2, "rar-toh", none, none⟩]

/-- Words for saying what happened and what will happen. -/
def pastAndFuture : List Word := [
  ⟨"tm_i", "I", "past tense marker", .tenseMarker, .yellow, 3, "ee",
    some "Marks a completed action or past state", none⟩,
  ⟨"tm_ka", "Ka", "future tense marker", .tenseMarker, .yellow, 3, "kah",
    some "Marks an action that will happen", none⟩,
  ⟨"tw_inanahi", "inanahi", "yesterday", .timeWord, .teal, 3, "ee-nah-nah-hee", none, none⟩,
  ⟨"tw_apopo", "āpōpō", "tomorrow", .timeWord, .teal, 3, "ar-paw-paw", none, none⟩,
  ⟨"tw_inaianei", "ināianei", "now", .timeWord, .teal, 3, "ee-nar-ee-ah-nay", none, none⟩]

/-- Every word of the standard vocabulary. -/
def standard : List Word := identifying ++ present ++ pastAndFuture

end SentenceCards.Vocabulary
