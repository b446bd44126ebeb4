import ClassDiagram.Proofs.Source.PlainText

/-!
# Texts of names

Whatever is written for a name is free of the signs that give a diagram its
lines and packages: newlines, braces and angle brackets that close.  It holds
for every word that a text is cut into, since the scanner of words takes no
such character.
-/

namespace ClassDiagram

def lineSigns : List Char :=
  ['\n', '>', '\x7b', '\x7d']

def IsNameText (text : String) : Prop :=
  ∀ sign ∈ lineSigns, sign ∉ text.toList

instance (text : String) : Decidable (IsNameText text) :=
  List.decidableBAll _ lineSigns

namespace IsNameText

theorem append {left right : String} (leftNamed : IsNameText left)
    (rightNamed : IsNameText right) : IsNameText (left ++ right) := by
  intro sign listed member
  rw [String.toList_append] at member
  rcases List.mem_append.1 member with inLeft | inRight
  · exact leftNamed sign listed inLeft
  · exact rightNamed sign listed inRight

theorem one_line {text : String} (named : IsNameText text) :
    '\n' ∉ text.toList :=
  named '\n' (by decide)

/-- Whatever occurs in a name makes up a name. -/
theorem of_subset {text : String} {part : List Char}
    (named : IsNameText text) (included : part ⊆ text.toList) :
    IsNameText (String.ofList part) := by
  intro sign listed member
  rw [String.toList_ofList] at member
  exact named sign listed (included member)

end IsNameText

namespace Source

/-! ## Characters that a scanner never takes -/

namespace Scanner

/-- No portion that the scanner takes holds this character. -/
def Avoids (scanner : Scanner) (c : Char) : Prop :=
  ∀ text portion, (scanner.run text).portion? = some portion →
    c ∉ portion.taken

theorem avoids_done (c : Char) : done.Avoids c := by
  intro text portion accepted
  cases accepted
  exact List.not_mem_nil

theorem avoids_one {accepts : Char → Bool} {c : Char}
    (refused : accepts c = false) : (one accepts).Avoids c := by
  intro text portion accepted
  cases text with
  | nil =>
      cases accepted
  | cons d rest =>
      simp only [one, runOne] at accepted
      split at accepted
      · rename_i isAccepted
        cases accepted
        rw [List.mem_singleton]
        rintro rfl
        rw [refused] at isAccepted
        cases isAccepted
      · cases accepted

theorem Avoids.andThen {first next : Scanner} {c : Char}
    (firstAvoids : first.Avoids c) (nextAvoids : next.Avoids c) :
    (first.andThen next).Avoids c := by
  intro text portion accepted
  rw [portion?_andThen] at accepted
  obtain ⟨initial, initialRead, later⟩ := Option.bind_eq_some_iff.1 accepted
  obtain ⟨further, furtherRead, rfl⟩ := Option.map_eq_some_iff.1 later
  rw [List.mem_append, not_or]
  exact ⟨firstAvoids _ _ initialRead, nextAvoids _ _ furtherRead⟩

theorem Avoids.either {first other : Scanner} {c : Char}
    (firstAvoids : first.Avoids c) (otherAvoids : other.Avoids c) :
    (first.either other).Avoids c := by
  intro text portion accepted
  rw [portion?_either] at accepted
  rcases Option.or_eq_some_iff.1 accepted with byFirst | ⟨_, byOther⟩
  · exact firstAvoids _ _ byFirst
  · exact otherAvoids _ _ byOther

theorem avoids_inOrder {parts : List Scanner} {c : Char}
    (avoid : ∀ scanner ∈ parts, scanner.Avoids c) :
    (inOrder parts).Avoids c := by
  induction parts with
  | nil =>
      exact avoids_done c
  | cons first others inductionHypothesis =>
      obtain ⟨here, later⟩ := List.forall_mem_cons.1 avoid
      exact here.andThen (inductionHypothesis later)

theorem Avoids.many {item : Scanner} {c : Char} (avoids : item.Avoids c) :
    item.many.Avoids c := by
  intro text portion accepted
  rw [portion?_many] at accepted
  cases accepted
  fun_induction repeated item text with
  | case1 | case2 =>
      exact List.not_mem_nil
  | case3 text portion accepted something later inductionHypothesis =>
      rw [List.mem_append, not_or]
      exact ⟨avoids _ _ accepted, inductionHypothesis⟩

end Scanner

open Scanner

/-! ## Words -/

/-- A word that is not empty and has the text of a name. -/
def IsNameWord (text : String) : Prop :=
  text ≠ "" ∧ IsNameText text

def WordsAreNames (tokens : List Token) : Prop :=
  ∀ token ∈ tokens, ∀ text, token.lexeme = .word text → IsNameWord text

/-- Signs are in no word, but for the one that may stand in front. -/
theorem avoids_identifier {sign : Char} (notAt : (sign == '@') = false)
    (listed : Text.isSign sign = true) : identifier.Avoids sign := by
  apply avoids_inOrder
  intro scanner member
  simp only [List.mem_cons, List.not_mem_nil, or_false] at member
  rcases member with rfl | rfl | rfl
  · have avoidsAt : (char '@').Avoids sign := avoids_one notAt
    exact avoidsAt.either (avoids_done sign)
  · exact avoids_one (Text.isIdentifierStart_eq_false_of_isSign listed)
  · exact (avoids_one
      (Text.isIdentifierPart_eq_false_of_isSign listed)).many

theorem avoids_identifier_of_lineSign {sign : Char}
    (listed : sign ∈ lineSigns) : identifier.Avoids sign := by
  have foreign : ∀ sign ∈ lineSigns,
      (!(sign == '@') && Text.isSign sign) = true :=
    List.all_eq_true.1 (by decide)
  have atSign := foreign sign listed
  rw [Bool.and_eq_true, Bool.not_eq_true'] at atSign
  exact avoids_identifier atSign.1 atSign.2

/-- A lexeme is made by one of the forms from what its scanner took. -/
theorem exists_form_of_readLexeme {forms : List TokenForm}
    {text : List Char} {found : LexemeRead}
    (accepted : (readLexeme forms text).found? = some found) :
    ∃ form ∈ forms,
      (form.scanner.run text).portion? = some found.portion ∧
        found.lexeme = form.lexeme found.portion.taken := by
  induction forms with
  | nil =>
      cases accepted
  | cons form others inductionHypothesis =>
      cases here : (form.scanner.run text).portion? with
      | none =>
          rw [readLexeme_cons_of_refused here] at accepted
          obtain ⟨other, member, made⟩ := inductionHypothesis accepted
          exact ⟨other, List.mem_cons_of_mem form member, made⟩
      | some portion =>
          rw [readLexeme_cons_of_accepted here] at accepted
          cases accepted
          exact ⟨form, List.mem_cons_self, here, rfl⟩

/-- A word is what the scanner of identifiers took. -/
theorem identifier_of_readLexeme {text : List Char} {found : LexemeRead}
    {word : String}
    (accepted : (readLexeme tokenForms text).found? = some found)
    (isWord : found.lexeme = .word word) :
    (identifier.run text).portion? = some found.portion ∧
      word = String.ofList found.portion.taken := by
  obtain ⟨form, member, taken, made⟩ := exists_form_of_readLexeme accepted
  rw [isWord] at made
  simp only [tokenForms, List.mem_cons, List.not_mem_nil, or_false]
    at member
  rcases member with rfl | rfl | rfl | rfl | rfl
  case inr.inr.inr.inl =>
    cases made
    exact ⟨taken, rfl⟩
  all_goals
    cases made

/-- What holds of whatever the scanner of identifiers takes holds of every
word of a text. -/
theorem forall_words_of_tokenizeFrom {P : String → Prop}
    (taken : ∀ text portion, (identifier.run text).portion? = some portion →
      portion.taken ≠ [] → P (String.ofList portion.taken))
    {text : List Char} {source : Tokenized}
    (tokenized : tokenizeFrom text = .ok source) :
    ∀ token ∈ source.tokens, ∀ word, token.lexeme = .word word →
      P word := by
  fun_induction tokenizeFrom text generalizing source with
  | case1 =>
      cases tokenized
      exact nofun
  | case2 | case3 | case5 =>
      cases tokenized
  | case4 text gap before unfinished attempt found accepted something
      later laterTokenized =>
      rename_i inductionHypothesis
      cases tokenized
      have others := inductionHypothesis laterTokenized
      intro token member word isWord
      rcases List.mem_cons.1 member with rfl | earlier
      · obtain ⟨wordTaken, rfl⟩ := identifier_of_readLexeme accepted isWord
        exact taken _ _ wordTaken something
      · exact others token earlier word isWord

theorem tokenizeFrom_of_tokenize {text : String} {source : Tokenized}
    (tokenized : tokenize text = .ok source) :
    tokenizeFrom text.toList = .ok source := by
  unfold tokenize at tokenized
  split at tokenized
  · rename_i found tokenizedFrom
    cases tokenized
    exact tokenizedFrom
  · cases tokenized

/-- Every word of a text is a name. -/
theorem wordsAreNames_of_tokenize {text : String} {source : Tokenized}
    (tokenized : tokenize text = .ok source) :
    WordsAreNames source.tokens := by
  refine forall_words_of_tokenizeFrom (P := IsNameWord) ?_
    (tokenizeFrom_of_tokenize tokenized)
  intro text portion taken something
  refine ⟨fun empty => something (String.ofList_eq_empty_iff.1 empty), ?_⟩
  intro sign listed
  rw [String.toList_ofList]
  exact avoids_identifier_of_lineSign listed _ _ taken

end Source

end ClassDiagram
