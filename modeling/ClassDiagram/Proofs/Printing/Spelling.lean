import ClassDiagram.Proofs.Printing.Canonical
import ClassDiagram.Proofs.Reading.Angles
import ClassDiagram.Proofs.Source.PlainText

/-!
# Spelling parts of a text

A part of a printed text is spelled by its tokens if it is cut into them
wherever it stands, as long as nothing goes on with its last identifier.  The
parts of names, lists and modifiers are put together from smaller ones.
-/

namespace ClassDiagram

open Source (Token Lexeme Spelled EndsIdentifier isBlankText
  isBlankText_empty isBlankText_space)

/-! ## Names are identifiers -/

theorem Text.isIdentifierStart_of_isAlpha {c : Char}
    (letter : c.isAlpha = true) : Text.isIdentifierStart c = true := by
  rw [Text.isIdentifierStart, Bool.or_eq_true]
  right
  rw [Text.inRanges_iff]
  delta Char.isAlpha Char.isUpper Char.isLower at letter
  simp only [Bool.or_eq_true, Bool.and_eq_true, decide_eq_true_eq,
    UInt32.le_iff_toNat_le, ge_iff_le] at letter
  rcases letter with ⟨lower, upper⟩ | ⟨lower, upper⟩
  · exact ⟨(0x41, 0x5A), by decide +kernel, lower, upper⟩
  · exact ⟨(0x61, 0x7A), by decide +kernel, lower, upper⟩

theorem Text.isIdentifierPart_of_isAlphanum {c : Char}
    (plain : (c.isAlphanum || c == '_') = true) :
    Text.isIdentifierPart c = true := by
  simp only [Bool.or_eq_true, beq_iff_eq, Char.isAlphanum] at plain
  rcases plain with (letter | digit) | rfl
  · have start := Text.isIdentifierStart_of_isAlpha letter
    rw [Text.isIdentifierStart, Bool.or_eq_true] at start
    rw [Text.isIdentifierPart, Bool.or_eq_true]
    rcases start with underscore | listed
    · rw [beq_iff_eq.1 underscore] at letter
      cases letter
    · exact .inl listed
  · simp only [Char.isDigit, Bool.and_eq_true, decide_eq_true_eq,
      UInt32.le_iff_toNat_le, ge_iff_le] at digit
    rw [Text.isIdentifierPart, Bool.or_eq_true]
    right
    rw [Text.inRanges_iff]
    exact ⟨(0x30, 0x39), by decide +kernel, digit.1, digit.2⟩
  · decide +kernel

theorem isIdentifier_of_isAsciiIdentifier {text : List Char}
    (named : isAsciiIdentifier text = true) :
    Text.isIdentifier text = true := by
  cases text with
  | nil =>
      cases named
  | cons first others =>
      simp only [isAsciiIdentifier, Bool.and_eq_true, List.all_eq_true]
        at named
      obtain ⟨start, parts⟩ := named
      rw [Text.isIdentifier, Bool.and_eq_true, List.all_eq_true]
      refine ⟨?_, fun c member =>
        Text.isIdentifierPart_of_isAlphanum (parts c member)⟩
      rw [Bool.or_eq_true] at start
      rcases start with letter | underscore
      · exact Text.isIdentifierStart_of_isAlpha letter
      · rw [beq_iff_eq.1 underscore]
        decide

theorem isIdentifier_of_isPlainName {text : String}
    (named : isPlainName text = true) :
    Text.isIdentifier text.toList = true := by
  rw [isPlainName, Bool.and_eq_true] at named
  exact isIdentifier_of_isAsciiIdentifier named.1

theorem not_mem_reservedWords {text : String}
    (named : isPlainName text = true) : text ∉ reservedWords := by
  rw [isPlainName, Bool.and_eq_true] at named
  simpa using named.2

/-- A plain name is none of the words in a list of reserved ones. -/
theorem ne_of_isPlainName {text : String}
    (named : isPlainName text = true) (word : String)
    (reserved : word ∈ reservedWords) :
    text ≠ word := by
  rintro rfl
  exact not_mem_reservedWords named reserved

/-! ## Spelling a part of a text -/

/-- The tokens are written as the text behind the spacing, whatever follows
that does not go on with an identifier. -/
structure Spells (lead : String) (tokens : List Token) (text : String) :
    Prop where
  before : ∀ {later : List Token} {rest : List Char},
    Spelled later rest → EndsIdentifier rest →
      Spelled (tokens ++ later) (lead.toList ++ (text.toList ++ rest))

theorem endsIdentifier_mark {c : Char} (rest : List Char)
    (noPart : Text.isIdentifierPart c = false) :
    EndsIdentifier (c :: rest) := by
  simpa [EndsIdentifier] using noPart

/-- Tokens in a row that begin behind spacing are written as their text. -/
theorem Spells.verbatim {lead text : String} {first : Lexeme}
    {others : List Token}
    (spells : Spells lead (⟨lead, first⟩ :: others) text) :
    Token.verbatim (⟨lead, first⟩ :: others) = text := by
  have written := (spells.before .done (by simp [EndsIdentifier])).writtenAll_eq
  rw [List.append_nil, List.append_nil] at written
  rw [Token.writtenAll, List.flatMap_cons, Token.written,
    List.append_assoc] at written
  have same := List.append_cancel_left written
  apply String.toList_inj.1
  rw [← same]
  exact Token.toList_verbatim_cons ⟨lead, first⟩ others

/-- The tokens spell a text that no identifier in front goes on with. -/
structure SpellsBehindName (tokens : List Token) (text : String) : Prop where
  spells : Spells "" tokens text
  ends : ∀ rest : List Char,
    EndsIdentifier rest → EndsIdentifier (text.toList ++ rest)

theorem spells_empty : Spells "" [] "" :=
  ⟨fun spelled _ => spelled⟩

theorem spellsBehindName_empty : SpellsBehindName [] "" :=
  ⟨spells_empty, fun _ ended => ended⟩

theorem Spells.append {lead text behind : String}
    {tokens later : List Token} (spells : Spells lead tokens text)
    (further : SpellsBehindName later behind) :
    Spells lead (tokens ++ later) (text ++ behind) := by
  refine ⟨fun {more rest} spelled ended => ?_⟩
  have whole := spells.before (further.spells.before spelled ended)
    (further.ends rest ended)
  rw [List.append_assoc, String.toList_append, List.append_assoc]
  exact whole

theorem SpellsBehindName.append {text behind : String}
    {tokens later : List Token} (spells : SpellsBehindName tokens text)
    (further : SpellsBehindName later behind) :
    SpellsBehindName (tokens ++ later) (text ++ behind) := by
  refine ⟨spells.spells.append further, ?_⟩
  intro rest ended
  rw [String.toList_append, List.append_assoc]
  exact spells.ends _ (further.ends rest ended)

theorem spells_word {lead text : String} (blank : isBlankText lead = true)
    (named : Text.isIdentifier text.toList = true) :
    Spells lead [⟨lead, .word text⟩] text :=
  ⟨fun spelled ended => .word blank named ended spelled⟩

/-- A mark is spelled wherever it stands, and so is a text in front of it. -/
theorem spellsBehindName_mark {c : Char}
    (plain : Source.isPlainSign c = true) {text : String}
    {tokens : List Token} (spells : Spells "" tokens text) :
    SpellsBehindName (⟨"", .mark c⟩ :: tokens)
      (String.singleton c ++ text) := by
  constructor
  · refine ⟨fun {later rest} spelled ended => ?_⟩
    have others := spells.before spelled ended
    rw [String.toList_append, String.toList_singleton]
    exact .mark isBlankText_empty
      (Source.isPlainMark_of_isPlainSign plain) others
  · intro rest _
    rw [String.toList_append, String.toList_singleton]
    exact Source.endsIdentifier_sign (Bool.and_eq_true_iff.1 plain).1 _

/-- Spacing that is not empty separates a text from whatever is in front. -/
theorem spellsBehindName_of_lead {lead text : String} {tokens : List Token}
    (separates : ∀ rest : List Char, EndsIdentifier (lead.toList ++ rest))
    (spells : Spells lead tokens text) :
    SpellsBehindName tokens (lead ++ text) := by
  constructor
  · refine ⟨fun {later rest} spelled ended => ?_⟩
    have whole := spells.before spelled ended
    rw [String.toList_append, List.append_assoc]
    exact whole
  · intro rest _
    rw [String.toList_append, List.append_assoc]
    exact separates _

theorem spellsBehindName_blank {text : String} {tokens : List Token}
    (spells : Spells " " tokens text) :
    SpellsBehindName tokens (" " ++ text) :=
  spellsBehindName_of_lead (Source.endsIdentifier_sign (by decide)) spells

theorem Spells.comma {lead item text : String} {tokens later : List Token}
    (spells : Spells lead tokens item) (further : Spells " " later text) :
    Spells lead (tokens ++ ⟨"", .mark ','⟩ :: later)
      (item ++ ", " ++ text) := by
  have behind := spellsBehindName_mark (c := ',') (by decide)
    (spellsBehindName_blank further).spells
  rw [← String.append_assoc] at behind
  rw [String.append_assoc]
  exact spells.append behind

theorem commaText_cons_cons (item next : String) (others : List String) :
    commaText (item :: next :: others) =
      item ++ ", " ++ commaText (next :: others) :=
  String.intercalate_cons_cons

/-- A list of texts with commas between them is spelled if its items are. -/
theorem exists_commaTokens {items : List String} {lead : String}
    (some : items ≠ []) (blank : isBlankText lead = true)
    (each : ∀ item ∈ items, ∀ lead : String, isBlankText lead = true →
      ∃ tokens, Spells lead tokens item ∧ Reading.PassesAngles tokens) :
    ∃ tokens, Spells lead tokens (commaText items) ∧
      Reading.PassesAngles tokens := by
  induction items generalizing lead with
  | nil =>
      exact absurd rfl some
  | cons item others inductionHypothesis =>
      obtain ⟨first, firstSpells, firstPasses⟩ :=
        each item List.mem_cons_self lead blank
      cases others with
      | nil =>
          exact ⟨first, by simpa [commaText] using firstSpells, firstPasses⟩
      | cons next others =>
          obtain ⟨later, laterSpells, laterPasses⟩ :=
            inductionHypothesis (List.cons_ne_nil _ _) isBlankText_space
              fun item member =>
                each item (List.mem_cons_of_mem _ member)
          have commaPasses := Reading.passesAngles_mark "" (c := ',')
            (by decide) (by decide)
          refine ⟨first ++ ⟨"", .mark ','⟩ :: later, ?_,
            firstPasses.append (commaPasses.cons laterPasses)⟩
          rw [commaText_cons_cons]
          exact firstSpells.comma laterSpells

/-- A list in angle brackets is spelled behind a name if its items are
spelled. -/
theorem exists_angleTokens {items : List String} (some : items ≠ [])
    (each : ∀ item ∈ items, ∀ lead : String, isBlankText lead = true →
      ∃ tokens, Spells lead tokens item ∧ Reading.PassesAngles tokens) :
    ∃ inner, Reading.PassesAngles inner ∧
      SpellsBehindName (⟨"", .mark '<'⟩ :: (inner ++ [⟨"", .mark '>'⟩]))
        (angleText items) := by
  obtain ⟨inner, innerSpells, innerPasses⟩ :=
    exists_commaTokens some isBlankText_empty each
  refine ⟨inner, innerPasses, ?_⟩
  have closing := spellsBehindName_mark (c := '>') (by decide)
    spells_empty
  have group := spellsBehindName_mark (c := '<') (by decide)
    (innerSpells.append closing)
  rw [angleText, if_neg some, String.append_assoc]
  exact group

theorem exists_angleGroup (items : List String)
    (each : ∀ item ∈ items, ∀ lead : String, isBlankText lead = true →
      ∃ tokens, Spells lead tokens item ∧ Reading.PassesAngles tokens) :
    ∃ group, SpellsBehindName group (angleText items) ∧
      Reading.IsAngleGroup group := by
  by_cases absent : items = []
  · refine ⟨[], ?_, .absent⟩
    rw [angleText, if_pos absent]
    exact spellsBehindName_empty
  · obtain ⟨inner, innerPasses, groupSpells⟩ :=
      exists_angleTokens absent each
    exact ⟨_, groupSpells, .present innerPasses⟩

end ClassDiagram
