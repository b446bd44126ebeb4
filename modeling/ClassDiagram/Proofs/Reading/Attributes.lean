import ClassDiagram.Proofs.Reading.LocalSteps
import ClassDiagram.Proofs.Reading.Placement

/-!
# Attributes in front of declarations

An attribute section in front of a type, an enumeration, a method or anything
else that is read as a member leaves the outline as it is.

A namespace is recognised before attributes are skipped.  With an attribute
in front it is no namespace but a member without an entry, and the outline
goes on behind what is skipped of it.
-/

namespace ClassDiagram.Reading

open Source (Token Lexeme)

/-! ## Attribute sections -/

/-- A pair of brackets with nested tokens between them. -/
inductive IsAttributeSection : List Token → Prop
  | brackets {opening closing : Token} {inner : List Token}
      (opens : opening.isMark '[' = true)
      (closes : closing.isMark ']' = true)
      (nested : Nested inner) :
      IsAttributeSection (opening :: (inner ++ [closing]))

def AreAttributeSections (tokens : List Token) : Prop :=
  ∃ sections : List (List Token), tokens = sections.flatten ∧
    ∀ tokens ∈ sections, IsAttributeSection tokens

theorem IsAttributeSection.skipAttributes_eq {attributes : List Token}
    (isSection : IsAttributeSection attributes) (rest : List Token) :
    skipAttributes (attributes ++ rest) = skipAttributes rest := by
  cases isSection with
  | @brackets opening closing inner opens closes nested =>
      have isClosing : closing? closing = some ']' := by
        simp only [Token.isMark, beq_iff_eq] at closes
        simp [closing?, closes, isClosingMark]
      have skipped := nested.skipGroup_eq isClosing rest
      rw [List.cons_append, List.append_assoc, List.singleton_append]
      exact skipAttributes_section opens skipped

theorem IsAttributeSection.exists_bracket {attributes : List Token}
    (isSection : IsAttributeSection attributes) :
    ∃ opening rest, attributes = opening :: rest ∧
      opening.isMark '[' = true := by
  cases isSection with
  | brackets opens closes nested =>
      exact ⟨_, _, rfl, opens⟩

theorem AreAttributeSections.skipAttributes_eq {existing : List Token}
    (sections : AreAttributeSections existing) (rest : List Token) :
    skipAttributes (existing ++ rest) = skipAttributes rest := by
  obtain ⟨sections, rfl, each⟩ := sections
  induction sections with
  | nil =>
      rfl
  | cons first others inductionHypothesis =>
      have firstSection := each first List.mem_cons_self
      have further := inductionHypothesis fun tokens member =>
        each tokens (List.mem_cons_of_mem first member)
      rw [List.flatten_cons, List.append_assoc,
        firstSection.skipAttributes_eq]
      exact further

theorem AreAttributeSections.exists_bracket {existing : List Token}
    (sections : AreAttributeSections existing) (some : existing ≠ []) :
    ∃ opening rest, existing = opening :: rest ∧
      opening.isMark '[' = true := by
  obtain ⟨sections, rfl, each⟩ := sections
  cases sections with
  | nil =>
      exact absurd rfl some
  | cons first others =>
      obtain ⟨opening, rest, rfl, opens⟩ :=
        (each first List.mem_cons_self).exists_bracket
      exact ⟨opening, rest ++ others.flatten, rfl, opens⟩

/-! ## Trivia in front of a member -/

section Respaced

variable {lead newLead : String} {lexeme : Lexeme} {rest : List Token}

theorem skipMember_respaced
    (inside : Token.isMark ⟨lead, lexeme⟩ '\x7d' = false) :
    skipMember (⟨lead, lexeme⟩ :: rest) =
      skipMember (⟨newLead, lexeme⟩ :: rest) := by
  have newInside : Token.isMark ⟨newLead, lexeme⟩ '\x7d' = false := inside
  rw [skipMember, skipMember, inside, newInside]
  rfl

theorem skipType?_respaced :
    skipType? (⟨lead, lexeme⟩ :: rest) =
      skipType? (⟨newLead, lexeme⟩ :: rest) := by
  rw [skipType?_eq, skipType?_eq, skipReferenceWords, skipReferenceWords]
  cases isRef : Token.isWord ⟨lead, lexeme⟩ "ref" with
  | true =>
      have newRef : Token.isWord ⟨newLead, lexeme⟩ "ref" = true := isRef
      rw [newRef]
      rfl
  | false =>
      have newRef : Token.isWord ⟨newLead, lexeme⟩ "ref" = false := isRef
      rw [newRef]
      rfl

/-- The verbatim text of tokens begins with the first lexeme. -/
theorem verbatim_taken_respaced (behind : List Token) :
    Token.verbatim (taken (⟨lead, lexeme⟩ :: rest) behind) =
      Token.verbatim (taken (⟨newLead, lexeme⟩ :: rest) behind) := by
  unfold taken
  rw [List.length_cons, List.length_cons]
  cases rest.length + 1 - behind.length <;> rfl

theorem readMethod_respaced {enclosing : Option String}
    {modifiers : List Modifier}
    (inside : Token.isMark ⟨lead, lexeme⟩ '\x7d' = false) :
    readMethod enclosing modifiers (⟨lead, lexeme⟩ :: rest) =
      readMethod enclosing modifiers (⟨newLead, lexeme⟩ :: rest) := by
  have leftOut : ∀ {α : Type}, @leaveOut α (⟨lead, lexeme⟩ :: rest) =
      leaveOut (⟨newLead, lexeme⟩ :: rest) := by
    intro α
    rw [leaveOut, leaveOut, skipMember_respaced inside]
  cases constructed : isConstructor enclosing (⟨lead, lexeme⟩ :: rest) with
  | true =>
      have newConstructed :
          isConstructor enclosing (⟨newLead, lexeme⟩ :: rest) = true :=
        constructed
      rw [readMethod_of_constructor constructed,
        readMethod_of_constructor newConstructed]
      exact leftOut
  | false =>
      have newConstructed :
          isConstructor enclosing (⟨newLead, lexeme⟩ :: rest) = false :=
        constructed
      cases typed : skipType? (⟨lead, lexeme⟩ :: rest) with
      | error refusal =>
          have newTyped := typed
          rw [skipType?_respaced] at newTyped
          rw [readMethod, readMethod, constructed, newConstructed, typed,
            newTyped]
          rfl
      | ok found =>
          have newTyped := typed
          rw [skipType?_respaced] at newTyped
          cases found with
          | none =>
              rw [readMethod_of_noType constructed typed,
                readMethod_of_noType newConstructed newTyped]
              exact leftOut
          | some behind =>
              rw [readMethod_eq constructed typed,
                readMethod_eq newConstructed newTyped,
                verbatim_taken_respaced]

theorem readModified_respaced {enclosing : Option String}
    {modifiers : List Modifier}
    (inside : Token.isMark ⟨lead, lexeme⟩ '\x7d' = false) :
    readModified enclosing modifiers (⟨lead, lexeme⟩ :: rest) =
      readModified enclosing modifiers (⟨newLead, lexeme⟩ :: rest) := by
  have newInside : Token.isMark ⟨newLead, lexeme⟩ '\x7d' = false := inside
  rw [readModified, readModified, inside, newInside,
    readMethod_respaced inside]
  rfl

/-- Trivia in front of a member makes no difference. -/
theorem readMember_respaced {enclosing : Option String}
    (inside : Token.isMark ⟨lead, lexeme⟩ '\x7d' = false) :
    readMember enclosing (⟨lead, lexeme⟩ :: rest) =
      readMember enclosing (⟨newLead, lexeme⟩ :: rest) := by
  rw [readMember, readMember]
  cases opens : Token.isMark ⟨lead, lexeme⟩ '[' with
  | true =>
      have newOpens : Token.isMark ⟨newLead, lexeme⟩ '[' = true := opens
      rw [skipAttributes, skipAttributes, opens, newOpens]
      rfl
  | false =>
      have noAttributes : skipAttributes (⟨lead, lexeme⟩ :: rest) =
          .ok (⟨lead, lexeme⟩ :: rest) := skipAttributes_none opens
      have newNoAttributes : skipAttributes (⟨newLead, lexeme⟩ :: rest) =
          .ok (⟨newLead, lexeme⟩ :: rest) := skipAttributes_none opens
      rw [noAttributes, newNoAttributes]
      cases found : nextModifier? (⟨lead, lexeme⟩ :: rest) with
      | none =>
          have newFound : nextModifier? (⟨newLead, lexeme⟩ :: rest) = none :=
            found
          simp only [readModifiers_none found, readModifiers_none newFound]
          exact readModified_respaced inside
      | some modifier =>
          have newFound : nextModifier? (⟨newLead, lexeme⟩ :: rest) =
              some modifier := found
          simp only [readModifiers_some found, readModifiers_some newFound]

end Respaced

/-! ## Attributes in front of a member -/

def readsMember (frames : Frames) : List Token → Bool
  | [] => false
  | token :: _ =>
      !(token.isMark '\x7d' || token.isMark ';' ||
        (token.isWord "namespace" && !insideType frames))

/-- Attributes begin a member wherever they stand. -/
theorem readsMember_of_bracket {opening : Token}
    (opens : opening.isMark '[' = true) (frames : Frames)
    (rest : List Token) : readsMember frames (opening :: rest) = true := by
  have noWord : opening.isWord "namespace" = false := by
    simp only [Token.isMark, beq_iff_eq] at opens
    simp [Token.isWord, opens]
  simp [readsMember, isMark_unique opens, noWord]

theorem readFrom_of_readsMember {frames : Frames} {tokens : List Token}
    (reads : readsMember frames tokens = true)
    (members : List Declaration) :
    readFrom frames members tokens =
      match readMember (enclosingType frames) tokens with
      | .error refusal => .error refusal
      | .ok (member, behind) =>
          (ReaderState.behindMember ⟨frames, members, behind⟩
            member).outline := by
  cases tokens with
  | nil =>
      cases reads
  | cons token rest =>
      simp only [readsMember, Bool.not_eq_true', Bool.or_eq_false_iff]
        at reads
      obtain ⟨⟨inside, noSeparator⟩, noScope⟩ := reads
      rw [readFrom.eq_def]
      simp only [inside, noSeparator, noScope, Bool.false_eq_true, if_false]
      split <;> rename_i answer <;> rw [answer] <;> rfl

/-- No declaration begins with the end of a body, a separator or an
initializer. -/
structure MayBeginMember (token : Token) : Prop where
  inside : token.isMark '\x7d' = false
  noSeparator : token.isMark ';' = false
  noValue : token.isMark '=' = false

/-- A namespace behind attributes is skipped as a member without an
entry. -/
theorem readMember_of_scopeWord {token : Token}
    (scopeWord : token.isWord "namespace" = true)
    (enclosing : Option String) (rest : List Token) :
    readMember enclosing (token :: rest) =
      (skipMember rest).map fun behind => (.leftOut, behind) := by
  obtain ⟨lead, lexeme⟩ := token
  simp only [Token.isWord, beq_iff_eq] at scopeWord
  subst scopeWord
  have skipped : skipMember (⟨lead, .word "namespace"⟩ :: rest) =
      skipMember rest := skipMember_neutral rfl rfl rfl
  rw [← skipped]
  exact readMember_of_noType rfl rfl rfl rfl rfl rfl enclosing

/-- Every member with an entry in the outline begins so. -/
theorem mayBeginMember_of_readMember {enclosing : Option String}
    {token : Token} {rest behind : List Token} {member : Member}
    (read : readMember enclosing (token :: rest) = .ok (member, behind))
    (entered : member ≠ .leftOut) : MayBeginMember token := by
  have notMark : ∀ c : Char, c = '\x7d' ∨ c = ';' ∨ c = '=' →
      token.isMark c = false := by
    intro c isOne
    by_contra isMark
    rw [Bool.not_eq_false, Token.isMark, beq_iff_eq] at isMark
    obtain ⟨lead, lexeme⟩ := token
    simp only at isMark
    subst isMark
    rcases isOne with rfl | others
    · have noAttributes : skipAttributes (⟨lead, .mark '\x7d'⟩ :: rest) =
          .ok (⟨lead, .mark '\x7d'⟩ :: rest) := skipAttributes_none rfl
      have noModifier : nextModifier? (⟨lead, .mark '\x7d'⟩ :: rest) =
          none := rfl
      have ended : atEnd (⟨lead, .mark '\x7d'⟩ :: rest) = true := rfl
      rw [readMember, noAttributes] at read
      simp only [readModifiers_none noModifier, readModified_ended ended]
        at read
      cases read
      exact entered rfl
    · rcases others with rfl | rfl
      all_goals
        rw [readMember_of_noType rfl rfl rfl rfl rfl rfl] at read
        obtain ⟨_, _, answer⟩ := exists_of_map_eq_ok read
        cases answer
        exact entered rfl
  exact ⟨notMark _ (by simp), notMark _ (by simp), notMark _ (by simp)⟩

/-- A place where the reader has come to a member, behind those attributes
of the member that are there already. -/
structure MemberPlace (tokens : List Token) where
  before : List Token
  existing : List Token
  first : Token
  after : List Token
  frames : Frames
  /-- The members of the innermost open body, latest first. -/
  members : List Declaration
  tokens_eq : tokens = before ++ (existing ++ first :: after)
  sections : AreAttributeSections existing
  reached : Run ⟨[], [], tokens⟩
    ⟨frames, members, existing ++ first :: after⟩
  begins : MayBeginMember first

namespace MemberPlace

variable {tokens attributes : List Token}

def attributed (place : MemberPlace tokens) (attributes : List Token)
    (lead : String) : List Token :=
  place.before ++ (place.existing ++
    (attributes ++ ⟨lead, place.first.lexeme⟩ :: place.after))

def beginsScope (place : MemberPlace tokens) : Bool :=
  place.existing.isEmpty && place.first.isWord "namespace" &&
    !insideType place.frames

theorem resumesAlike (place : MemberPlace tokens)
    (isSection : IsAttributeSection attributes) (lead : String) :
    ResumesAlike (place.existing ++ place.first :: place.after)
      (place.existing ++
        (attributes ++ ⟨lead, place.first.lexeme⟩ :: place.after)) := by
  have begins := place.begins
  obtain ⟨opening, rest, rfl, opens⟩ := isSection.exists_bracket
  apply ResumesAlike.append
  constructor
  · exact begins.inside.trans (isMark_unique opens (by decide)).symm
  · exact begins.noValue.trans (isMark_unique opens (by decide)).symm
  · exact begins.noSeparator.trans
      (isMark_unique opens (by decide)).symm

/-- The reader comes to the place also with further attributes there. -/
theorem readOutline_attributed (place : MemberPlace tokens)
    (isSection : IsAttributeSection attributes) (lead : String) :
    readOutline (place.attributed attributes lead) =
      readFrom place.frames place.members (place.existing ++
        (attributes ++ ⟨lead, place.first.lexeme⟩ :: place.after)) := by
  obtain ⟨consumed, consumedEq, again⟩ := place.reached.again
  have sameBefore : consumed = place.before := by
    have equal := consumedEq.symm.trans place.tokens_eq
    exact List.append_cancel_right equal
  subst sameBefore
  exact (again _ (place.resumesAlike isSection lead)).outline_eq

/-- Further attributes are no part of the member. -/
theorem readMember_attributed (place : MemberPlace tokens)
    (isSection : IsAttributeSection attributes) (lead : String)
    (enclosing : Option String) :
    readMember enclosing (place.existing ++
        (attributes ++ ⟨lead, place.first.lexeme⟩ :: place.after)) =
      readMember enclosing
        (place.existing ++ place.first :: place.after) := by
  have respaced := @readMember_respaced place.first.leading lead
    place.first.lexeme place.after enclosing place.begins.inside
  unfold readMember at respaced ⊢
  rw [place.sections.skipAttributes_eq, isSection.skipAttributes_eq,
    place.sections.skipAttributes_eq]
  exact respaced.symm

theorem readsMember_attributed (place : MemberPlace tokens)
    (isSection : IsAttributeSection attributes) (lead : String) :
    readsMember place.frames (place.existing ++
      (attributes ++ ⟨lead, place.first.lexeme⟩ :: place.after)) = true := by
  by_cases none : place.existing = []
  · obtain ⟨opening, rest, rfl, opens⟩ := isSection.exists_bracket
    rw [none]
    exact readsMember_of_bracket opens _ _
  · obtain ⟨opening, rest, equal, opens⟩ :=
      place.sections.exists_bracket none
    rw [equal]
    exact readsMember_of_bracket opens _ _

theorem readsMember_first (place : MemberPlace tokens)
    (noScope : place.beginsScope = false) :
    readsMember place.frames
      (place.existing ++ place.first :: place.after) = true := by
  by_cases none : place.existing = []
  · rw [beginsScope, none, List.isEmpty_nil, Bool.true_and] at noScope
    rw [none, List.nil_append, readsMember, place.begins.inside,
      place.begins.noSeparator, noScope]
    rfl
  · obtain ⟨opening, rest, equal, opens⟩ :=
      place.sections.exists_bracket none
    rw [equal]
    exact readsMember_of_bracket opens _ _

/-- Attributes in front of a member leave the outline as it is. -/
theorem readOutline_eq (place : MemberPlace tokens)
    (isSection : IsAttributeSection attributes) (lead : String)
    (noScope : place.beginsScope = false) :
    readOutline (place.attributed attributes lead) = readOutline tokens := by
  have original : readOutline tokens =
      readFrom place.frames place.members
        (place.existing ++ place.first :: place.after) :=
    place.reached.outline_eq
  rw [place.readOutline_attributed isSection, original,
    readFrom_of_readsMember (place.readsMember_first noScope),
    readFrom_of_readsMember (place.readsMember_attributed isSection lead),
    place.readMember_attributed isSection]

/-- The outline goes on behind the namespace, as if there was none. -/
theorem readOutline_of_scope (place : MemberPlace tokens)
    (isSection : IsAttributeSection attributes) (lead : String)
    (scope : place.beginsScope = true) :
    readOutline (place.attributed attributes lead) =
      match skipMember place.after with
      | .error refusal => .error refusal
      | .ok behind => readFrom place.frames place.members behind := by
  simp only [beginsScope, Bool.and_eq_true, List.isEmpty_iff] at scope
  obtain ⟨⟨none, scopeWord⟩, _⟩ := scope
  rw [place.readOutline_attributed isSection,
    readFrom_of_readsMember (place.readsMember_attributed isSection lead),
    place.readMember_attributed isSection, none, List.nil_append,
    readMember_of_scopeWord scopeWord]
  cases skipMember place.after <;> rfl

end MemberPlace

end ClassDiagram.Reading

namespace ClassDiagram

open Reading
open Source (Token Tokenized)

/-- Attributes change nothing in front of everything but a namespace.  With
attributes in front, a namespace is skipped. -/
theorem readSource_attributed {text attributedText : String}
    {source attributedSource : Tokenized} {outline : Outline}
    {attributes : List Token} {lead : String}
    (tokenized : Source.tokenize (Source.firstBranches text) = .ok source)
    (attributedTokenized :
      Source.tokenize (Source.firstBranches attributedText) =
        .ok attributedSource)
    (place : MemberPlace source.tokens)
    (isSection : IsAttributeSection attributes)
    (inserted : attributedSource.tokens = place.attributed attributes lead)
    (read : readSource text = .ok outline) :
    (place.beginsScope = false → readSource attributedText = .ok outline) ∧
      (place.beginsScope = true → ∀ remaining : Outline,
        readSource attributedText = .ok remaining ↔
          ∃ behind, skipMember place.after = .ok behind ∧
            readFrom place.frames place.members behind = .ok remaining) := by
  have readIff : ∀ {text : String} {source : Tokenized},
      Source.tokenize (Source.firstBranches text) = .ok source →
        ∀ outline, readSource text = .ok outline ↔
          readOutline source.tokens = .ok outline := by
    intro text source tokenized outline
    rw [readSource_ok_iff, tokenized]
    simp
  rw [readIff tokenized] at read
  constructor
  · intro noScope
    rw [readIff attributedTokenized, inserted,
      place.readOutline_eq isSection lead noScope]
    exact read
  · intro scope remaining
    rw [readIff attributedTokenized, inserted,
      place.readOutline_of_scope isSection lead scope]
    cases skipMember place.after <;> simp

def enumerationTokens : List Token :=
  [⟨"", .word "class"⟩, ⟨" ", .word "A"⟩, ⟨" ", .mark '\x7b'⟩,
    ⟨" ", .word "enum"⟩, ⟨" ", .word "E"⟩, ⟨" ", .mark '\x7b'⟩,
    ⟨" ", .mark '\x7d'⟩, ⟨" ", .mark '\x7d'⟩]

def enumerationPlace : MemberPlace enumerationTokens where
  before := enumerationTokens.take 3
  existing := []
  first := ⟨" ", .word "enum"⟩
  after := enumerationTokens.drop 4
  frames := [⟨.type ⟨.classWord, "A", none, []⟩, []⟩]
  members := []
  tokens_eq := rfl
  sections := ⟨[], rfl, nofun⟩
  reached :=
    .single (@Step.member _ _ _ _ _ (.opened ⟨.classWord, "A", none, []⟩)
      rfl rfl rfl (by decide +kernel))
  begins := ⟨rfl, rfl, rfl⟩

def scopeTokens : List Token :=
  [⟨"", .word "namespace"⟩, ⟨" ", .word "N"⟩, ⟨"", .mark ';'⟩,
    ⟨" ", .word "class"⟩, ⟨" ", .word "A"⟩, ⟨" ", .mark '\x7b'⟩,
    ⟨" ", .mark '\x7d'⟩]

def scopePlace : MemberPlace scopeTokens where
  before := []
  existing := []
  first := ⟨"", .word "namespace"⟩
  after := scopeTokens.drop 1
  frames := []
  members := []
  tokens_eq := rfl
  sections := ⟨[], rfl, nofun⟩
  reached := .refl
  begins := ⟨rfl, rfl, rfl⟩

theorem attributed_enumeration_and_scope_read :
    readSource "class A { [X] enum E { } }" =
        .ok [.type ⟨.classWord, "A", none, []⟩
          [.enumeration ⟨"E", [], []⟩]] ∧
      readSource "[X] namespace N; class A { }" =
        .ok [.type ⟨.classWord, "A", none, []⟩ []] := by
  have isSection (lead : String) : IsAttributeSection
      [⟨lead, .mark '['⟩, ⟨"", .word "X"⟩, ⟨"", .mark ']'⟩] :=
    @IsAttributeSection.brackets ⟨lead, .mark '['⟩ ⟨"", .mark ']'⟩
      [⟨"", .word "X"⟩] rfl rfl (.neutral rfl rfl .nil)
  constructor
  · have tokenized : Source.tokenize (Source.firstBranches
        "class A { enum E { } }") = .ok ⟨enumerationTokens, ""⟩ := by
      decide +kernel
    have attributedTokenized : Source.tokenize (Source.firstBranches
        "class A { [X] enum E { } }") =
          .ok ⟨enumerationPlace.attributed
            [⟨" ", .mark '['⟩, ⟨"", .word "X"⟩, ⟨"", .mark ']'⟩] " ", ""⟩ := by
      decide +kernel
    have read : readSource "class A { enum E { } }" =
        .ok [.type ⟨.classWord, "A", none, []⟩
          [.enumeration ⟨"E", [], []⟩]] :=
      readSource_ok_iff.2 ⟨_, tokenized, by decide +kernel⟩
    exact (readSource_attributed tokenized attributedTokenized
      enumerationPlace (isSection " ") rfl read).1 rfl
  · have tokenized : Source.tokenize (Source.firstBranches
        "namespace N; class A { }") = .ok ⟨scopeTokens, ""⟩ := by
      decide +kernel
    have attributedTokenized : Source.tokenize (Source.firstBranches
        "[X] namespace N; class A { }") =
          .ok ⟨scopePlace.attributed
            [⟨"", .mark '['⟩, ⟨"", .word "X"⟩, ⟨"", .mark ']'⟩] " ", ""⟩ := by
      decide +kernel
    have read : readSource "namespace N; class A { }" =
        .ok [.scope "N" [.type ⟨.classWord, "A", none, []⟩ []]] :=
      readSource_ok_iff.2 ⟨_, tokenized, by decide +kernel⟩
    have skipped := (readSource_attributed tokenized attributedTokenized
      scopePlace (isSection "") rfl read).2 rfl
    exact (skipped _).2
      ⟨scopeTokens.drop 3, by decide +kernel, by decide +kernel⟩

/-- With attributes in front, a namespace and all its types are lost. -/
theorem attributed_scope_lost :
    readSource "namespace A { class B { } }" =
        .ok [.scope "A" [.type ⟨.classWord, "B", none, []⟩ []]] ∧
      readSource "[assembly: X] namespace A { class B { } }" = .ok [] := by
  constructor <;> decide +kernel

end ClassDiagram
