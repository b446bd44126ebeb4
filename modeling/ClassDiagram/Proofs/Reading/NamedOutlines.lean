import ClassDiagram.Proofs.Reading.YieldedNames

/-!
# Named outlines

The names in an outline are words of its source, or several with dots, so the
signs that give a diagram its lines and packages occur in none of them.  The
copied types end as types do.  One step of the reader adds only declarations
of this kind.
-/

namespace ClassDiagram

open Source (Token Lexeme WordsAreNames IsNameWord)

/-- The name is one, and the parameters end with their angle bracket. -/
structure TypeHeader.Named (header : TypeHeader) : Prop where
  name : IsNameText header.name
  typeParameters : ∀ text ∈ header.typeParameters,
    text.toList.getLast? = some '>'

structure Enumeration.Named (declared : Enumeration) : Prop where
  name : IsNameText declared.name
  variants : ∀ variant ∈ declared.variants, IsNameText variant

structure Method.Named (declared : Method) : Prop where
  name : IsNameText declared.name
  returnType : EndsPlainly declared.returnType
  parameters : ∀ parameter ∈ declared.parameters, IsNameText parameter.name

namespace Declaration

mutual

def Named : Declaration → Prop
  | .scope name members => IsNameText name ∧ AllNamed members
  | .type header members => header.Named ∧ AllNamed members
  | .enumeration declared => declared.Named
  | .method declared => declared.Named

def AllNamed : List Declaration → Prop
  | [] => True
  | first :: others => first.Named ∧ AllNamed others

end

theorem allNamed_iff {declarations : List Declaration} :
    AllNamed declarations ↔
      ∀ declaration ∈ declarations, declaration.Named := by
  induction declarations with
  | nil =>
      simp [AllNamed]
  | cons first others inductionHypothesis =>
      simp [AllNamed, inductionHypothesis]

theorem AllNamed.reverse {declarations : List Declaration}
    (named : AllNamed declarations) : AllNamed declarations.reverse := by
  rw [allNamed_iff] at named ⊢
  intro declaration member
  exact named declaration (List.mem_reverse.1 member)

end Declaration

open Declaration (AllNamed)

namespace Reading

/-! ## Names -/

theorem isNameText_dot : IsNameText "." := by
  decide

theorem readNameParts_named {name dotted : String}
    {tokens rest : List Token} (named : WordsAreNames tokens)
    (nameNamed : IsNameText name)
    (read : readNameParts name tokens = .ok (dotted, rest)) :
    IsNameText dotted := by
  fun_induction readNameParts name tokens with
  | case1 | case3 | case6 =>
      cases read
      exact nameNamed
  | case2 | case5 =>
      cases read
  | case4 name dot next rest isDot part isWord inductionHypothesis =>
      have partNamed := isNameWord_of_word? named
        (List.mem_cons_of_mem dot List.mem_cons_self) isWord
      exact inductionHypothesis
        (WordsAreNames.suffix named (List.suffix_append [dot, next] rest))
        ((nameNamed.append isNameText_dot).append partNamed.2) read

theorem readDottedName_named {name : String} {tokens rest : List Token}
    (named : WordsAreNames tokens)
    (read : readDottedName tokens = .ok (name, rest)) :
    IsNameText name := by
  unfold readDottedName at read
  split at read
  · cases read
  · rename_i first others firstRead
    exact readNameParts_named
      (WordsAreNames.passed named (expectWord_passed firstRead))
      ((expectWord_yields firstRead).named named first
        List.mem_cons_self) read

theorem readScopeOpening_named {tokens rest : List Token}
    {opening : Opening} (named : WordsAreNames tokens)
    (read : readScopeOpening tokens = .ok (opening, rest)) :
    (opening.close []).Named := by
  unfold readScopeOpening at read
  split at read
  · cases read
  · rename_i name behindName dotted
    have nameNamed := readDottedName_named named dotted
    split at read
    · cases read
      exact ⟨nameNamed, trivial⟩
    · obtain ⟨body, _, answer⟩ := exists_of_map_eq_ok read
      cases answer
      exact ⟨nameNamed, trivial⟩

/-! ## Enumerations -/

theorem EnumerationRead.declared_named {tokens : List Token}
    {declared : Enumeration} {name : Token} {body : Body}
    (words : WordsAreNames tokens)
    (read : EnumerationRead tokens declared name body) : declared.Named := by
  obtain ⟨nameNamed, variants⟩ :=
    List.forall_mem_cons.1 (read.yields.named words)
  exact ⟨nameNamed, variants⟩

/-! ## Types -/

theorem readTypeParameters_named {tokens rest : List Token}
    {parameters : Option String}
    (read : readTypeParameters tokens = .ok (parameters, rest)) :
    ∀ text ∈ parameters, text.toList.getLast? = some '>' := by
  unfold readTypeParameters at read
  split at read
  · split at read
    · cases read
    · rename_i behind closed
      cases read
      intro text isText
      cases isText
      apply TakenTo.getLast?_taken
      refine .behind (List.tail_suffix tokens)
        ((afterAngles?_taken closed).mono fun last _ closes => ?_)
      simp only [Token.isMark, beq_iff_eq] at closes
      rw [closes]
      decide
  · cases read
    intro text isText
    cases isText

theorem readTypeOpening_named {kind : TypeKind}
    {modifiers : List Modifier} {tokens rest : List Token}
    {opening : TypeOpening} (named : WordsAreNames tokens)
    (read : readTypeOpening kind modifiers tokens = .ok (opening, rest)) :
    opening.header.Named := by
  have nameNamed := (readTypeOpening_yields read).named named
    opening.header.name List.mem_cons_self
  refine ⟨nameNamed, ?_⟩
  unfold readTypeOpening at read
  split at read
  · cases read
  · split at read
    · cases read
    · rename_i typeParameters behindParameters parametersRead
      obtain ⟨⟨hasBody, behind⟩, _, answer⟩ := exists_of_map_eq_ok read
      cases answer
      exact readTypeParameters_named parametersRead

/-! ## Methods -/

theorem readMethod_named {enclosing : Option String}
    {modifiers : List Modifier} {tokens rest : List Token}
    {declared : Method} (named : WordsAreNames tokens)
    (read : readMethod enclosing modifiers tokens =
      .ok (some declared, rest)) : declared.Named := by
  obtain ⟨nameNamed, parameters⟩ :=
    List.forall_mem_cons.1 ((readMethod_yields read).named named)
  obtain ⟨name, behindType, _, _, _, typed, _, _, _, rfl⟩ :=
    exists_of_readMethod read
  obtain ⟨front, last, split, c, ends, noBrace⟩ :=
    skipType?_endsType named typed
  exact ⟨nameNamed,
    ⟨c, TakenTo.getLast?_taken ⟨front, last, split, ends⟩, noBrace⟩,
    List.forall_mem_map.1 parameters⟩

/-! ## Members -/

/-- The declaration that was read, or the header of the type whose body was
opened. -/
def Member.Named : Member → Prop
  | .leftOut => True
  | .complete declaration => declaration.Named
  | .opened header => header.Named

theorem TypeOpening.member_named {opening : TypeOpening}
    (named : opening.header.Named) : opening.member.Named := by
  unfold TypeOpening.member
  split
  · exact named
  · exact ⟨named, trivial⟩

theorem readModified_named {enclosing : Option String}
    {modifiers : List Modifier} {tokens rest : List Token} {member : Member}
    (named : WordsAreNames tokens)
    (other : ∀ token behind, tokens = token :: behind →
      token.isWord "enum" = false)
    (read : readModified enclosing modifiers tokens = .ok (member, rest)) :
    member.Named := by
  obtain ⟨rfl, _⟩ |
      ⟨token, behind, _, kind, opening, rfl, _, opened, rfl⟩ |
      ⟨declared, method, rfl⟩ := readModified_cases other read
  · exact trivial
  · exact TypeOpening.member_named (readTypeOpening_named
      (WordsAreNames.suffix named (List.suffix_cons token behind)) opened)
  · exact readMethod_named named method

theorem readMember_named {enclosing : Option String}
    {tokens rest : List Token} {member : Member}
    (named : WordsAreNames tokens)
    (read : readMember enclosing tokens = .ok (member, rest)) :
    member.Named := by
  cases found : enumerationNext? tokens with
  | some behind =>
      obtain ⟨declared, name, body, enumeration, rfl, _⟩ :=
        readMember_enumeration found read
      exact enumeration.declared_named named
  | none =>
      obtain ⟨modifiers, modified, passed, notEnum, modifiedRead⟩ :=
        exists_of_readMember found read
      exact readModified_named (WordsAreNames.passed named passed) notEnum
        modifiedRead

/-! ## Steps -/

structure ReaderState.Named (state : ReaderState) : Prop where
  tokens : WordsAreNames state.tokens
  members : AllNamed state.members
  openings : ∀ frame ∈ state.frames, (frame.opening.close []).Named
  before : ∀ frame ∈ state.frames, AllNamed frame.before

theorem Opening.close_named {opening : Opening}
    {members : List Declaration} (named : (opening.close []).Named)
    (membersNamed : AllNamed members) :
    (opening.close members.reverse).Named := by
  cases opening <;> exact ⟨named.1, membersNamed.reverse⟩

theorem Step.named {state next : ReaderState} (step : Step state next)
    (named : state.Named) : next.Named := by
  have tokensNamed : WordsAreNames next.tokens :=
    WordsAreNames.suffix named.tokens (Run.suffix (.single step))
  obtain ⟨words, membersNamed, openings, before⟩ := named
  cases step with
  | close closing braced =>
      obtain ⟨openingNamed, outerOpenings⟩ := List.forall_mem_cons.1 openings
      obtain ⟨beforeNamed, outerBefore⟩ := List.forall_mem_cons.1 before
      exact ⟨tokensNamed,
        ⟨Opening.close_named openingNamed membersNamed, beforeNamed⟩,
        outerOpenings, outerBefore⟩
  | separate separator =>
      exact ⟨tokensNamed, membersNamed, openings, before⟩
  | @enter _ _ token rest _ _ scopeWord outside read =>
      have opened := readScopeOpening_named (WordsAreNames.suffix words
        (List.suffix_cons token rest)) read
      exact ⟨tokensNamed, trivial,
        List.forall_mem_cons.2 ⟨opened, openings⟩,
        List.forall_mem_cons.2 ⟨membersNamed, before⟩⟩
  | @member _ _ _ _ _ member inside noSeparator noScope read =>
      have memberNamed := readMember_named words read
      cases member with
      | leftOut =>
          exact ⟨tokensNamed, membersNamed, openings, before⟩
      | complete declaration =>
          exact ⟨tokensNamed, ⟨memberNamed, membersNamed⟩, openings, before⟩
      | opened header =>
          exact ⟨tokensNamed, trivial,
            List.forall_mem_cons.2 ⟨⟨memberNamed, trivial⟩, openings⟩,
            List.forall_mem_cons.2 ⟨membersNamed, before⟩⟩

theorem Run.named {state final : ReaderState} (run : Run state final)
    (named : state.Named) : final.Named := by
  induction run with
  | refl =>
      exact named
  | tail _ step inductionHypothesis =>
      exact step.named inductionHypothesis

theorem closeAll_named {frames : Frames} {members : List Declaration}
    {outline : Outline} (closed : closeAll frames members = .ok outline)
    (membersNamed : AllNamed members)
    (openings : ∀ frame ∈ frames, (frame.opening.close []).Named)
    (before : ∀ frame ∈ frames, AllNamed frame.before) :
    AllNamed outline := by
  fun_induction closeAll frames members with
  | case1 members =>
      cases closed
      exact membersNamed.reverse
  | case2 name earlier frames members inductionHypothesis =>
      obtain ⟨openingNamed, outerOpenings⟩ := List.forall_mem_cons.1 openings
      obtain ⟨beforeNamed, outerBefore⟩ := List.forall_mem_cons.1 before
      exact inductionHypothesis closed
        ⟨Opening.close_named openingNamed membersNamed, beforeNamed⟩
        outerOpenings outerBefore
  | case3 | case4 =>
      cases closed

end Reading

/-- Every outline that is read is named. -/
theorem readSource_named {text : String} {outline : Outline}
    (read : readSource text = .ok outline) : AllNamed outline := by
  obtain ⟨source, tokenized, outlineRead⟩ := readSource_ok_iff.1 read
  obtain ⟨final, run, _, closed⟩ :=
    Reading.exists_run_of_outline (.start source.tokens) outlineRead
  have named := Reading.Run.named run
    ⟨Source.wordsAreNames_of_tokenize tokenized, trivial, nofun, nofun⟩
  exact Reading.closeAll_named closed named.members named.openings
    named.before

end ClassDiagram
