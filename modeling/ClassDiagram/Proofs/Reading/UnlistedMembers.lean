import ClassDiagram.Proofs.Reading.MemberForms
import ClassDiagram.Proofs.Reading.TypeGrammar

/-!
# Members without an entry

Constructors, destructors, properties, events, indexers, operators,
conversions and delegates have no entry in the outline.  Each is recognised
at another place: at its first word, at the word behind its modifiers, behind
its type or behind its name.  From there on it is skipped, and it always ends
with its own last token, unless an equals sign makes its block a part of
something longer.
-/

namespace ClassDiagram.Reading

open Source (Token Lexeme)

/-! ## Groups -/

/-- Nested tokens between the marks of a group. -/
inductive IsGroup (c : Char) : List Token → Prop
  | closed {opening closing : Token} {inner : List Token} {d : Char}
      (opens : opening.isMark c = true) (pairs : closingMark? c = some d)
      (closes : closing.isMark d = true) (nested : Nested inner) :
      IsGroup c (opening :: (inner ++ [closing]))

theorem isClosingMark_of_closingMark? {c d : Char}
    (pairs : closingMark? c = some d) : isClosingMark d = true := by
  unfold closingMark? at pairs
  split at pairs <;> cases pairs <;> rfl

theorem IsGroup.exists_skipGroup {c : Char} {group : List Token}
    (isGroup : IsGroup c group) :
    ∃ opening behind d, group = opening :: behind ∧
      opening.isMark c = true ∧ closingMark? c = some d ∧
      ∀ rest, skipGroup d (behind ++ rest) = .ok rest := by
  cases isGroup with
  | @closed opening closing inner d opens pairs closes nested =>
      refine ⟨opening, inner ++ [closing], d, rfl, opens, pairs,
        fun rest => ?_⟩
      have isClosing : closing? closing = some d := by
        rw [closing?_of_isMark closes,
          if_pos (isClosingMark_of_closingMark? pairs)]
      rw [List.append_assoc, List.singleton_append]
      exact nested.skipGroup_eq isClosing rest

theorem IsGroup.atMark_eq_false {c d : Char} {group : List Token}
    (isGroup : IsGroup c group) (other : c ≠ d) (rest : List Token) :
    atMark d (group ++ rest) = false := by
  obtain ⟨opening, behind, _, rfl, opens, _⟩ := isGroup.exists_skipGroup
  exact isMark_unique opens other

/-! ## Parts of members -/

def StaysInMember (tokens : List Token) : Prop :=
  ∀ rest, skipMember (tokens ++ rest) = skipMember rest

/-- A member ends with these tokens, unless it is given a value. -/
def EndsMember (tokens : List Token) : Prop :=
  ∀ rest, atMark '=' rest = false → skipMember (tokens ++ rest) = .ok rest

namespace StaysInMember

variable {tokens others : List Token} {token : Token}

theorem nil : StaysInMember [] :=
  fun _ => rfl

theorem append (first : StaysInMember tokens)
    (second : StaysInMember others) : StaysInMember (tokens ++ others) := by
  intro rest
  rw [List.append_assoc, first, second]

theorem endsMember (first : StaysInMember tokens)
    (last : EndsMember others) : EndsMember (tokens ++ others) := by
  intro rest noValue
  rw [List.append_assoc, first]
  exact last rest noValue

theorem word (isWord : token.isAnyWord = true) : StaysInMember [token] :=
  skipMember_word isWord

theorem mark {c : Char} (isMark : token.isMark c = true)
    (noGroup : closingMark? c = none) (plain : c ≠ '\x7d' ∧ c ≠ ';') :
    StaysInMember [token] := by
  intro rest
  apply skipMember_neutral (isMark_unique isMark plain.1)
    (isMark_unique isMark plain.2)
  rw [closer?_of_isMark isMark, noGroup]

end StaysInMember

/-- A group that is no block. -/
theorem IsGroup.staysInMember {c : Char} {group : List Token}
    (isGroup : IsGroup c group)
    (noBlock : c = '(' ∨ c = '[') : StaysInMember group := by
  intro rest
  obtain ⟨opening, behind, d, rfl, opens, pairs, skips⟩ :=
    isGroup.exists_skipGroup
  have isOpening : closer? opening = some d := by
    rw [closer?_of_isMark opens, pairs]
  have other : c ≠ '\x7d' ∧ c ≠ ';' ∧ d ≠ '\x7d' := by
    rcases noBlock with rfl | rfl <;> cases pairs <;> decide
  rw [List.cons_append, skipMember_group (isMark_unique opens other.1)
    (isMark_unique opens other.2.1) isOpening (skips rest), if_neg]
  exact fun isBlock => other.2.2 isBlock.1

/-- A block. -/
theorem IsGroup.endsMember {group : List Token}
    (isGroup : IsGroup '\x7b' group) : EndsMember group := by
  intro rest noValue
  obtain ⟨opening, behind, d, rfl, opens, pairs, skips⟩ :=
    isGroup.exists_skipGroup
  cases pairs
  have isOpening : closer? opening = some '\x7d' := closer?_of_isMark opens
  rw [List.cons_append, skipMember_group (isMark_unique opens (by decide))
    (isMark_unique opens (by decide)) isOpening (skips rest),
    if_pos ⟨rfl, noValue⟩]

theorem endsMember_semicolon {semicolon : Token}
    (isSemicolon : semicolon.isMark ';' = true) : EndsMember [semicolon] :=
  fun _ _ => skipMember_separator isSemicolon

theorem NestedAngles.not_ending {tokens : List Token}
    (nested : NestedAngles tokens) :
    ∀ token ∈ tokens, endsTypeArguments token = false := by
  have bracket : ∀ {token : Token} {c : Char}, token.isMark c = true →
      c = '<' ∨ c = '>' → endsTypeArguments token = false := by
    intro token c isMark isAngle
    rcases isAngle with rfl | rfl <;>
      exact not_ending_of_isMark isMark (by decide)
  induction nested with
  | nil => exact List.forall_mem_nil _
  | inner notOpening notClosing notEnding nested inductionHypothesis =>
      exact List.forall_mem_cons.2 ⟨notEnding, inductionHypothesis⟩
  | group opens closes inside nested insideHypothesis behindHypothesis =>
      refine List.forall_mem_cons.2 ⟨bracket opens (.inl rfl), ?_⟩
      exact List.forall_mem_append.2 ⟨insideHypothesis,
        List.forall_mem_cons.2 ⟨bracket closes (.inr rfl), behindHypothesis⟩⟩

/-- Nested tokens without braces and separators. -/
theorem Nested.staysInMember {tokens : List Token} (nested : Nested tokens)
    (plain : ∀ token ∈ tokens, endsTypeArguments token = false) :
    StaysInMember tokens := by
  have noMark : ∀ {token : Token}, endsTypeArguments token = false →
      token.isMark ';' = false ∧ token.isMark '\x7b' = false ∧
        token.isMark '\x7d' = false := by
    intro token notEnding
    simp only [endsTypeArguments, Bool.or_eq_false_iff] at notEnding
    exact ⟨notEnding.1.1.1, notEnding.1.1.2, notEnding.1.2⟩
  induction nested with
  | nil => exact .nil
  | neutral notOpening notClosing nested inductionHypothesis =>
      obtain ⟨notEnding, further⟩ := List.forall_mem_cons.1 plain
      obtain ⟨noSeparator, _, inside⟩ := noMark notEnding
      intro rest
      rw [List.cons_append, skipMember_neutral inside noSeparator notOpening]
      exact inductionHypothesis further rest
  | @group opening closing wanted inner others opens closes inside nested
      _ behindHypothesis =>
      obtain ⟨notEnding, further⟩ := List.forall_mem_cons.1 plain
      obtain ⟨noSeparator, notOpening, notClosing⟩ := noMark notEnding
      have noBlock : wanted ≠ '\x7d' := by
        rintro rfl
        rw [isMark_of_closer?_brace opens] at notOpening
        cases notOpening
      have behind := (List.forall_mem_append.1 further).2
      intro rest
      rw [List.cons_append, List.append_assoc, List.cons_append,
        skipMember_nested notClosing noSeparator opens closes noBlock inside]
      exact behindHypothesis (List.forall_mem_cons.1 behind).2 rest

theorem IsClosed.staysInMember {tokens : List Token}
    (closed : IsClosed tokens) : StaysInMember tokens :=
  closed.nested.staysInMember closed.nestedAngles.not_ending

/-! ## Behind the modifiers -/

theorem plainWord?_of_nonTypeWord {token : Token} {text : String}
    (isText : word? token = some text) (noType : text ∈ nonTypeWords) :
    plainWord? token = none := by
  rw [plainWord?, isText, Option.filter_some, List.contains_iff_mem.2 noType]
  rfl

section

variable {modifiers : List Modifier} {tokens rest : List Token}

/-- What begins neither a type nor an enumeration is left out from there on
if it is no method either. -/
theorem readMember_of_leaveOut
    (written : tokens.map Token.lexeme =
      modifiers.map fun modifier => .word modifier.keyword)
    (plain : Modifier.refWord ∉ modifiers) (begins : BeginsTyped rest)
    (accepted : endsContextual modifiers = true → atAnyWord rest = true)
    {enclosing : Option String}
    (noMethod : readMethod enclosing modifiers rest = leaveOut rest) :
    readMember enclosing (tokens ++ rest) = leavingOut .leftOut rest := by
  have noAttribute := atMark_of_written written begins.noAttribute
  have modifiersRead :=
    readModifiers_written written plain accepted begins.noModifier
  rw [readMember, skipAttributes_none noAttribute]
  simp only [modifiersRead]
  rw [readModified_of_method begins.inside begins.noKind begins.noEnum,
    noMethod, map_leaveOut]

/-- Words that begin no type begin no other declaration either. -/
theorem readMember_of_nonTypeWord
    (written : tokens.map Token.lexeme =
      modifiers.map fun modifier => .word modifier.keyword)
    (plain : Modifier.refWord ∉ modifiers) {first : Token} {text : String}
    (isFirst : first.isWord text = true) (noType : text ∈ nonTypeWords)
    (enclosing : Option String) :
    readMember enclosing (tokens ++ first :: rest) =
      leavingOut .leftOut (first :: rest) := by
  have free : text ∉ memberWords ∧ text ≠ "ref" := by
    have all : ∀ text ∈ nonTypeWords, text ∉ memberWords ∧ text ≠ "ref" := by
      decide
    exact all text noType
  have isText := word?_of_isWord isFirst
  have isWord := isAnyWord_of_word? isText
  have unnamed := plainWord?_of_nonTypeWord isText noType
  have noReference : atWord "ref" (first :: rest) = false := by
    change first.isWord "ref" = false
    rw [isWord_eq isText, beq_eq_false_iff_ne]
    exact free.2
  have typeless : skipType? (first :: rest) = .ok none := by
    rw [skipType?_eq, skipReferenceWords_absent noReference]
    exact skipBareType?_noType_iff.2
      ⟨isMark_eq_false_of_isAnyWord isWord '(', unnamed⟩
  refine readMember_of_leaveOut written plain
    (beginsTyped_of_free isText free.1 rest) (fun _ => isWord) ?_
  cases constructed : isConstructor enclosing (first :: rest) with
  | true => exact readMethod_of_constructor constructed
  | false => exact readMethod_of_noType constructed typeless

end

/-- Where no name follows the type, a member is left out. -/
theorem MemberFront.readMember_unnamed (front : MemberFront)
    (enclosing : Option String) {next : Token} {text : String}
    (isNext : next.isWord text = true) (noType : text ∈ nonTypeWords)
    (rest : List Token) :
    readMember enclosing (front.tokens ++ next :: rest) =
      leavingOut .leftOut rest := by
  have isText := word?_of_isWord isNext
  have isWord := isAnyWord_of_word? isText
  have passed : leavingOut Member.leftOut (next :: rest) =
      leavingOut Member.leftOut rest := by
    rw [leavingOut, leavingOut, skipMember_word isWord]
  cases recognised : front.isRecognised with
  | false => rw [front.readMember_unrecognised recognised, passed]
  | true =>
      cases constructed : front.isConstructed enclosing with
      | true =>
          rw [front.readMember_constructed recognised constructed, passed]
      | false =>
          have unnamed : nextName? (next :: rest) = none :=
            plainWord?_of_nonTypeWord isText noType
          have behind : atAnyWord (next :: rest) = true := isWord
          rw [front.readMember_recognised recognised constructed behind,
            readTypedMember, unnamed, map_leaveOut, passed]

/-! ## The forms -/

/-- What a constructor hands on, with its colon, or nothing. -/
inductive IsHandedOn : List Token → Prop
  | absent : IsHandedOn []
  | present {colon target : Token} {arguments : List Token}
      (isColon : colon.isMark ':' = true)
      (isTarget : (target.isWord "base" || target.isWord "this") = true)
      (areArguments : IsGroup '(' arguments) :
      IsHandedOn (colon :: target :: arguments)

/-- The symbol of an operator: words and marks of no group. -/
def IsSymbol (tokens : List Token) : Prop :=
  ∀ token ∈ tokens, closer? token = none ∧ closing? token = none ∧
    token.isMark ';' = false

inductive IsEventEnd : List Token → Prop
  | accessors {block : List Token} (isBlock : IsGroup '\x7b' block) :
      IsEventEnd block
  | semicolon {semicolon : Token}
      (isSemicolon : semicolon.isMark ';' = true) : IsEventEnd [semicolon]

inductive AreTypeParameters : List Token → Prop
  | absent : AreTypeParameters []
  | present {opening closing : Token} {inner : List Token}
      (opens : opening.isMark '<' = true) (closed : IsClosed inner)
      (closes : closing.isMark '>' = true) :
      AreTypeParameters (opening :: (inner ++ [closing]))

/-- What stands behind the modifiers of a member without an entry, in the
body of a type of this name. -/
inductive IsUnlisted (enclosing : String) : List Token → Prop
  | construction {named : Token} {parameters handedOn body : List Token}
      (isName : named.isWord enclosing = true)
      (areParameters : IsGroup '(' parameters) (isCall : IsHandedOn handedOn)
      (isBody : IsGroup '\x7b' body) :
      IsUnlisted enclosing (named :: (parameters ++ (handedOn ++ body)))
  | destruction {tilde named opening closing : Token} {body : List Token}
      (isTilde : tilde.isMark '~' = true)
      (isName : named.isWord enclosing = true)
      (opens : opening.isMark '(' = true) (closes : closing.isMark ')' = true)
      (isBody : IsGroup '\x7b' body) :
      IsUnlisted enclosing (tilde :: named :: opening :: closing :: body)
  | property {typed body : List Token} {named : Token}
      (isType : IsWrittenType memberWords typed)
      (isName : named.isAnyWord = true) (isBody : IsGroup '\x7b' body) :
      IsUnlisted enclosing (typed ++ named :: body)
  | event {eventWord named : Token} {typed ending : List Token}
      (isEvent : eventWord.isWord "event" = true)
      (isType : IsWrittenType memberWords typed)
      (isName : named.isAnyWord = true) (isEnd : IsEventEnd ending) :
      IsUnlisted enclosing (eventWord :: (typed ++ named :: ending))
  | indexer {typed parameters body : List Token} {thisWord : Token}
      (isType : IsWrittenType memberWords typed)
      (isThis : thisWord.isWord "this" = true)
      (areParameters : IsGroup '[' parameters)
      (isBody : IsGroup '\x7b' body) :
      IsUnlisted enclosing (typed ++ thisWord :: (parameters ++ body))
  | operation {typed symbol parameters body : List Token}
      {operatorWord : Token} (isType : IsWrittenType memberWords typed)
      (isOperator : operatorWord.isWord "operator" = true)
      (isSymbol : IsSymbol symbol) (areParameters : IsGroup '(' parameters)
      (isBody : IsGroup '\x7b' body) :
      IsUnlisted enclosing
        (typed ++ operatorWord :: (symbol ++ (parameters ++ body)))
  | conversion {direction operatorWord : Token}
      {typed parameters body : List Token}
      (isDirection :
        direction.isWord "implicit" = true ∨ direction.isWord "explicit" = true)
      (isOperator : operatorWord.isWord "operator" = true)
      (isType : IsWrittenType memberWords typed)
      (areParameters : IsGroup '(' parameters)
      (isBody : IsGroup '\x7b' body) :
      IsUnlisted enclosing
        (direction :: operatorWord :: (typed ++ (parameters ++ body)))
  | delegate {delegateWord named semicolon : Token}
      {typed typeParameters parameters : List Token}
      (isDelegate : delegateWord.isWord "delegate" = true)
      (isType : IsWrittenType memberWords typed)
      (isName : named.isAnyWord = true)
      (areTypeParameters : AreTypeParameters typeParameters)
      (areParameters : IsGroup '(' parameters)
      (isSemicolon : semicolon.isMark ';' = true) :
      IsUnlisted enclosing (delegateWord ::
        (typed ++ named :: (typeParameters ++ (parameters ++ [semicolon]))))

/-- A member without an entry, as it is written in the body of a type of this
name. -/
structure UnlistedForm (enclosing : String) where
  modifiers : List Modifier
  modifierTokens : List Token
  memberTokens : List Token
  written : modifierTokens.map Token.lexeme =
    modifiers.map fun modifier => .word modifier.keyword
  plain : Modifier.refWord ∉ modifiers
  isUnlisted : IsUnlisted enclosing memberTokens

def UnlistedForm.tokens {enclosing : String} (form : UnlistedForm enclosing) :
    List Token :=
  form.modifierTokens ++ form.memberTokens

/-! ### Where they end -/

theorem IsHandedOn.staysInMember {tokens : List Token}
    (isCall : IsHandedOn tokens) : StaysInMember tokens := by
  cases isCall with
  | absent => exact .nil
  | @present colon target arguments isColon isTarget areArguments =>
      have isWord : target.isAnyWord = true := by
        rw [Bool.or_eq_true] at isTarget
        rcases isTarget with isTarget | isTarget <;>
          exact isAnyWord_of_word? (word?_of_isWord isTarget)
      have colonStays := StaysInMember.mark isColon rfl (by decide)
      have targetStays := StaysInMember.word isWord
      exact colonStays.append
        (targetStays.append (areArguments.staysInMember (.inl rfl)))

theorem IsSymbol.staysInMember {tokens : List Token}
    (isSymbol : IsSymbol tokens) : StaysInMember tokens := by
  induction tokens with
  | nil => exact .nil
  | cons token others inductionHypothesis =>
      obtain ⟨⟨notOpening, notClosing, noSeparator⟩, further⟩ :=
        List.forall_mem_cons.1 isSymbol
      have inside : token.isMark '\x7d' = false := by
        by_contra closes
        rw [Bool.not_eq_false] at closes
        rw [closing?_of_isMark closes] at notClosing
        cases notClosing
      intro rest
      rw [List.cons_append, skipMember_neutral inside noSeparator notOpening]
      exact inductionHypothesis further rest

theorem IsEventEnd.endsMember {tokens : List Token}
    (isEnd : IsEventEnd tokens) : EndsMember tokens := by
  cases isEnd with
  | accessors isBlock => exact isBlock.endsMember
  | semicolon isSemicolon => exact endsMember_semicolon isSemicolon

theorem AreTypeParameters.staysInMember {tokens : List Token}
    (are : AreTypeParameters tokens) : StaysInMember tokens := by
  cases are with
  | absent => exact .nil
  | present opens closed closes =>
      exact (IsClosed.angles opens closes closed .nil).staysInMember

theorem StaysInMember.isWord {token : Token} {text : String}
    (isWord : token.isWord text = true) : StaysInMember [token] :=
  .word (isAnyWord_of_word? (word?_of_isWord isWord))

/-! ### How they are read -/

/-- What begins here is left out of the outline up to the end of these
tokens. -/
def IsLeftOut (enclosing : String) (tokens : List Token) : Prop :=
  ∀ rest, atMark '=' rest = false →
    readMember (some enclosing) (tokens ++ rest) = .ok (.leftOut, rest)

theorem EndsMember.isLeftOut {part tokens : List Token}
    (ends : EndsMember part) {enclosing : String}
    (read : ∀ rest, readMember (some enclosing) (tokens ++ rest) =
      leavingOut .leftOut (part ++ rest)) : IsLeftOut enclosing tokens := by
  intro rest noValue
  rw [read, leavingOut, ends rest noValue]
  rfl

section

variable {modifiers : List Modifier} {front behind : List Token}
  {enclosing : String}
  (written : front.map Token.lexeme =
    modifiers.map fun modifier => .word modifier.keyword)
  (plain : Modifier.refWord ∉ modifiers) (free : enclosing ∉ memberWords)

include written plain

theorem isLeftOut_of_nonTypeWord {first : Token} {text : String}
    (isFirst : first.isWord text = true) (noType : text ∈ nonTypeWords)
    (ends : EndsMember behind) :
    IsLeftOut enclosing (front ++ first :: behind) := by
  have partEnds : EndsMember ([first] ++ behind) :=
    (StaysInMember.isWord isFirst).endsMember ends
  refine partEnds.isLeftOut fun rest => ?_
  rw [List.append_assoc]
  exact readMember_of_nonTypeWord written plain isFirst noType _

include free

/-- A constructor is recognised by the name of its type. -/
theorem isLeftOut_construction {named : Token}
    (isName : named.isWord enclosing = true)
    (opens : ∀ rest, atMark '(' (behind ++ rest) = true)
    (ends : EndsMember behind) :
    IsLeftOut enclosing (front ++ named :: behind) := by
  have isText := word?_of_isWord isName
  have partEnds : EndsMember ([named] ++ behind) :=
    (StaysInMember.isWord isName).endsMember ends
  refine partEnds.isLeftOut fun rest => ?_
  have constructed :
      isConstructor (some enclosing) (named :: (behind ++ rest)) = true := by
    rw [isConstructor_cons, Option.any_some, isName, opens rest]
    exact Bool.or_true _
  rw [List.append_assoc]
  exact readMember_of_leaveOut written plain
    (beginsTyped_of_free isText free _)
    (fun _ => isAnyWord_of_word? isText)
    (readMethod_of_constructor constructed)

omit free in
/-- A destructor is recognised by its tilde, also behind a word that is a
modifier only in front of another word. -/
theorem isLeftOut_destruction {tilde : Token}
    (isTilde : tilde.isMark '~' = true) (ends : EndsMember behind) :
    IsLeftOut enclosing (front ++ tilde :: behind) := by
  have stays := StaysInMember.mark isTilde rfl (by decide)
  have partEnds : EndsMember ([tilde] ++ behind) := stays.endsMember ends
  refine partEnds.isLeftOut fun rest => ?_
  rw [List.append_assoc]
  cases contextual : endsContextual modifiers with
  | true =>
      have isMark : atMark '~' (tilde :: behind ++ rest) = true := isTilde
      exact readMember_contextual written plain contextual isMark (by decide) _
  | false =>
      have constructed :
          isConstructor (some enclosing) (tilde :: (behind ++ rest)) =
            true := by
        rw [isConstructor_cons, isTilde, Bool.true_or]
      refine readMember_of_leaveOut written plain
        (beginsTyped_of_mark isTilde (by decide) _) ?_
        (readMethod_of_constructor constructed)
      rw [contextual]
      exact nofun

end

namespace UnlistedForm

variable {enclosing : String} (form : UnlistedForm enclosing)

def front {typed : List Token} (isType : IsWrittenType memberWords typed) :
    MemberFront where
  modifiers := form.modifiers
  modifierTokens := form.modifierTokens
  typeTokens := typed
  written := form.written
  plain := form.plain
  isType := .value isType.isBareType

variable {typed behind : List Token}
  (isType : IsWrittenType memberWords typed)

include isType

/-- A property has a block behind its name. -/
theorem isLeftOut_property {name : Token} (isName : name.isAnyWord = true)
    (isBody : IsGroup '\x7b' behind) :
    IsLeftOut enclosing
      (form.modifierTokens ++ (typed ++ name :: behind)) := by
  refine isBody.endsMember.isLeftOut fun rest => ?_
  have tokensEq : form.modifierTokens ++ (typed ++ name :: behind) ++ rest =
      (form.front isType).tokens ++ name :: (behind ++ rest) := by
    simp [MemberFront.tokens, front]
  rw [tokensEq]
  exact (form.front isType).readMember_leftOut (some enclosing) isName
    (isBody.atMark_eq_false (by decide) rest)
    (isBody.atMark_eq_false (by decide) rest)
    (isBody.atMark_eq_false (by decide) rest)

/-- An indexer and an operator have another word in the place of a name. -/
theorem isLeftOut_unnamed {next : Token} {text : String}
    (isNext : next.isWord text = true) (noType : text ∈ nonTypeWords)
    (ends : EndsMember behind) :
    IsLeftOut enclosing
      (form.modifierTokens ++ (typed ++ next :: behind)) := by
  refine ends.isLeftOut fun rest => ?_
  have tokensEq : form.modifierTokens ++ (typed ++ next :: behind) ++ rest =
      (form.front isType).tokens ++ next :: (behind ++ rest) := by
    simp [MemberFront.tokens, front]
  rw [tokensEq]
  exact (form.front isType).readMember_unnamed (some enclosing) isNext noType _

end UnlistedForm

/-- In the body of a type, a constructor, a destructor, a property, an event,
an indexer, an operator, a conversion and a delegate are left out of the
outline, and the reader is left right behind them. -/
theorem readMember_unlistedForm {enclosing : String}
    (free : enclosing ∉ memberWords) (form : UnlistedForm enclosing)
    {rest : List Token} (noValue : atMark '=' rest = false) :
    readMember (some enclosing) (form.tokens ++ rest) =
      .ok (.leftOut, rest) := by
  suffices isLeftOut : IsLeftOut enclosing form.tokens from
    isLeftOut rest noValue
  have isUnlisted := form.isUnlisted
  rw [UnlistedForm.tokens]
  generalize form.memberTokens = memberTokens at isUnlisted
  cases isUnlisted with
  | construction isName areParameters isCall isBody =>
      have ends := (areParameters.staysInMember (.inl rfl)).endsMember
        (isCall.staysInMember.endsMember isBody.endsMember)
      refine isLeftOut_construction form.written form.plain free isName
        (fun rest => ?_) ends
      obtain ⟨opening, behind, _, rfl, opens, _⟩ :=
        areParameters.exists_skipGroup
      exact opens
  | @destruction tilde name opening closing body isTilde isName opens closes
      isBody =>
      have parameters : IsGroup '(' [opening, closing] :=
        @IsGroup.closed '(' opening closing [] ')' opens rfl closes .nil
      have ends := (StaysInMember.isWord isName).endsMember
        ((parameters.staysInMember (.inl rfl)).endsMember isBody.endsMember)
      exact isLeftOut_destruction form.written form.plain isTilde ends
  | property isType isName isBody =>
      exact form.isLeftOut_property isType isName isBody
  | event isEvent isType isName isEnd =>
      have ends := isType.isClosed.staysInMember.endsMember
        ((StaysInMember.word isName).endsMember isEnd.endsMember)
      exact isLeftOut_of_nonTypeWord form.written form.plain isEvent
        (by decide) ends
  | indexer isType isThis areParameters isBody =>
      have ends := (areParameters.staysInMember (.inr rfl)).endsMember
        isBody.endsMember
      exact form.isLeftOut_unnamed isType isThis (by decide) ends
  | operation isType isOperator isSymbol areParameters isBody =>
      have ends := isSymbol.staysInMember.endsMember
        ((areParameters.staysInMember (.inl rfl)).endsMember
          isBody.endsMember)
      exact form.isLeftOut_unnamed isType isOperator (by decide) ends
  | conversion isDirection isOperator isType areParameters isBody =>
      have ends := (StaysInMember.isWord isOperator).endsMember
        (isType.isClosed.staysInMember.endsMember
          ((areParameters.staysInMember (.inl rfl)).endsMember
            isBody.endsMember))
      rcases isDirection with isDirection | isDirection <;>
        exact isLeftOut_of_nonTypeWord form.written form.plain isDirection
          (by decide) ends
  | delegate isDelegate isType isName areTypeParameters areParameters
      isSemicolon =>
      have ends := isType.isClosed.staysInMember.endsMember
        ((StaysInMember.word isName).endsMember
          (areTypeParameters.staysInMember.endsMember
            ((areParameters.staysInMember (.inl rfl)).endsMember
              (endsMember_semicolon isSemicolon))))
      exact isLeftOut_of_nonTypeWord form.written form.plain isDelegate
        (by decide) ends

def pairType : List Token :=
  [⟨" ", .mark '('⟩, ⟨"", .word "C"⟩, ⟨" ", .word "Low"⟩, ⟨"", .mark ','⟩,
    ⟨" ", .word "C"⟩, ⟨"", .mark ')'⟩, ⟨"", .mark '?'⟩]

theorem pairType_written : IsWrittenType memberWords pairType := by
  have low : IsFreeWord memberWords ⟨" ", .word "Low"⟩ :=
    ⟨"Low", rfl, by decide⟩
  have first : IsWrittenType memberWords [⟨"", .word "C"⟩] :=
    .word ⟨"C", rfl, by decide⟩
  have second : IsWrittenType memberWords [⟨" ", .word "C"⟩] :=
    .word ⟨"C", rfl, by decide⟩
  have elements : Derives memberWords .elements
      [⟨"", .word "C"⟩, ⟨" ", .word "Low"⟩, ⟨"", .mark ','⟩,
        ⟨" ", .word "C"⟩] :=
    @Derives.moreElements _ _ _ _ ⟨"", .mark ','⟩ first (.present low) rfl
      (.lastElement second .absent)
  exact @Derives.tuple _ ⟨" ", .mark '('⟩ ⟨"", .mark ')'⟩ _
    [⟨"", .mark '?'⟩] rfl elements rfl (.mark rfl .none)

/-- An operator whose symbol is a bracket that nothing closes. -/
def orderForm : UnlistedForm "C" where
  modifiers := [.publicWord, .staticWord]
  modifierTokens := [⟨"", .word "public"⟩, ⟨" ", .word "static"⟩]
  memberTokens :=
    pairType ++ ⟨" ", .word "operator"⟩ :: ([⟨" ", .mark '<'⟩] ++
      ([⟨"", .mark '('⟩, ⟨"", .word "C"⟩, ⟨" ", .word "left"⟩,
          ⟨"", .mark ')'⟩] ++
        [⟨" ", .mark '\x7b'⟩, ⟨" ", .word "return"⟩, ⟨" ", .word "left"⟩,
          ⟨"", .mark ';'⟩, ⟨" ", .mark '\x7d'⟩]))
  written := rfl
  plain := by decide
  isUnlisted :=
    .operation pairType_written rfl
      (List.forall_mem_singleton.2 ⟨rfl, rfl, rfl⟩)
      (@IsGroup.closed _ ⟨"", .mark '('⟩ ⟨"", .mark ')'⟩
        [⟨"", .word "C"⟩, ⟨" ", .word "left"⟩] _ rfl rfl rfl
        (.neutral rfl rfl (.neutral rfl rfl .nil)))
      (@IsGroup.closed _ ⟨" ", .mark '\x7b'⟩ ⟨" ", .mark '\x7d'⟩
        [⟨" ", .word "return"⟩, ⟨" ", .word "left"⟩, ⟨"", .mark ';'⟩] _ rfl
        rfl rfl (.neutral rfl rfl (.neutral rfl rfl (.neutral rfl rfl .nil))))

/-- The operator is left out, and the destructor behind it is next. -/
theorem orderForm_leftOut :
    "C" ∉ memberWords ∧
      atMark '=' [⟨" ", .mark '~'⟩, ⟨"", .word "C"⟩] = false ∧
      readMember (some "C")
          (orderForm.tokens ++ [⟨" ", .mark '~'⟩, ⟨"", .word "C"⟩]) =
        .ok (.leftOut, [⟨" ", .mark '~'⟩, ⟨"", .word "C"⟩]) := by
  have free : "C" ∉ memberWords := by decide
  have noValue :
      atMark '=' [⟨" ", .mark '~'⟩, ⟨"", .word "C"⟩] = false := rfl
  exact ⟨free, noValue, readMember_unlistedForm free orderForm noValue⟩

end ClassDiagram.Reading
