import ClassDiagram.Proofs.Reading.MemberForms
import ClassDiagram.Proofs.Reading.ParameterForms

/-!
# Written methods

A method as it is written in the body of a type: modifiers, a return type, a
name that may say which interface the method belongs to, parameters,
constraints and a body.  Whatever follows, it is read as the method with
exactly its name, its modifiers, its parameters and the verbatim text of its
return type.

There are three exceptions, in which the method is left out of the outline: an
interface whose name begins with an alias and two colons, a modifier that is
one only in front of a word but stands in front of a tuple, and a reference to
a tuple in a type that has the word of references for a name.
-/

namespace ClassDiagram.Reading

open Source (Token Lexeme)

/-! ## The name of a method -/

inductive IsAlias : List Token → Prop
  | absent : IsAlias []
  | present {word first second : Token} (isWord : word.isAnyWord = true)
      (isFirst : first.isMark ':' = true)
      (isSecond : second.isMark ':' = true) :
      IsAlias [word, first, second]

/-- The name of an interface with a dot behind it, or nothing. -/
inductive IsInterface : List Token → Prop
  | absent : IsInterface []
  | part {part dot : Token} {arguments others : List Token}
      (isPart : part.isAnyWord = true) (are : AreArguments arguments)
      (isDot : dot.isMark '.' = true) (further : IsInterface others) :
      IsInterface (part :: (arguments ++ dot :: others))

theorem exists_of_isAnyWord {token : Token}
    (isWord : token.isAnyWord = true) : ∃ text, word? token = some text := by
  obtain ⟨lead, lexeme⟩ := token
  cases lexeme with
  | word text => exact ⟨text, rfl⟩
  | _ => cases isWord

namespace AreArguments

variable {arguments rest : List Token}

/-- In front of a dot, type arguments belong to an interface. -/
theorem qualifierEnd?_eq (are : AreArguments arguments)
    (isDot : atMark '.' rest = true) :
    qualifierEnd? (arguments ++ rest) = some rest := by
  cases are with
  | absent =>
      obtain ⟨dot, behind, rfl, isMark⟩ := exists_of_atMark isDot
      exact qualifierEnd?_of_noAngle (isMark_unique isMark (by decide))
  | present opens closes nested =>
      rw [List.cons_append, qualifierEnd?_of_angle _ opens,
        afterAngles?_eq closes nested, Option.filter_some, if_pos isDot]

/-- In front of a parenthesis, they belong to the method. -/
theorem readMemberName_eq (are : AreArguments arguments)
    (opens : atMark '(' rest = true) (name : String) :
    readMemberName name (arguments ++ rest) = (name, arguments ++ rest) := by
  obtain ⟨opening, behind, rfl, isOpening⟩ := exists_of_atMark opens
  have noDot : atMark '.' (opening :: behind) = false :=
    isMark_unique isOpening (by decide)
  cases are with
  | absent =>
      exact readMemberName_of_unqualified (isMark_unique isOpening (by decide))
        noDot
  | present isAngle closes nested =>
      apply readMemberName_unreached
      rw [List.cons_append, qualifierEnd?_of_angle _ isAngle,
        afterAngles?_eq closes nested, Option.filter_some, noDot]
      rfl

end AreArguments

theorem IsInterface.atAnyWord_append {qualifier : List Token}
    (isInterface : IsInterface qualifier) {named : Token}
    (isWord : named.isAnyWord = true) (rest : List Token) :
    atAnyWord (qualifier ++ named :: rest) = true := by
  cases isInterface with
  | absent => exact isWord
  | part isPart are isDot further => exact isPart

/-- The parts in front of the last one name the interface. -/
theorem IsInterface.exists_readMemberName {qualifier tail : List Token}
    (isInterface : IsInterface qualifier) {named : Token} {name : String}
    (isName : word? named = some name)
    (last : ∀ name, readMemberName name tail = (name, tail)) :
    ∃ first text behind, qualifier ++ named :: tail = first :: behind ∧
      word? first = some text ∧
      nextName? (qualifier ++ [named]) = plainWord? first ∧
      readMemberName text behind = (name, tail) := by
  induction isInterface with
  | absent => exact ⟨named, name, tail, rfl, isName, rfl, last name⟩
  | @part part dot arguments others isPart are isDot further
      inductionHypothesis =>
      obtain ⟨text, isText⟩ := exists_of_isAnyWord isPart
      obtain ⟨next, nextText, behind, rest, isNext, _, read⟩ :=
        inductionHypothesis
      have dotNext : atMark '.' (dot :: next :: behind) = true := isDot
      refine ⟨part, text, arguments ++ dot :: next :: behind, ?_, isText, rfl,
        ?_⟩
      · rw [← rest, List.cons_append, List.append_assoc, List.cons_append]
      · rw [readMemberName_further (are.qualifierEnd?_eq dotNext)
          (nextPart?_of_word isDot isNext behind)]
        exact read

theorem plainWord?_of_isSome {token : Token} {text : String}
    (isText : word? token = some text)
    (plain : (plainWord? token).isSome = true) :
    plainWord? token = some text := by
  obtain ⟨found, isFound⟩ := Option.isSome_iff_exists.1 plain
  have same := word?_of_plainWord? isFound
  rw [isText, Option.some.injEq] at same
  rw [isFound, same]

/-! ## Constraints and bodies -/

/-- Tokens between the parameters and the body, their groups nested. -/
inductive AreConstraints : List Token → Prop
  | nil : AreConstraints []
  | neutral {token : Token} {rest : List Token}
      (before : standsBeforeBody token = true)
      (notOpening : closer? token = none) (further : AreConstraints rest) :
      AreConstraints (token :: rest)
  | group {opening closing : Token} {wanted : Char} {inner rest : List Token}
      (before : standsBeforeBody opening = true)
      (opens : closer? opening = some wanted)
      (closes : closing? closing = some wanted) (inside : Nested inner)
      (further : AreConstraints rest) :
      AreConstraints (opening :: (inner ++ closing :: rest))

/-- A block, an expression or only a semicolon. -/
inductive IsMethodBody : List Token → Prop
  | block {opening closing : Token} {inner : List Token}
      (opens : opening.isMark '\x7b' = true) (nested : Nested inner)
      (closes : closing.isMark '\x7d' = true) :
      IsMethodBody (opening :: (inner ++ [closing]))
  | expression {arrow semicolon : Token} {value : List Token}
      (isArrow : arrow.lexeme = .arrow) (nested : NestedWithout [';'] value)
      (isSemicolon : semicolon.isMark ';' = true) :
      IsMethodBody (arrow :: (value ++ [semicolon]))
  | absent {semicolon : Token} (isSemicolon : semicolon.isMark ';' = true) :
      IsMethodBody [semicolon]

theorem IsMethodBody.skipMethodBody_eq {body : List Token}
    (isBody : IsMethodBody body) (name : String) (rest : List Token) :
    skipMethodBody name (body ++ rest) = .ok rest := by
  cases isBody with
  | block opens nested closes =>
      rw [List.cons_append, List.append_assoc, List.singleton_append,
        skipMethodBody_block opens]
      exact nested.skipGroup_eq (closing?_of_isMark closes) rest
  | expression isArrow nested isSemicolon =>
      rw [List.cons_append, List.append_assoc, List.singleton_append,
        skipMethodBody_arrow isArrow]
      exact nested.skipStatement_eq isSemicolon rest
  | absent isSemicolon => exact skipMethodBody_semicolon isSemicolon

theorem AreConstraints.skipMethodBody_eq {constraints : List Token}
    (are : AreConstraints constraints) (name : String) (rest : List Token) :
    skipMethodBody name (constraints ++ rest) = skipMethodBody name rest := by
  induction are with
  | nil => rfl
  | neutral before notOpening further inductionHypothesis =>
      rw [List.cons_append, skipMethodBody_neutral before notOpening]
      exact inductionHypothesis
  | group before opens closes inside further inductionHypothesis =>
      rw [List.cons_append, List.append_assoc, List.cons_append,
        skipMethodBody_group before opens (inside.skipGroup_eq closes _)]
      exact inductionHypothesis

/-! ## Whole methods -/

structure MethodForm where
  front : MemberFront
  aliasTokens : List Token
  interfaceTokens : List Token
  named : Token
  name : String
  argumentTokens : List Token
  opening : Token
  parameters : List Parameter
  parameterTokens : List Token
  constraintTokens : List Token
  bodyTokens : List Token
  isAlias : IsAlias aliasTokens
  isInterface : IsInterface interfaceTokens
  isName : word? named = some name
  /-- No word that begins other members stands behind the return type. -/
  begins : (nextName? (interfaceTokens ++ [named])).isSome = true
  areArguments : AreArguments argumentTokens
  opens : opening.isMark '(' = true
  isParameterList : IsParameterList parameters parameterTokens
  areConstraints : AreConstraints constraintTokens
  isBody : IsMethodBody bodyTokens

namespace MethodForm

def tail (form : MethodForm) : List Token :=
  form.argumentTokens ++ form.opening ::
    (form.parameterTokens ++ (form.constraintTokens ++ form.bodyTokens))

def tokens (form : MethodForm) : List Token :=
  form.front.tokens ++ (form.aliasTokens ++
    (form.interfaceTokens ++ form.named :: form.tail))

def method (form : MethodForm) : Method :=
  ⟨form.name, Token.verbatim form.front.typeTokens, form.parameters,
    form.front.modifiers⟩

/-- All modifiers are taken for ones, and the interface has no alias. -/
def isRecognised (form : MethodForm) : Bool :=
  form.front.isRecognised && form.aliasTokens.isEmpty

variable (form : MethodForm)

/-- Behind the parenthesis, parameters, constraints and body are read. -/
theorem readMethodTail_eq (returnType : String) (modifiers : List Modifier)
    (rest : List Token) :
    readMethodTail form.name returnType modifiers
        (form.parameterTokens ++
          (form.constraintTokens ++ (form.bodyTokens ++ rest))) =
      .ok (some ⟨form.name, returnType, form.parameters, modifiers⟩,
        rest) := by
  rw [readMethodTail, form.isParameterList.readParameterList_eq]
  simp only
  rw [form.areConstraints.skipMethodBody_eq, form.isBody.skipMethodBody_eq]
  rfl

/-- Behind the return type, the method is read to its end. -/
theorem readTypedMember_eq (returnType : String) (modifiers : List Modifier)
    (rest : List Token) :
    readTypedMember returnType modifiers
        (form.interfaceTokens ++ form.named :: (form.tail ++ rest)) =
      .ok (some ⟨form.name, returnType, form.parameters, modifiers⟩,
        rest) := by
  have isOpening : ∀ others, atMark '(' (form.opening :: others) = true :=
    fun _ => form.opens
  have tailEq : form.tail ++ rest = form.argumentTokens ++ form.opening ::
      (form.parameterTokens ++
        (form.constraintTokens ++ (form.bodyTokens ++ rest))) := by
    simp [tail]
  obtain ⟨first, text, behind, namedEq, isText, begins, nameRead⟩ :=
    form.isInterface.exists_readMemberName form.isName
      (form.areArguments.readMemberName_eq (isOpening _))
  have plain : plainWord? first = some text :=
    plainWord?_of_isSome isText (begins ▸ form.begins)
  have noAngle : atMark '<' (form.opening ::
      (form.parameterTokens ++
        (form.constraintTokens ++ (form.bodyTokens ++ rest)))) = false :=
    isMark_unique form.opens (by decide)
  rw [tailEq, namedEq, readTypedMember_named plain, nameRead,
    form.areArguments.skipAngles_eq noAngle, readMethodEnd,
    if_pos (isOpening _)]
  exact form.readMethodTail_eq returnType modifiers rest

section

variable {form} {enclosing : Option String}

/-- A method is read from its modifiers to its body. -/
theorem readMember_recognised (recognised : form.isRecognised = true)
    (noConstructor : form.front.isConstructed enclosing = false)
    (rest : List Token) :
    readMember enclosing (form.tokens ++ rest) =
      .ok (methodMember enclosing (some form.method), rest) := by
  obtain ⟨frontRecognised, noAlias⟩ := Bool.and_eq_true_iff.1 recognised
  have behind := form.isInterface.atAnyWord_append
    (isAnyWord_of_word? form.isName) (form.tail ++ rest)
  have tokensEq : form.tokens ++ rest = form.front.tokens ++
      (form.interfaceTokens ++ form.named :: (form.tail ++ rest)) := by
    simp [tokens, List.isEmpty_iff.1 noAlias]
  rw [tokensEq,
    form.front.readMember_recognised frontRecognised noConstructor behind,
    form.readTypedMember_eq]
  rfl

/-- An alias ends it behind its first word, a modifier that is none in front
of its type, and a constructor is none to begin with. -/
theorem exists_leavingOut (lost : form.isRecognised = false ∨
      form.front.isConstructed enclosing = true) (rest : List Token) :
    ∃ behind, readMember enclosing (form.tokens ++ rest) =
      leavingOut .leftOut behind := by
  rw [tokens, List.append_assoc]
  cases frontRecognised : form.front.isRecognised with
  | false => exact ⟨_, form.front.readMember_unrecognised frontRecognised _ _⟩
  | true =>
      rcases lost with unrecognised | constructed
      · rw [isRecognised, frontRecognised, Bool.true_and] at unrecognised
        have isAlias := form.isAlias
        generalize form.aliasTokens = aliasTokens at isAlias unrecognised
        cases isAlias with
        | absent => cases unrecognised
        | present isWord isFirst isSecond =>
            exact ⟨_, form.front.readMember_leftOut enclosing isWord
              (isMark_unique isFirst (by decide))
              (isMark_unique isFirst (by decide))
              (isMark_unique isFirst (by decide))⟩
      · exact ⟨_, form.front.readMember_constructed frontRecognised
          constructed _⟩

end

end MethodForm

/-- In the body of a type, a method is read as what it says, and the reader
is left behind it, if all its modifiers are taken for ones, its interface has
no alias and it is not taken for a constructor.  Otherwise the method is left
out. -/
theorem readMember_methodForm (form : MethodForm) (enclosing : String)
    (rest : List Token) :
    (form.isRecognised = true →
      form.front.isConstructed (some enclosing) = false →
        readMember (some enclosing) (form.tokens ++ rest) =
          .ok (.complete (.method form.method), rest)) ∧
    (form.isRecognised = false ∨
        form.front.isConstructed (some enclosing) = true →
      ∀ member behind, readMember (some enclosing) (form.tokens ++ rest) =
        .ok (member, behind) → member = .leftOut) := by
  constructor
  · intro recognised noConstructor
    exact MethodForm.readMember_recognised recognised noConstructor rest
  · intro lost member behind read
    obtain ⟨others, isLeftOut⟩ := MethodForm.exists_leavingOut lost rest
    rw [isLeftOut] at read
    obtain ⟨_, _, answer⟩ := exists_of_map_eq_ok read
    cases answer
    rfl

def loadForm : MethodForm where
  front :=
    { modifiers := [.asyncWord]
      modifierTokens := [⟨"", .word "async"⟩]
      typeTokens :=
        [⟨" ", .word "Task"⟩, ⟨"", .mark '<'⟩, ⟨"", .word "int"⟩,
          ⟨"", .mark '>'⟩]
      written := rfl
      plain := by decide
      isType := .value (.named (.plain rfl (by decide)
        (.last (@AreArguments.present ⟨"", .mark '<'⟩ ⟨"", .mark '>'⟩
          [⟨"", .word "int"⟩] rfl rfl (.inner rfl rfl rfl .nil)))) .none) }
  aliasTokens := []
  interfaceTokens := [⟨" ", .word "I"⟩, ⟨"", .mark '.'⟩]
  named := ⟨"", .word "Load"⟩
  name := "Load"
  argumentTokens := []
  opening := ⟨"", .mark '('⟩
  parameters := [⟨"count", "int"⟩]
  parameterTokens :=
    [⟨"", .word "int"⟩, ⟨" ", .word "count"⟩, ⟨" ", .mark '='⟩,
      ⟨" ", .literal "1"⟩, ⟨"", .mark ')'⟩]
  constraintTokens := []
  bodyTokens := [⟨" ", .arrow⟩, ⟨" ", .literal "2"⟩, ⟨"", .mark ';'⟩]
  isAlias := .absent
  isInterface := @IsInterface.part ⟨" ", .word "I"⟩ ⟨"", .mark '.'⟩ [] []
    rfl .absent rfl .absent
  isName := rfl
  begins := by decide
  areArguments := .absent
  opens := rfl
  isParameterList := .some (@AreParameters.last _
    [⟨"", .word "int"⟩, ⟨" ", .word "count"⟩, ⟨" ", .mark '='⟩,
      ⟨" ", .literal "1"⟩] _
    (@IsParameter.typed [] [] [⟨"", .word "int"⟩]
      [⟨" ", .mark '='⟩, ⟨" ", .literal "1"⟩] ⟨" ", .word "count"⟩ "count"
      ⟨[], rfl, nofun⟩ nofun
      (.named (.plain rfl (by decide) (.last .absent)) .none) rfl
      (.present rfl (.neutral rfl rfl rfl .nil))) rfl)
  areConstraints := .nil
  isBody := @IsMethodBody.expression ⟨" ", .arrow⟩ ⟨"", .mark ';'⟩
    [⟨" ", .literal "2"⟩] rfl (.neutral rfl rfl rfl .nil) rfl

def pairForm : MethodForm where
  front :=
    { modifiers := [.partialWord]
      modifierTokens := [⟨"", .word "partial"⟩]
      typeTokens :=
        [⟨" ", .mark '('⟩, ⟨"", .word "int"⟩, ⟨"", .mark ','⟩,
          ⟨" ", .word "int"⟩, ⟨"", .mark ')'⟩]
      written := rfl
      plain := by decide
      isType := .value (@IsBareType.tuple _ ⟨" ", .mark '('⟩ ⟨"", .mark ')'⟩
        [⟨"", .word "int"⟩, ⟨"", .mark ','⟩, ⟨" ", .word "int"⟩] [] rfl
        (.neutral rfl rfl (.neutral rfl rfl (.neutral rfl rfl .nil))) rfl
        .none) }
  aliasTokens := []
  interfaceTokens := []
  named := ⟨" ", .word "Pair"⟩
  name := "Pair"
  argumentTokens := []
  opening := ⟨"", .mark '('⟩
  parameters := []
  parameterTokens := [⟨"", .mark ')'⟩]
  constraintTokens := []
  bodyTokens := [⟨"", .mark ';'⟩]
  isAlias := .absent
  isInterface := .absent
  isName := rfl
  begins := by decide
  areArguments := .absent
  opens := rfl
  isParameterList := .empty rfl
  areConstraints := .nil
  isBody := .absent rfl

/-- The first method is read, the second one is left out. -/
theorem loadForm_read_pairForm_leftOut :
    loadForm.isRecognised = true ∧
      loadForm.front.isConstructed (some "C") = false ∧
      readMember (some "C") (loadForm.tokens ++ pairForm.tokens) =
        .ok (.complete (.method
          ⟨"Load", "Task<int>", [⟨"count", "int"⟩], [.asyncWord]⟩),
          pairForm.tokens) ∧
      pairForm.isRecognised = false ∧
      readMember (some "C") (pairForm.tokens ++ []) = .ok (.leftOut, []) := by
  have recognised : loadForm.isRecognised = true := by decide
  have noConstructor : loadForm.front.isConstructed (some "C") = false := by
    decide
  have unrecognised : pairForm.isRecognised = false := by decide
  obtain ⟨member, read⟩ : ∃ member,
      readMember (some "C") (pairForm.tokens ++ []) = .ok (member, []) :=
    ⟨.leftOut, by decide +kernel⟩
  have leftOut : member = .leftOut :=
    (readMember_methodForm pairForm "C" []).2 (.inl unrecognised) member []
      read
  subst leftOut
  exact ⟨recognised, noConstructor,
    (readMember_methodForm loadForm "C" pairForm.tokens).1 recognised
      noConstructor,
    unrecognised, read⟩

end ClassDiagram.Reading

namespace ClassDiagram

/-- Neither an alias nor a tuple keeps a method from being one, but both
lose it. -/
theorem aliased_and_tuple_methods_lost :
    readSource "class C : I { void I.M() { } }" =
        .ok [.type ⟨.classWord, "C", none, []⟩
          [.method ⟨"M", "void", [], []⟩]] ∧
      readSource "class C : I { void global::I.M() { } }" =
        .ok [.type ⟨.classWord, "C", none, []⟩ []] ∧
      readSource "class C { partial (int, int) M(); }" =
        .ok [.type ⟨.classWord, "C", none, []⟩ []] := by
  refine ⟨?_, ?_, ?_⟩ <;> decide +kernel

end ClassDiagram
