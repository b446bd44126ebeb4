import ClassDiagram.Proofs.Reading.CommaLists

/-!
# Written enumerations

An enumeration is read as the names of its members, in their order, whatever
attributes and values they have and whether or not a comma stands behind the
last one.  A member without a value has to end with a comma or with the body:
if another member follows without one, the source is refused there.
-/

namespace ClassDiagram.Reading

open Source (Token Lexeme)

/-! ## Members -/

/-- A member as it is written. -/
inductive IsVariant : String → List Token → Prop
  | named {attributes value : List Token} {named : Token} {name : String}
      (sections : AreAttributeSections attributes)
      (isName : word? named = some name) (isValue : IsGivenValue value) :
      IsVariant name (attributes ++ named :: value)

inductive IsValuelessVariant : String → List Token → Prop
  | named {attributes : List Token} {named : Token} {name : String}
      (sections : AreAttributeSections attributes)
      (isName : word? named = some name) :
      IsValuelessVariant name (attributes ++ [named])

/-- Members with commas between them, and perhaps one behind the last. -/
inductive AreVariants : List String → List Token → Prop
  | separated {names : List String} {tokens : List Token}
      (are : AreSeparated IsVariant names tokens) : AreVariants names tokens
  | ended {names : List String} {tokens : List Token}
      (are : AreEnded IsVariant names tokens) : AreVariants names tokens

theorem IsGivenValue.skipGivenValue_eq {value : List Token} {stop : Token}
    (isValue : IsGivenValue value)
    (isStop : [',', '\x7d'].any stop.isMark = true) (rest : List Token) :
    skipGivenValue (value ++ stop :: rest) = .ok (stop :: rest) := by
  cases isValue with
  | absent =>
      apply skipGivenValue_none
      simp only [List.any_cons, List.any_nil, Bool.or_false, Bool.or_eq_true]
        at isStop
      rcases isStop with isMark | isMark <;>
        exact isMark_unique isMark (by decide)
  | @present equals value isEquals nested =>
      have given : atMark '=' (equals :: value ++ stop :: rest) = true :=
        isEquals
      rw [skipGivenValue, if_pos given]
      exact (nested.untilClosing rfl).skipUntil_eq isStop rest

/-- Behind its attributes, a member is read from its name on. -/
theorem readVariants_behindAttributes {attributes rest : List Token}
    (sections : AreAttributeSections attributes) {named : Token}
    {name : String} (isName : word? named = some name) :
    readVariants (attributes ++ named :: rest) =
      readBareVariants (named :: rest) := by
  have noAttribute : atMark '[' (named :: rest) = false :=
    isMark_eq_false_of_isAnyWord (isAnyWord_of_word? isName) '['
  apply readVariants_eq
  rw [sections.skipAttributes_eq]
  exact skipAttributes_none noAttribute

theorem readVariant_of_value {named : Token} {name : String}
    {tokens rest : List Token} (isName : word? named = some name)
    (skipped : skipGivenValue tokens = .ok rest) :
    readVariant (named :: tokens) = .ok (name, rest) := by
  rw [readVariant, expectWord_of_word isName]
  simp only [skipped]
  rfl

namespace IsVariant

variable {name : String} {tokens rest : List Token}

/-- A member in front of a comma is one more than what follows. -/
theorem readVariants_comma (isVariant : IsVariant name tokens)
    {comma : Token} (isComma : comma.isMark ',' = true) :
    readVariants (tokens ++ comma :: rest) =
      (readVariants rest).map fun (others, behind) =>
        (name :: others, behind) := by
  cases isVariant with
  | named sections isName isValue =>
      have isStop : [',', '\x7d'].any comma.isMark = true := by simp [isComma]
      have valueSkipped := isValue.skipGivenValue_eq isStop rest
      rw [List.append_assoc, List.cons_append,
        readVariants_behindAttributes sections isName]
      exact readBareVariants_more (readVariant_of_value isName valueSkipped)
        isComma

/-- A member in front of the end of the body is the last one. -/
theorem readVariants_closing (isVariant : IsVariant name tokens)
    {closing : Token} (closes : closing.isMark '\x7d' = true) :
    readVariants (tokens ++ closing :: rest) =
      .ok ([name], closing :: rest) := by
  cases isVariant with
  | named sections isName isValue =>
      have isStop : [',', '\x7d'].any closing.isMark = true := by simp [closes]
      have valueSkipped := isValue.skipGivenValue_eq isStop rest
      have noComma : atMark ',' (closing :: rest) = false :=
        isMark_unique closes (by decide)
      rw [List.append_assoc, List.cons_append,
        readVariants_behindAttributes sections isName]
      exact readBareVariants_last (readVariant_of_value isName valueSkipped)
        noComma

/-- A member begins with an attribute or with its name. -/
theorem atMark_eq_false (isVariant : IsVariant name tokens) {c : Char}
    (other : '[' ≠ c) (rest : List Token) :
    atMark c (tokens ++ rest) = false := by
  cases isVariant with
  | @named attributes value token _ sections isName isValue =>
      by_cases bare : attributes = []
      · rw [bare]
        exact isMark_eq_false_of_isAnyWord (isAnyWord_of_word? isName) c
      · obtain ⟨opening, behind, rfl, opens⟩ := sections.exists_bracket bare
        exact isMark_unique opens other

end IsVariant

/-- A member without a value is the last one in front of another member. -/
theorem IsValuelessVariant.readVariants_eq {name : String}
    {tokens rest : List Token} (isVariant : IsValuelessVariant name tokens)
    (noValue : atMark '=' rest = false) (noComma : atMark ',' rest = false) :
    readVariants (tokens ++ rest) = .ok ([name], rest) := by
  cases isVariant with
  | named sections isName =>
      have read := readVariant_of_value isName (skipGivenValue_none noValue)
      rw [List.append_assoc, List.singleton_append,
        readVariants_behindAttributes sections isName]
      exact readBareVariants_last read noComma

/-- Members with a comma behind each are read in front of whatever members
follow. -/
theorem AreEnded.readVariants_eq {names : List String} {tokens : List Token}
    (ended : AreEnded IsVariant names tokens) (rest : List Token) :
    readVariants (tokens ++ rest) =
      (readVariants rest).map fun (others, behind) =>
        (names ++ others, behind) := by
  induction ended with
  | nil =>
      rw [List.nil_append]
      cases readVariants rest <;> rfl
  | cons isItem isComma further inductionHypothesis =>
      rw [List.append_assoc, List.cons_append,
        isItem.readVariants_comma isComma, inductionHypothesis]
      cases readVariants rest <;> rfl

/-- Members are read up to the brace behind them. -/
theorem AreVariants.readVariants_eq {names : List String}
    {tokens : List Token} (are : AreVariants names tokens) {closing : Token}
    (closes : closing.isMark '\x7d' = true) (rest : List Token) :
    readVariants (tokens ++ closing :: rest) =
      .ok (names, closing :: rest) := by
  have noMembers : readVariants (closing :: rest) =
      .ok ([], closing :: rest) := by
    have noAttribute : atMark '[' (closing :: rest) = false :=
      isMark_unique closes (by decide)
    rw [Reading.readVariants_eq (skipAttributes_none noAttribute)]
    exact readBareVariants_ended closes
  cases are with
  | separated are =>
      cases are with
      | none => exact noMembers
      | some ended isLast =>
          rw [List.append_assoc, ended.readVariants_eq,
            isLast.readVariants_closing closes]
          rfl
  | ended are =>
      rw [are.readVariants_eq, noMembers]
      simp only [Except.map, List.append_nil]

/-! ## Whole enumerations -/

/-- An enumeration behind its keyword and up to its members. -/
structure EnumerationHead where
  named : Token
  name : String
  /-- A colon and the underlying type, if it is given. -/
  underlying : List Token
  opening : Token
  isName : word? named = some name
  noBlock : ∀ token ∈ underlying, token.isMark '\x7b' = false
  opens : opening.isMark '\x7b' = true

namespace EnumerationHead

variable (head : EnumerationHead)

def tokens : List Token :=
  head.named :: (head.underlying ++ [head.opening])

theorem enterEnumeration_eq {name : String} {underlying : List Token}
    {opening : Token}
    (noBlock : ∀ token ∈ underlying, token.isMark '\x7b' = false)
    (opens : opening.isMark '\x7b' = true) (rest : List Token) :
    enterEnumeration name (underlying ++ opening :: rest) = .ok rest := by
  induction underlying with
  | nil => rw [List.nil_append, enterEnumeration, if_pos opens]
  | cons token others inductionHypothesis =>
      obtain ⟨notOpening, further⟩ := List.forall_mem_cons.1 noBlock
      rw [List.cons_append, enterEnumeration, notOpening,
        if_neg Bool.false_ne_true]
      exact inductionHypothesis further

/-- Behind its head, the body of an enumeration is read. -/
theorem readEnumeration_eq (modifiers : List Modifier) (body : List Token) :
    readEnumeration modifiers (head.tokens ++ body) =
      (readEnumerationBody body).map fun (names, rest) =>
        (⟨head.name, modifiers, names⟩, rest) := by
  have tokensEq : head.tokens ++ body =
      head.named :: (head.underlying ++ head.opening :: body) := by
    simp [tokens]
  rw [tokensEq]
  exact Reading.readEnumeration_eq (expectWord_of_word head.isName _)
    (enterEnumeration_eq head.noBlock head.opens body)

end EnumerationHead

theorem expectMark_of_atMark_eq_false {c : Char} {tokens : List Token}
    (absent : atMark c tokens = false) :
    expectMark c tokens = refuseAt (.missingMark c) tokens := by
  cases tokens with
  | nil => rfl
  | cons token rest =>
      have noMark : token.isMark c = false := absent
      rw [expectMark, noMark, if_neg Bool.false_ne_true]

/-- An enumeration is read as the names of its members, in their order, up to
the brace behind them and a semicolon behind that.  If a member without a
value is followed by another one without a comma, the source is refused in
front of that one. -/
theorem readEnumeration_variants (head : EnumerationHead)
    (modifiers : List Modifier) :
    (∀ {names : List String} {tokens : List Token} {closing : Token},
      AreVariants names tokens → closing.isMark '\x7d' = true →
        ∀ rest, readEnumeration modifiers
            (head.tokens ++ (tokens ++ closing :: rest)) =
          .ok (⟨head.name, modifiers, names⟩, skipMark ';' rest)) ∧
    (∀ {names : List String} {name nextName : String}
      {front member next : List Token},
      AreEnded IsVariant names front → IsValuelessVariant name member →
        IsVariant nextName next →
          ∀ rest, readEnumeration modifiers
              (head.tokens ++ (front ++ (member ++ (next ++ rest)))) =
            refuseAt (.missingMark '\x7d') (next ++ rest)) := by
  constructor
  · intro names tokens closing are closes rest
    rw [head.readEnumeration_eq, readEnumerationBody,
      are.readVariants_eq closes]
    simp only [expectMark_of_isMark closes]
    rfl
  · intro names name nextName front member next ended isMember isNext rest
    have notClosing : atMark '\x7d' (next ++ rest) = false :=
      isNext.atMark_eq_false (by decide) rest
    have memberRead := isMember.readVariants_eq
      (isNext.atMark_eq_false (by decide) rest)
      (isNext.atMark_eq_false (by decide) rest)
    have missing := expectMark_of_atMark_eq_false notClosing
    rw [head.readEnumeration_eq, readEnumerationBody, ended.readVariants_eq,
      memberRead]
    simp only [Except.map, missing]
    rfl

def levelHead : EnumerationHead where
  named := ⟨" ", .word "Level"⟩
  name := "Level"
  underlying := [⟨" ", .mark ':'⟩, ⟨" ", .word "byte"⟩]
  opening := ⟨" ", .mark '\x7b'⟩
  isName := rfl
  noBlock := by decide
  opens := rfl

def lowTokens : List Token :=
  [⟨"", .mark '['⟩, ⟨"", .word "A"⟩, ⟨"", .mark ']'⟩] ++
    ⟨" ", .word "Low"⟩ :: ⟨" ", .mark '='⟩ :: [⟨" ", .word "Max"⟩,
      ⟨"", .mark '('⟩, ⟨"", .literal "0"⟩, ⟨"", .mark ','⟩,
      ⟨" ", .literal "1"⟩, ⟨"", .mark ')'⟩]

theorem lowTokens_written : IsVariant "Low" lowTokens := by
  have isSection : IsAttributeSection
      [⟨"", .mark '['⟩, ⟨"", .word "A"⟩, ⟨"", .mark ']'⟩] :=
    @IsAttributeSection.brackets ⟨"", .mark '['⟩ ⟨"", .mark ']'⟩
      [⟨"", .word "A"⟩] rfl rfl (.neutral rfl rfl .nil)
  have value : NestedWithout [','] [⟨" ", .word "Max"⟩, ⟨"", .mark '('⟩,
      ⟨"", .literal "0"⟩, ⟨"", .mark ','⟩, ⟨" ", .literal "1"⟩,
      ⟨"", .mark ')'⟩] :=
    .neutral rfl rfl rfl (@NestedWithout.group _ ⟨"", .mark '('⟩
      ⟨"", .mark ')'⟩ _
      [⟨"", .literal "0"⟩, ⟨"", .mark ','⟩, ⟨" ", .literal "1"⟩] [] rfl rfl
      rfl (.neutral rfl rfl (.neutral rfl rfl (.neutral rfl rfl .nil))) .nil)
  exact .named ⟨[_], rfl, List.forall_mem_singleton.2 isSection⟩ rfl
    (.present rfl value)

def highTokens : List Token :=
  [⟨" ", .word "High"⟩]

/-- With a comma behind each member both are read; without one behind the
second of three the source is refused at the third. -/
theorem levels_read_or_refused :
    AreVariants ["Low", "High"] (lowTokens ++ ⟨"", .mark ','⟩ ::
        (highTokens ++ [⟨"", .mark ','⟩])) ∧
      readEnumeration [.publicWord] (levelHead.tokens ++
          (lowTokens ++ ⟨"", .mark ','⟩ ::
            (highTokens ++ [⟨"", .mark ','⟩]) ++
              [⟨" ", .mark '\x7d'⟩, ⟨"", .mark ';'⟩])) =
        .ok (⟨"Level", [.publicWord], ["Low", "High"]⟩, []) ∧
      AreEnded IsVariant ["Low"] (lowTokens ++ [⟨"", .mark ','⟩]) ∧
      IsValuelessVariant "High" highTokens ∧
      IsVariant "Top" [⟨" ", .word "Top"⟩] ∧
      readEnumeration [.publicWord] (levelHead.tokens ++
          (lowTokens ++ [⟨"", .mark ','⟩] ++ (highTokens ++
            ([⟨" ", .word "Top"⟩] ++ [⟨" ", .mark '\x7d'⟩])))) =
        .error ⟨.missingMark '\x7d', 2⟩ := by
  have noSections : AreAttributeSections [] :=
    ⟨[], rfl, List.forall_mem_nil _⟩
  have highVariant : IsVariant "High" highTokens :=
    .named noSections rfl .absent
  have highEnded : AreEnded IsVariant ["High"]
      (highTokens ++ [⟨"", .mark ','⟩]) :=
    .cons highVariant rfl .nil
  have lowEnded : AreEnded IsVariant ["Low"]
      (lowTokens ++ [⟨"", .mark ','⟩]) :=
    .cons lowTokens_written rfl .nil
  have variants : AreVariants ["Low", "High"]
      (lowTokens ++ ⟨"", .mark ','⟩ :: (highTokens ++ [⟨"", .mark ','⟩])) :=
    .ended (.cons lowTokens_written rfl highEnded)
  have high : IsValuelessVariant "High" highTokens := .named noSections rfl
  have top : IsVariant "Top" [⟨" ", .word "Top"⟩] :=
    .named noSections rfl .absent
  have read := readEnumeration_variants levelHead [.publicWord]
  exact ⟨variants, read.1 variants rfl [⟨"", .mark ';'⟩], lowEnded, high, top,
    read.2 lowEnded high top [⟨" ", .mark '\x7d'⟩]⟩

end ClassDiagram.Reading
