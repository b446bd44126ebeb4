import ClassDiagram.Proofs.Reading.NamedOutlines

/-!
# Causes of refusals

A cause for which a source is refused may name a mark or a declaration.  The
marks are brackets, whatever stands in the source, and the declarations are
named by words of the source or by several with dots.  So the causes are as
harmless in a message as names are in a diagram.

Every routine of the reader either refuses for a cause of its own or hands on
the refusal of a routine that it calls.  The reader itself makes steps until it
is stuck, and what was read and left is named all the way.
-/

namespace ClassDiagram

open Source (Token Lexeme WordsAreNames)

/-- The marks that can be missed. -/
def brackets : List Char :=
  [')', ']', '\x7b', '\x7d']

/-- The mark of a cause is a bracket, and the name in it is one. -/
def SyntaxFault.Named : SyntaxFault → Prop
  | .missingMark c => c ∈ brackets
  | .missingTypeEnd name | .missingTypeBody name
  | .missingEnumerationBody name | .missingMethodBody name =>
      IsNameText name
  | _ => True

namespace Reading

structure RefusesNamed {α : Type} (answer : Except Refusal α) : Prop where
  cause : ∀ refusal, answer = .error refusal → refusal.fault.Named

namespace RefusesNamed

variable {α β : Type} {answer : Except Refusal α}

theorem ok (value : α) : RefusesNamed (.ok value) :=
  ⟨nofun⟩

theorem refuseAt {fault : SyntaxFault} {tokens : List Token}
    (named : fault.Named) :
    RefusesNamed (Reading.refuseAt fault tokens : Except Refusal α) := by
  refine ⟨fun refusal refused => ?_⟩
  cases refused
  exact named

theorem map (named : RefusesNamed answer) (convert : α → β) :
    RefusesNamed (answer.map convert) := by
  cases answer with
  | error refusal =>
      refine ⟨fun _ refused => ?_⟩
      cases refused
      exact named.cause refusal rfl
  | ok value =>
      exact .ok (convert value)

/-- A refusal is handed on by whoever called the routine. -/
theorem handedOn {refusal : Refusal} (refused : answer = .error refusal)
    (named : RefusesNamed answer) :
    RefusesNamed (.error refusal : Except Refusal β) := by
  refine ⟨fun _ again => ?_⟩
  cases again
  exact named.cause refusal refused

end RefusesNamed

/-! ## Groups -/

theorem closer?_mem_brackets {token : Token} {closer : Char}
    (opens : closer? token = some closer) : closer ∈ brackets := by
  obtain ⟨lead, lexeme⟩ := token
  cases lexeme with
  | mark c =>
      simp only [closer?, closingMark?] at opens
      split at opens <;> cases opens <;> decide
  | _ =>
      cases opens

theorem skipGroups_refusesNamed {wanted : List Char} (tokens : List Token)
    (closers : ∀ c ∈ wanted, c ∈ brackets) :
    RefusesNamed (skipGroups wanted tokens) := by
  fun_induction skipGroups wanted tokens with
  | case1 tokens =>
      exact .ok tokens
  | case2 wanted outer | case6 wanted outer =>
      exact .refuseAt (closers wanted List.mem_cons_self)
  | case3 wanted outer token rest closer opens inductionHypothesis =>
      exact inductionHypothesis
        (List.forall_mem_cons.2 ⟨closer?_mem_brackets opens, closers⟩)
  | case4 wanted outer token rest notOpening notClosing
      inductionHypothesis =>
      exact inductionHypothesis closers
  | case5 outer token rest notOpening found closing inductionHypothesis =>
      exact inductionHypothesis (List.forall_mem_cons.1 closers).2

theorem skipGroup_refusesNamed {closer : Char} (isCloser : closer ∈ brackets)
    (tokens : List Token) : RefusesNamed (skipGroup closer tokens) :=
  skipGroups_refusesNamed tokens (List.forall_mem_singleton.2 isCloser)

theorem skipUntil_refusesNamed (stops : List Char) (tokens : List Token) :
    RefusesNamed (skipUntil stops tokens) := by
  fun_induction skipUntil stops tokens with
  | case1 =>
      exact .refuseAt trivial
  | case2 =>
      exact .ok _
  | case3 token rest _ closer opens refusal refused =>
      exact .handedOn refused
        (skipGroup_refusesNamed (closer?_mem_brackets opens) rest)
  | case4 _ _ _ _ _ _ _ inductionHypothesis =>
      exact inductionHypothesis
  | case5 =>
      exact .refuseAt trivial
  | case6 _ _ _ _ _ inductionHypothesis =>
      exact inductionHypothesis

theorem skipStatement_refusesNamed (tokens : List Token) :
    RefusesNamed (skipStatement tokens) :=
  (skipUntil_refusesNamed [';'] tokens).map List.tail

theorem skipAttributes_refusesNamed (tokens : List Token) :
    RefusesNamed (skipAttributes tokens) := by
  fun_induction skipAttributes tokens with
  | case1 | case4 =>
      exact .ok _
  | case2 token rest _ refusal refused =>
      exact .handedOn refused (skipGroup_refusesNamed (by decide) rest)
  | case3 _ _ _ _ _ inductionHypothesis =>
      exact inductionHypothesis

theorem skipMember_refusesNamed (tokens : List Token) :
    RefusesNamed (skipMember tokens) := by
  fun_induction skipMember tokens with
  | case1 | case2 | case3 | case5 =>
      exact .ok _
  | case4 token rest _ _ closer opens refusal refused =>
      exact .handedOn refused
        (skipGroup_refusesNamed (closer?_mem_brackets opens) rest)
  | case6 | case7 =>
      rename_i inductionHypothesis
      exact inductionHypothesis

theorem skipMethodBody_refusesNamed {name : String} (named : IsNameText name)
    (tokens : List Token) : RefusesNamed (skipMethodBody name tokens) := by
  fun_induction skipMethodBody name tokens with
  | case1 | case5 =>
      exact .refuseAt named
  | case2 token rest =>
      exact skipGroup_refusesNamed (by decide) rest
  | case3 token rest =>
      exact skipStatement_refusesNamed rest
  | case4 =>
      exact .ok _
  | case6 token rest _ _ _ _ closer opens refusal refused =>
      exact .handedOn refused
        (skipGroup_refusesNamed (closer?_mem_brackets opens) rest)
  | case7 | case8 =>
      rename_i inductionHypothesis
      exact inductionHypothesis

/-! ## Words and marks that must be next -/

theorem expectMark_refusesNamed {c : Char} (isBracket : c ∈ brackets)
    (tokens : List Token) : RefusesNamed (expectMark c tokens) := by
  cases tokens with
  | nil =>
      exact .refuseAt isBracket
  | cons token rest =>
      rw [expectMark]
      split
      · exact .ok rest
      · exact .refuseAt isBracket

theorem expectWord_refusesNamed {fault : SyntaxFault} {tokens : List Token}
    (named : fault.Named) : RefusesNamed (expectWord fault tokens) := by
  cases tokens with
  | nil =>
      exact .refuseAt named
  | cons token rest =>
      rw [expectWord]
      split
      · exact .ok _
      · exact .refuseAt named

/-! ## Parameters -/

theorem skipTypeSuffixes_refusesNamed (tokens : List Token) :
    RefusesNamed (skipTypeSuffixes tokens) := by
  fun_induction skipTypeSuffixes tokens with
  | case1 | case5 =>
      exact .ok _
  | case2 _ _ _ inductionHypothesis =>
      exact inductionHypothesis
  | case3 token rest _ _ refusal refused =>
      exact .handedOn refused (skipGroup_refusesNamed (by decide) rest)
  | case4 _ _ _ _ _ _ inductionHypothesis =>
      exact inductionHypothesis

theorem skipType?_refusesNamed (tokens : List Token) :
    RefusesNamed (skipType? tokens) := by
  unfold skipType?
  split
  · exact .ok none
  · rename_i token rest _
    split
    · split
      · rename_i refused
        exact .handedOn refused (skipGroup_refusesNamed (by decide) rest)
      · exact (skipTypeSuffixes_refusesNamed _).map some
    · split
      · exact (skipTypeSuffixes_refusesNamed _).map some
      · exact .ok none

theorem skipDefaultValue_refusesNamed (tokens : List Token) :
    RefusesNamed (skipDefaultValue tokens) := by
  unfold skipDefaultValue
  split
  · exact skipUntil_refusesNamed _ _
  · exact .ok tokens

theorem readTypedParameter_refusesNamed (tokens : List Token) :
    RefusesNamed (readTypedParameter tokens) := by
  unfold readTypedParameter
  split
  · rename_i refused
    exact .handedOn refused (skipType?_refusesNamed tokens)
  · exact .refuseAt trivial
  · split
    · rename_i refused
      exact .handedOn refused (expectWord_refusesNamed trivial)
    · exact (skipDefaultValue_refusesNamed _).map _

theorem readParameter_refusesNamed (tokens : List Token) :
    RefusesNamed (readParameter tokens) := by
  unfold readParameter
  split
  · rename_i refused
    exact .handedOn refused (skipAttributes_refusesNamed tokens)
  · split
    · exact readTypedParameter_refusesNamed []
    · split
      · exact .ok _
      · exact readTypedParameter_refusesNamed _

theorem readParameters_refusesNamed (tokens : List Token) :
    RefusesNamed (readParameters tokens) := by
  fun_induction readParameters tokens with
  | case1 tokens refusal refused =>
      exact .handedOn refused (readParameter_refusesNamed tokens)
  | case2 _ _ _ _ _ inductionHypothesis =>
      exact inductionHypothesis.map _
  | case3 _ _ rest =>
      exact (expectMark_refusesNamed (by decide) rest).map _

theorem readParameterList_refusesNamed (tokens : List Token) :
    RefusesNamed (readParameterList tokens) := by
  unfold readParameterList
  split
  · exact .ok _
  · exact readParameters_refusesNamed tokens

/-! ## Enumerations -/

theorem enterEnumeration_refusesNamed {name : String} (named : IsNameText name)
    (tokens : List Token) : RefusesNamed (enterEnumeration name tokens) := by
  fun_induction enterEnumeration name tokens with
  | case1 =>
      exact .refuseAt named
  | case2 =>
      exact .ok _
  | case3 _ _ _ inductionHypothesis =>
      exact inductionHypothesis

theorem skipGivenValue_refusesNamed (tokens : List Token) :
    RefusesNamed (skipGivenValue tokens) := by
  unfold skipGivenValue
  split
  · exact skipUntil_refusesNamed _ _
  · exact .ok tokens

theorem readVariant_refusesNamed (tokens : List Token) :
    RefusesNamed (readVariant tokens) := by
  unfold readVariant
  split
  · rename_i refused
    exact .handedOn refused (expectWord_refusesNamed trivial)
  · exact (skipGivenValue_refusesNamed _).map _

theorem readVariants_refusesNamed (tokens : List Token) :
    RefusesNamed (readVariants tokens) := by
  fun_induction readVariants tokens with
  | case1 tokens refusal refused =>
      exact .handedOn refused (skipAttributes_refusesNamed tokens)
  | case2 | case5 =>
      exact .ok _
  | case3 _ start _ _ refusal refused =>
      exact .handedOn refused (readVariant_refusesNamed start)
  | case4 =>
      rename_i inductionHypothesis
      exact inductionHypothesis.map _

theorem readEnumeration_refusesNamed (modifiers : List Modifier)
    {tokens : List Token} (words : WordsAreNames tokens) :
    RefusesNamed (readEnumeration modifiers tokens) := by
  unfold readEnumeration
  split
  · rename_i refused
    exact .handedOn refused (expectWord_refusesNamed trivial)
  · rename_i name behindName wordRead
    have named : IsNameText name :=
      (expectWord_yields wordRead).named words name List.mem_cons_self
    split
    · rename_i refused
      exact .handedOn refused (enterEnumeration_refusesNamed named behindName)
    · rename_i body _
      split
      · rename_i refused
        exact .handedOn refused (readVariants_refusesNamed body)
      · exact (expectMark_refusesNamed (by decide) _).map _

/-! ## Types -/

theorem readTypeParameters_refusesNamed (tokens : List Token) :
    RefusesNamed (readTypeParameters tokens) := by
  unfold readTypeParameters
  split
  · split
    · exact .refuseAt trivial
    · exact .ok _
  · exact .ok _

theorem enterType_refusesNamed {name : String} (named : IsNameText name)
    (tokens : List Token) : RefusesNamed (enterType name tokens) := by
  fun_induction enterType name tokens with
  | case1 | case4 =>
      exact .refuseAt named
  | case2 | case3 =>
      exact .ok _
  | case5 token rest _ _ _ closer opens refusal refused =>
      exact .handedOn refused
        (skipGroup_refusesNamed (closer?_mem_brackets opens) rest)
  | case6 | case7 =>
      rename_i inductionHypothesis
      exact inductionHypothesis

theorem readTypeOpening_refusesNamed (kind : TypeKind)
    (modifiers : List Modifier) {tokens : List Token}
    (words : WordsAreNames tokens) :
    RefusesNamed (readTypeOpening kind modifiers tokens) := by
  unfold readTypeOpening
  split
  · rename_i refused
    exact .handedOn refused (expectWord_refusesNamed trivial)
  · rename_i name behindName wordRead
    have named : IsNameText name :=
      (expectWord_yields wordRead).named
        (WordsAreNames.passed words (skipRecordWord_passed kind tokens))
        name List.mem_cons_self
    split
    · rename_i refused
      exact .handedOn refused (readTypeParameters_refusesNamed behindName)
    · exact (enterType_refusesNamed named _).map _

/-! ## Methods -/

theorem leaveOut_refusesNamed {α : Type} (tokens : List Token) :
    RefusesNamed (leaveOut tokens : Result (Option α)) :=
  (skipMember_refusesNamed tokens).map _

theorem readMethodTail_refusesNamed {name : String} (named : IsNameText name)
    (returnType : String) (modifiers : List Modifier)
    (tokens : List Token) :
    RefusesNamed (readMethodTail name returnType modifiers tokens) := by
  unfold readMethodTail
  split
  · rename_i refused
    exact .handedOn refused (readParameterList_refusesNamed tokens)
  · exact (skipMethodBody_refusesNamed named _).map _

theorem readMethod_refusesNamed (enclosing : Option String)
    (modifiers : List Modifier) {tokens : List Token}
    (words : WordsAreNames tokens) :
    RefusesNamed (readMethod enclosing modifiers tokens) := by
  unfold readMethod
  split
  · exact leaveOut_refusesNamed tokens
  · split
    · rename_i refused
      exact .handedOn refused (skipType?_refusesNamed tokens)
    · exact leaveOut_refusesNamed tokens
    · exact .ok _
    · rename_i token rest typed
      split
      · exact leaveOut_refusesNamed _
      · rename_i first plain
        have isWord := (Option.filter_eq_some_iff.1 plain).1
        have named : IsNameText (readMemberName first rest).1 :=
          (readMemberName_yields isWord).named
            (WordsAreNames.passed words (skipType?_passed typed)) _
            List.mem_cons_self
        dsimp only
        split
        · exact readMethodTail_refusesNamed named _ modifiers _
        · exact leaveOut_refusesNamed _

/-! ## Members -/

theorem readModified_refusesNamed (enclosing : Option String)
    (modifiers : List Modifier) {tokens : List Token}
    (words : WordsAreNames tokens) :
    RefusesNamed (readModified enclosing modifiers tokens) := by
  cases tokens with
  | nil =>
      exact .ok _
  | cons token rest =>
      have behind : WordsAreNames rest :=
        WordsAreNames.suffix words (List.suffix_cons token rest)
      rw [readModified]
      split
      · exact .ok _
      · split
        · exact (readTypeOpening_refusesNamed _ modifiers behind).map _
        · split
          · exact (readEnumeration_refusesNamed modifiers behind).map _
          · exact (readMethod_refusesNamed enclosing modifiers words).map _

theorem readMember_refusesNamed (enclosing : Option String)
    {tokens : List Token} (words : WordsAreNames tokens) :
    RefusesNamed (readMember enclosing tokens) := by
  unfold readMember
  split
  · rename_i refused
    exact .handedOn refused (skipAttributes_refusesNamed tokens)
  · rename_i start skipped
    exact readModified_refusesNamed enclosing _
      (WordsAreNames.passed words
        ((skipAttributes_passed skipped).trans (readModifiers_passed start)))

/-! ## Namespaces -/

theorem readNameParts_refusesNamed (name : String) (tokens : List Token) :
    RefusesNamed (readNameParts name tokens) := by
  fun_induction readNameParts name tokens with
  | case1 | case3 | case6 =>
      exact .ok _
  | case2 | case5 =>
      exact .refuseAt trivial
  | case4 =>
      rename_i inductionHypothesis
      exact inductionHypothesis

theorem readDottedName_refusesNamed (tokens : List Token) :
    RefusesNamed (readDottedName tokens) := by
  unfold readDottedName
  split
  · rename_i refused
    exact .handedOn refused (expectWord_refusesNamed trivial)
  · exact readNameParts_refusesNamed _ _

theorem readScopeOpening_refusesNamed (tokens : List Token) :
    RefusesNamed (readScopeOpening tokens) := by
  unfold readScopeOpening
  split
  · rename_i refused
    exact .handedOn refused (readDottedName_refusesNamed tokens)
  · split
    · exact .ok _
    · exact (expectMark_refusesNamed (by decide) _).map _

/-! ## Where the reader is stuck -/

theorem closeAll_refusesNamed {frames : Frames} (members : List Declaration)
    (openings : ∀ frame ∈ frames, (frame.opening.close []).Named) :
    RefusesNamed (closeAll frames members) := by
  fun_induction closeAll frames members with
  | case1 =>
      exact .ok _
  | case2 name before frames members inductionHypothesis =>
      exact inductionHypothesis (List.forall_mem_cons.1 openings).2
  | case3 =>
      exact .refuseAt trivial
  | case4 header before frames members =>
      have opening := (List.forall_mem_cons.1 openings).1
      exact .refuseAt opening.1.name

theorem StuckAt.named {state : ReaderState} {refusal : Refusal}
    (stuck : StuckAt state refusal) (named : state.Named) :
    refusal.fault.Named := by
  cases stuck with
  | ended unclosed =>
      exact (closeAll_refusesNamed _ named.openings).cause refusal unclosed
  | stray closing noBody =>
      exact trivial
  | enter scopeWord outside refused =>
      exact (readScopeOpening_refusesNamed _).cause refusal refused
  | member inside noSeparator noScope refused =>
      exact (readMember_refusesNamed _ named.tokens).cause refusal refused

/-- A source whose words are names is refused for a named cause only. -/
theorem readOutline_refusesNamed {tokens : List Token}
    (words : WordsAreNames tokens) : RefusesNamed (readOutline tokens) := by
  refine ⟨fun refusal refused => ?_⟩
  obtain ⟨final, run, stuck⟩ :=
    exists_run_of_refusal ⟨[], [], tokens⟩ refused
  exact stuck.named (run.named ⟨words, trivial, nofun, nofun⟩)

end Reading

end ClassDiagram
