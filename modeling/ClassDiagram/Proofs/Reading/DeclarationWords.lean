import ClassDiagram.Proofs.Reading.Placement
import ClassDiagram.Proofs.Reading.YieldedNames

/-!
# Declaration words

A namespace, a type and an enumeration each begin with a word of their own,
and only a method does without one.  So an outline has no more of them than
its source has such words, in all scopes together, and a source with an entry
at the top has at least one.  The quick look at a source that searches for
such a word therefore turns no source with declarations away.
-/

namespace ClassDiagram

open Source (Token)

namespace Declaration

mutual

/-- The number of declarations that begin with a word, here and inside. -/
def wordedCount : Declaration → Nat
  | .scope _ members => 1 + wordedCountAll members
  | .type _ members => 1 + wordedCountAll members
  | .enumeration _ => 1
  | .method _ => 0

/-- The number of declarations that begin with a word, in a list and inside
its members. -/
def wordedCountAll : List Declaration → Nat
  | [] => 0
  | first :: others => first.wordedCount + wordedCountAll others

end

theorem wordedCountAll_append (left right : List Declaration) :
    wordedCountAll (left ++ right) =
      wordedCountAll left + wordedCountAll right := by
  induction left with
  | nil =>
      rw [List.nil_append, wordedCountAll, Nat.zero_add]
  | cons first others inductionHypothesis =>
      rw [List.cons_append, wordedCountAll, wordedCountAll,
        inductionHypothesis, Nat.add_assoc]

theorem wordedCountAll_reverse (declarations : List Declaration) :
    wordedCountAll declarations.reverse = wordedCountAll declarations := by
  induction declarations with
  | nil =>
      rfl
  | cons first others inductionHypothesis =>
      rw [List.reverse_cons, wordedCountAll_append, inductionHypothesis,
        wordedCountAll, wordedCountAll, wordedCountAll, Nat.add_zero,
        Nat.add_comm]

/-- Outside types every declaration begins with a word. -/
theorem WellPlaced.wordedCount_pos {declaration : Declaration}
    (placed : declaration.WellPlaced false) :
    0 < declaration.wordedCount := by
  cases declaration with
  | scope name members | type header members =>
      exact Nat.add_pos_left Nat.one_pos _
  | enumeration declared =>
      exact Nat.one_pos
  | method declared =>
      cases placed

end Declaration

open Declaration (wordedCountAll wordedCountAll_reverse)

namespace Reading

/-! ## Words -/

def beginsDeclaration (token : Token) : Bool :=
  declarationWords.any token.isWord

/-- The number of words among some tokens that begin a declaration. -/
def wordCount (tokens : List Token) : Nat :=
  tokens.countP beginsDeclaration

theorem wordCount_le_of_suffix {tokens rest : List Token}
    (suffix : rest <:+ tokens) : wordCount rest ≤ wordCount tokens :=
  suffix.sublist.countP_le

/-- A reader that takes such a word leaves one less. -/
theorem wordCount_lt {token : Token} {tokens rest : List Token}
    (begins : beginsDeclaration token = true) (suffix : rest <:+ tokens) :
    1 + wordCount rest ≤ wordCount (token :: tokens) := by
  have behind := wordCount_le_of_suffix suffix
  have counted : wordCount (token :: tokens) = wordCount tokens + 1 :=
    List.countP_cons_of_pos begins
  omega

theorem beginsDeclaration_of_isWord {token : Token} {text : String}
    (isWord : token.isWord text = true)
    (listed : text ∈ declarationWords) : beginsDeclaration token = true :=
  List.any_eq_true.2 ⟨text, listed, isWord⟩

theorem keyword_mem_declarationWords (kind : TypeKind) :
    kind.keyword ∈ declarationWords := by
  cases kind <;> decide

theorem beginsDeclaration_of_declaredKind? {token : Token}
    {rest : List Token} {kind : TypeKind}
    (declared : declaredKind? token rest = some kind) :
    beginsDeclaration token = true := by
  obtain ⟨found, _⟩ := Option.filter_eq_some_iff.1 declared
  obtain ⟨text, isWord, isKind⟩ := Option.bind_eq_some_iff.1 found
  have spelled := TypeKind.keyword_of_ofKeyword? isKind
  have isText : token.isWord text = true := by
    rw [Token.isWord, lexeme_eq_of_word? isWord, beq_self_eq_true]
  exact beginsDeclaration_of_isWord isText
    (spelled ▸ keyword_mem_declarationWords kind)

/-! ## Members -/

theorem readEnumeration_suffix {modifiers : List Modifier}
    {tokens rest : List Token} {declared : Enumeration}
    (read : readEnumeration modifiers tokens = .ok (declared, rest)) :
    rest <:+ tokens := by
  unfold readEnumeration at read
  split at read
  · cases read
  · rename_i name behindName named
    split at read
    · cases read
    · rename_i body entered
      split at read
      · cases read
      · rename_i variants behindBody variantsRead
        obtain ⟨after, closed, answer⟩ := exists_of_map_eq_ok read
        obtain ⟨closer, rfl, _⟩ := exists_of_expectMark closed
        obtain ⟨opener, _, split⟩ := enterEnumeration_eq entered
        cases answer
        have opened : opener :: body <:+ behindName := ⟨_, split.symm⟩
        have behindVariants : closer :: after <:+ behindName :=
          (readVariants_passed variantsRead).suffix.trans
            ((List.suffix_cons opener body).trans opened)
        exact (skipMark_passed (by decide) after).suffix.trans
          ((List.suffix_cons closer after).trans
            (behindVariants.trans (expectWord_passed named).suffix))

/-- The number of declarations with a word that a member brings along.  A
type counts as soon as its body is opened. -/
def Member.wordedCount : Member → Nat
  | .leftOut => 0
  | .complete declaration => declaration.wordedCount
  | .opened _ => 1

theorem TypeOpening.member_wordedCount (opening : TypeOpening) :
    opening.member.wordedCount = 1 := by
  unfold TypeOpening.member
  split <;> rfl

theorem methodMember_wordedCount (enclosing : Option String)
    (result : Option Method) :
    (methodMember enclosing result).wordedCount = 0 := by
  unfold methodMember
  split <;> rfl

/-- What is read takes a word for every declaration that has one. -/
theorem readModified_wordCount_le {enclosing : Option String}
    {modifiers : List Modifier} {tokens rest : List Token} {member : Member}
    (read : readModified enclosing modifiers tokens = .ok (member, rest)) :
    member.wordedCount + wordCount rest ≤ wordCount tokens := by
  unfold readModified at read
  split at read
  · cases read
    exact Nat.le_of_eq (Nat.zero_add _)
  · rename_i token others
    split at read
    · cases read
      exact Nat.le_of_eq (Nat.zero_add _)
    · split at read
      · rename_i kind declared
        obtain ⟨⟨opening, behind⟩, opened, answer⟩ :=
          exists_of_map_eq_ok read
        cases answer
        rw [TypeOpening.member_wordedCount]
        exact wordCount_lt (beginsDeclaration_of_declaredKind? declared)
          (readTypeOpening_entered opened).suffix
      · split at read
        · rename_i isEnum
          obtain ⟨⟨declared, behind⟩, enumerated, answer⟩ :=
            exists_of_map_eq_ok read
          cases answer
          exact wordCount_lt
            (beginsDeclaration_of_isWord isEnum (by decide))
            (readEnumeration_suffix enumerated)
        · obtain ⟨⟨result, behind⟩, method, answer⟩ :=
            exists_of_map_eq_ok read
          cases answer
          rw [methodMember_wordedCount, Nat.zero_add]
          exact wordCount_le_of_suffix (readMethod_passed method).suffix

theorem readMember_wordCount_le {enclosing : Option String}
    {tokens rest : List Token} {member : Member}
    (read : readMember enclosing tokens = .ok (member, rest)) :
    member.wordedCount + wordCount rest ≤ wordCount tokens := by
  unfold readMember at read
  split at read
  · cases read
  · rename_i start attributesSkipped
    have modified := readModified_wordCount_le read
    have front := (readModifiers_passed start).suffix.trans
      (skipAttributes_passed attributesSkipped).suffix
    exact modified.trans (wordCount_le_of_suffix front)

/-! ## Steps -/

/-- The number of declarations with a word in the bodies around the innermost
one, the open declarations themselves among them. -/
def wordedCountAround : Frames → Nat
  | [] => 0
  | ⟨_, before⟩ :: outer =>
      1 + wordedCountAll before + wordedCountAround outer

/-- The number of declarations with a word that were read so far. -/
def ReaderState.wordedCount (state : ReaderState) : Nat :=
  wordedCountAround state.frames + wordedCountAll state.members

/-- A closed body has as many declarations as when it was open. -/
theorem wordedCount_close (opening : Opening) (before : List Declaration)
    (outer : Frames) (members : List Declaration) :
    wordedCountAround outer +
        wordedCountAll (opening.close members.reverse :: before) =
      wordedCountAround (⟨opening, before⟩ :: outer) +
        wordedCountAll members := by
  have closed : (opening.close members.reverse).wordedCount =
      1 + wordedCountAll members := by
    rw [← wordedCountAll_reverse members]
    cases opening <;> rfl
  rw [wordedCountAll, closed, wordedCountAround]
  omega

/-- What a step adds to the outline it pays for with a word. -/
theorem Step.wordCount_le {state next : ReaderState}
    (step : Step state next) :
    next.wordedCount + wordCount next.tokens ≤
      state.wordedCount + wordCount state.tokens := by
  have rest := wordCount_le_of_suffix (Run.suffix (.single step))
  cases step with
  | @close opening before outer members token rest closing braced =>
      have counted := wordedCount_close opening before outer members
      simp only [ReaderState.wordedCount] at rest ⊢
      omega
  | separate separator =>
      exact Nat.add_le_add_left rest _
  | @enter frames members token rest body opening scopeWord outside read =>
      have paid := wordCount_lt
        (beginsDeclaration_of_isWord scopeWord (by decide))
        (readScopeOpening_entered read).suffix
      simp only [ReaderState.wordedCount, wordedCountAround,
        wordedCountAll] at paid ⊢
      omega
  | @member frames members token rest behind member inside noSeparator
      noScope read =>
      have paid := readMember_wordCount_le read
      cases member <;>
        simp only [ReaderState.behindMember, ReaderState.wordedCount,
          Member.wordedCount, wordedCountAround, wordedCountAll]
          at paid ⊢ <;>
        omega

theorem Run.wordCount_le {state final : ReaderState}
    (run : Run state final) :
    final.wordedCount + wordCount final.tokens ≤
      state.wordedCount + wordCount state.tokens := by
  induction run with
  | refl =>
      exact Nat.le_refl _
  | tail _ step inductionHypothesis =>
      exact step.wordCount_le.trans inductionHypothesis

theorem closeAll_wordedCount {frames : Frames} {members : List Declaration}
    {outline : Outline} (closed : closeAll frames members = .ok outline) :
    wordedCountAll outline =
      wordedCountAround frames + wordedCountAll members := by
  fun_induction closeAll frames members with
  | case1 members =>
      cases closed
      rw [wordedCountAll_reverse, wordedCountAround, Nat.zero_add]
  | case2 name before frames members inductionHypothesis =>
      rw [inductionHypothesis closed]
      exact wordedCount_close (.file name) before frames members
  | case3 | case4 =>
      cases closed

/-- An outline has no more declarations with a word than its tokens have
such words. -/
theorem readOutline_wordedCount_le {tokens : List Token}
    {outline : Outline} (read : readOutline tokens = .ok outline) :
    wordedCountAll outline ≤ wordCount tokens := by
  obtain ⟨final, run, _, closed⟩ :=
    exists_run_of_outline ⟨[], [], tokens⟩ read
  have bound := Run.wordCount_le run
  have counted := closeAll_wordedCount closed
  simp only [ReaderState.wordedCount, wordedCountAround, wordedCountAll]
    at bound
  omega

end Reading

/-- A source that is read with an entry at the top passes the quick look. -/
theorem mayHaveDeclarations_of_readSource {text : String}
    {outline : Outline} (read : readSource text = .ok outline)
    (something : outline ≠ []) : mayHaveDeclarations text = true := by
  obtain ⟨first, others, rfl⟩ := List.exists_cons_of_ne_nil something
  obtain ⟨placed, _⟩ := readSource_wellPlaced read
  obtain ⟨source, tokenized, outlineRead⟩ := readSource_ok_iff.1 read
  have bound := Reading.readOutline_wordedCount_le outlineRead
  have positive : 0 < Reading.wordCount source.tokens :=
    calc
      0 < first.wordedCount := placed.wordedCount_pos
      _ ≤ wordedCountAll (first :: others) := Nat.le_add_right _ _
      _ ≤ Reading.wordCount source.tokens := bound
  obtain ⟨token, member, begins⟩ := List.countP_pos_iff.1 positive
  rw [mayHaveDeclarations, tokenized]
  exact List.any_eq_true.2 ⟨token, member, begins⟩

def recordSource : String :=
  "int x; [A] public partial record P(int X) \x7b int M() => 1; \x7d " ++
    "int F() \x7b \x7d"

/-- The record is the only entry at the top. -/
theorem recordSource_mayHaveDeclarations :
    readSource recordSource = .ok [.type
        ⟨.recordWord, "P", none, [.publicWord, .partialWord]⟩
        [.method ⟨"M", "int", [], []⟩]] ∧
      mayHaveDeclarations recordSource = true := by
  have read : readSource recordSource = .ok [.type
      ⟨.recordWord, "P", none, [.publicWord, .partialWord]⟩
      [.method ⟨"M", "int", [], []⟩]] := by
    decide +kernel
  exact ⟨read,
    mayHaveDeclarations_of_readSource read (List.cons_ne_nil _ _)⟩

end ClassDiagram
