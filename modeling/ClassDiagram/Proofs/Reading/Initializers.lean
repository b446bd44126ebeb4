import ClassDiagram.Proofs.Reading.Attributes
import ClassDiagram.Proofs.Reading.Expressions
import ClassDiagram.Proofs.Reading.MemberForms

/-!
# Initializers

A field with a value, a property with a value behind its accessors and a
property that is an expression are left out of the outline.  The reader goes
on behind the first block of the value that no equals sign follows, and only
if there is none behind the semicolon.  What stands behind that block is read
as if further members stood there.
-/

namespace ClassDiagram.Reading

open Source (Token Lexeme)

/-! ## Values -/

/-- What stands in a value behind its first block that no equals sign
follows.  Blocks inside other groups do not count. -/
def behindBlock? : List Token → Option (List Token)
  | [] => none
  | token :: rest =>
      match closer? token with
      | none => behindBlock? rest
      | some closer =>
          match _ : skipGroup closer rest with
          | .error _ => none
          | .ok after =>
              if closer = '\x7d' ∧ atMark '=' after = false then some after
              else behindBlock? after
termination_by tokens => tokens.length
decreasing_by
  · exact Nat.lt_succ_self _
  · exact Nat.lt_succ_of_le (skipGroup_length_le ‹_›)

/-- What is not read of a value and the semicolon behind it when the member
counts as ended. -/
def unread (value : List Token) (semicolon : Token) : List Token :=
  match behindBlock? value with
  | none => []
  | some left => left ++ [semicolon]

theorem behindBlock?_neutral {token : Token} (notOpening : closer? token = none)
    (rest : List Token) : behindBlock? (token :: rest) = behindBlock? rest := by
  rw [behindBlock?, notOpening]

theorem behindBlock?_group {opening closing : Token} {wanted : Char}
    {inner rest : List Token} (opens : closer? opening = some wanted)
    (closes : closing? closing = some wanted) (inside : Nested inner) :
    behindBlock? (opening :: (inner ++ closing :: rest)) =
      if wanted = '\x7d' ∧ atMark '=' rest = false then some rest
      else behindBlock? rest := by
  have skipped := inside.skipGroup_eq closes rest
  rw [behindBlock?, opens]
  simp only
  split
  · rename_i refused
    rw [skipped] at refused
    cases refused
  · rename_i accepted
    rw [skipped] at accepted
    cases accepted
    rfl

/-- An equals sign stands behind every block outside other groups, unless the
tokens end there. -/
inductive BlocksAssigned : List Token → Prop
  | nil : BlocksAssigned []
  | neutral {token : Token} {rest : List Token}
      (notOpening : closer? token = none) (further : BlocksAssigned rest) :
      BlocksAssigned (token :: rest)
  | group {opening closing : Token} {wanted : Char} {inner rest : List Token}
      (noBlock : wanted ≠ '\x7d') (opens : closer? opening = some wanted)
      (closes : closing? closing = some wanted) (inside : Nested inner)
      (further : BlocksAssigned rest) :
      BlocksAssigned (opening :: (inner ++ closing :: rest))
  | block {opening closing : Token} {inner rest : List Token}
      (opens : closer? opening = some '\x7d')
      (closes : closing? closing = some '\x7d') (inside : Nested inner)
      (assigned : rest = [] ∨ atMark '=' rest = true)
      (further : BlocksAssigned rest) :
      BlocksAssigned (opening :: (inner ++ closing :: rest))

/-- Then at most the semicolon is not read. -/
theorem BlocksAssigned.getD_behindBlock? {value : List Token}
    (assigned : BlocksAssigned value) :
    (behindBlock? value).getD [] = [] := by
  induction assigned with
  | nil =>
      rw [behindBlock?]
      rfl
  | neutral notOpening further inductionHypothesis =>
      rw [behindBlock?_neutral notOpening]
      exact inductionHypothesis
  | group noBlock opens closes inside further inductionHypothesis =>
      rw [behindBlock?_group opens closes inside,
        if_neg fun block => noBlock block.1]
      exact inductionHypothesis
  | block opens closes inside assigned further inductionHypothesis =>
      rw [behindBlock?_group opens closes inside]
      split
      · rename_i unassigned
        rcases assigned with rfl | isAssigned
        · rfl
        · rw [isAssigned] at unassigned
          cases unassigned.2
      · exact inductionHypothesis

/-- The semicolon behind it separates nothing. -/
theorem BlocksAssigned.readFrom_unread {value : List Token}
    (assigned : BlocksAssigned value) {semicolon : Token}
    (isSemicolon : semicolon.isMark ';' = true) (frames : Frames)
    (members : List Declaration) (rest : List Token) :
    readFrom frames members (unread value semicolon ++ rest) =
      readFrom frames members rest := by
  have behind := assigned.getD_behindBlock?
  cases found : behindBlock? value with
  | none =>
      rw [unread, found]
      rfl
  | some left =>
      rw [found, Option.getD_some] at behind
      rw [unread, found, behind]
      exact (Step.separate isSemicolon).outline_eq

/-- An expression is skipped to the end of its first block that no equals
sign follows, or through the semicolon behind it. -/
theorem NestedWithout.skipMember_eq {value : List Token}
    (nested : NestedWithout [';'] value) {semicolon : Token}
    (isSemicolon : semicolon.isMark ';' = true) (rest : List Token) :
    skipMember (value ++ semicolon :: rest) =
      .ok (unread value semicolon ++ rest) := by
  have noSeparator : ∀ {token : Token},
      [';'].any token.isMark = false → token.isMark ';' = false := by
    intro token noStop
    simpa using noStop
  induction nested with
  | nil =>
      rw [List.nil_append, skipMember_separator isSemicolon, unread,
        behindBlock?]
      rfl
  | @neutral token value noStop notOpening notClosing nested
      inductionHypothesis =>
      have inside : token.isMark '\x7d' = false := by
        by_contra closes
        rw [Bool.not_eq_false] at closes
        rw [closing?_of_isMark closes] at notClosing
        cases notClosing
      rw [List.cons_append,
        skipMember_neutral inside (noSeparator noStop) notOpening, unread,
        behindBlock?_neutral notOpening]
      exact inductionHypothesis
  | @group opening closing wanted inner value noStop opens closes inside
      nested inductionHypothesis =>
      have notClosing : opening.isMark '\x7d' = false := by
        by_contra isBrace
        rw [Bool.not_eq_false] at isBrace
        rw [closer?_of_isMark isBrace] at opens
        cases opens
      have sameNext : atMark '=' (value ++ semicolon :: rest) =
          atMark '=' value := by
        cases value with
        | nil => exact isMark_unique isSemicolon (by decide)
        | cons token others => rfl
      rw [List.cons_append, List.append_assoc, List.cons_append,
        skipMember_group notClosing (noSeparator noStop) opens
          (inside.skipGroup_eq closes _), sameNext, unread,
        behindBlock?_group opens closes inside]
      split
      · simp
      · exact inductionHypothesis

/-! ## Members with a value -/

/-- What stands between the name of a member and its value. -/
inductive IsValueLead : List Token → Prop
  | field {equals : Token} (isEquals : equals.isMark '=' = true) :
      IsValueLead [equals]
  | property {opening closing equals : Token} {accessors : List Token}
      (opens : opening.isMark '\x7b' = true) (nested : Nested accessors)
      (closes : closing.isMark '\x7d' = true)
      (isEquals : equals.isMark '=' = true) :
      IsValueLead (opening :: (accessors ++ [closing, equals]))
  | expression {arrow : Token} (isArrow : arrow.lexeme = .arrow) :
      IsValueLead [arrow]

namespace IsValueLead

variable {lead : List Token}

/-- It begins like no method. -/
theorem atMark_eq_false (isLead : IsValueLead lead) {c : Char}
    (other : c ≠ '=' ∧ c ≠ '\x7b') (rest : List Token) :
    atMark c (lead ++ rest) = false := by
  cases isLead with
  | field isEquals => exact isMark_unique isEquals (Ne.symm other.1)
  | property opens nested closes isEquals =>
      exact isMark_unique opens (Ne.symm other.2)
  | expression isArrow => simp [atMark, Token.isMark, isArrow]

theorem skipMember_eq (isLead : IsValueLead lead) (rest : List Token) :
    skipMember (lead ++ rest) = skipMember rest := by
  have equals : ∀ {token : Token}, token.isMark '=' = true →
      skipMember (token :: rest) = skipMember rest := fun isEquals =>
    skipMember_neutral (isMark_unique isEquals (by decide))
      (isMark_unique isEquals (by decide)) (closer?_of_isMark isEquals)
  cases isLead with
  | field isEquals => exact equals isEquals
  | @property opening closing equalsSign accessors opens nested closes
      isEquals =>
      have skipped : skipGroup '\x7d' (accessors ++ closing ::
          (equalsSign :: rest)) = .ok (equalsSign :: rest) :=
        nested.skipGroup_eq (closing?_of_isMark closes) _
      have goesOn : atMark '=' (equalsSign :: rest) = true := isEquals
      rw [List.cons_append, List.append_assoc, List.cons_append,
        List.singleton_append,
        skipMember_group (isMark_unique opens (by decide))
          (isMark_unique opens (by decide)) (closer?_of_isMark opens) skipped,
        goesOn, if_neg (by simp)]
      exact equals isEquals
  | @expression arrow isArrow =>
      apply skipMember_neutral
      · simp [Token.isMark, isArrow]
      · simp [Token.isMark, isArrow]
      · rw [closer?, isArrow]

end IsValueLead

/-- A member with a value as it is written. -/
structure InitializedForm where
  front : MemberFront
  named : Token
  leadTokens : List Token
  value : List Token
  semicolon : Token
  isName : named.isAnyWord = true
  isLead : IsValueLead leadTokens
  nested : NestedWithout [';'] value
  isSemicolon : semicolon.isMark ';' = true

namespace InitializedForm

def tokens (form : InitializedForm) : List Token :=
  form.front.tokens ++ form.named ::
    (form.leadTokens ++ (form.value ++ [form.semicolon]))

/-- What the reader takes for further members. -/
def unread (form : InitializedForm) : List Token :=
  Reading.unread form.value form.semicolon

variable (form : InitializedForm)

theorem readMember_eq (enclosing : Option String) (rest : List Token) :
    readMember enclosing (form.tokens ++ rest) =
      .ok (.leftOut, form.unread ++ rest) := by
  have tokensEq : form.tokens ++ rest = form.front.tokens ++ form.named ::
      (form.leadTokens ++ (form.value ++ form.semicolon :: rest)) := by
    simp [tokens]
  rw [tokensEq, form.front.readMember_leftOut enclosing form.isName
      (form.isLead.atMark_eq_false (by decide) _)
      (form.isLead.atMark_eq_false (by decide) _)
      (form.isLead.atMark_eq_false (by decide) _),
    leavingOut, form.isLead.skipMember_eq,
    form.nested.skipMember_eq form.isSemicolon]
  rfl

theorem readsMember_eq {frames : Frames} (inside : insideType frames = true)
    (rest : List Token) :
    readsMember frames (form.tokens ++ rest) = true := by
  have begins := form.front.isType.beginsTyped (form.named ::
    (form.leadTokens ++ (form.value ++ [form.semicolon])) ++ rest)
  have noMark : ∀ {c : Char}, atMark c (form.front.typeTokens ++
        (form.named :: (form.leadTokens ++
          (form.value ++ [form.semicolon])) ++ rest)) = false →
      atMark c (form.tokens ++ rest) = false := by
    intro c behind
    rw [tokens, MemberFront.tokens, List.append_assoc, List.append_assoc]
    exact atMark_of_written form.front.written behind
  have noEnd := noMark begins.noClosing
  have noSeparator := noMark begins.noSeparator
  cases whole : form.tokens ++ rest with
  | nil => simp [tokens] at whole
  | cons token others =>
      rw [whole] at noEnd noSeparator
      have notClosing : token.isMark '\x7d' = false := noEnd
      have notSeparator : token.isMark ';' = false := noSeparator
      rw [readsMember, notClosing, notSeparator, inside]
      simp

/-- The reader goes on with what it has not read of the member. -/
theorem readFrom_unread {frames : Frames} {enclosing : String}
    (inside : enclosingType frames = some enclosing)
    (members : List Declaration) (rest : List Token) :
    readFrom frames members (form.tokens ++ rest) =
      readFrom frames members (form.unread ++ rest) := by
  have insideOne : insideType frames = true := by
    rw [insideType, inside]
    rfl
  rw [readFrom_of_readsMember (form.readsMember_eq insideOne rest),
    form.readMember_eq]
  rfl

end InitializedForm

/-- A field with a value, a property with a value and a property that is an
expression are read like what they leave unread, and they are not seen at all
if an equals sign stands behind every block of the value. -/
theorem readFrom_initializedForm (form : InitializedForm) {frames : Frames}
    {enclosing : String} (inside : enclosingType frames = some enclosing)
    (members : List Declaration) (rest : List Token) :
    readFrom frames members (form.tokens ++ rest) =
        readFrom frames members (form.unread ++ rest) ∧
      (BlocksAssigned form.value →
        readFrom frames members (form.tokens ++ rest) =
          readFrom frames members rest) := by
  have goesOn := form.readFrom_unread inside members rest
  refine ⟨goesOn, fun assigned => ?_⟩
  rw [goesOn]
  exact assigned.readFrom_unread form.isSemicolon frames members rest

def valuesForm : InitializedForm where
  front :=
    { modifiers := [.privateWord]
      modifierTokens := [⟨"", .word "private"⟩]
      typeTokens :=
        [⟨" ", .word "int"⟩, ⟨"", .mark '['⟩, ⟨"", .mark ']'⟩]
      written := rfl
      plain := by decide
      isType := .value (.named (.plain rfl (by decide) (.last .absent))
        (@AreSuffixes.array ⟨"", .mark '['⟩ ⟨"", .mark ']'⟩ [] [] rfl nofun
          rfl .none)) }
  named := ⟨" ", .word "values"⟩
  leadTokens := [⟨" ", .mark '='⟩]
  value := [⟨" ", .mark '\x7b'⟩, ⟨" ", .literal "1"⟩, ⟨" ", .mark '\x7d'⟩]
  semicolon := ⟨"", .mark ';'⟩
  isName := rfl
  isLead := .field rfl
  nested := @NestedWithout.group _ ⟨" ", .mark '\x7b'⟩ ⟨" ", .mark '\x7d'⟩ _
    [⟨" ", .literal "1"⟩] [] rfl rfl rfl (.neutral rfl rfl .nil) .nil
  isSemicolon := rfl

def pointForm : InitializedForm where
  front :=
    { modifiers := []
      modifierTokens := []
      typeTokens := [⟨"", .word "bool"⟩]
      written := rfl
      plain := by decide
      isType := .value (.named (.plain rfl (by decide) (.last .absent))
        .none) }
  named := ⟨" ", .word "AtPoint"⟩
  leadTokens := [⟨" ", .arrow⟩]
  value :=
    [⟨" ", .word "new"⟩, ⟨" ", .word "Point"⟩, ⟨" ", .mark '\x7b'⟩,
      ⟨" ", .mark '\x7d'⟩, ⟨" ", .word "is"⟩, ⟨" ", .word "Point"⟩,
      ⟨"", .mark '('⟩, ⟨"", .word "int"⟩, ⟨" ", .word "x"⟩, ⟨"", .mark ')'⟩]
  semicolon := ⟨"", .mark ';'⟩
  isName := rfl
  isLead := .expression rfl
  nested := .neutral rfl rfl rfl (.neutral rfl rfl rfl
    (@NestedWithout.group _ ⟨" ", .mark '\x7b'⟩ ⟨" ", .mark '\x7d'⟩ _ [] _
      rfl rfl rfl .nil (.neutral rfl rfl rfl (.neutral rfl rfl rfl
        (@NestedWithout.group _ ⟨"", .mark '('⟩ ⟨"", .mark ')'⟩ _
          [⟨"", .word "int"⟩, ⟨" ", .word "x"⟩] [] rfl rfl rfl
          (.neutral rfl rfl (.neutral rfl rfl .nil)) .nil)))))
  isSemicolon := rfl

/-- The field is not seen, the pattern is taken for a method. -/
theorem valuesForm_unseen_pointForm_read :
    enclosingType [⟨.type ⟨.classWord, "C", none, []⟩, []⟩] = some "C" ∧
      BlocksAssigned valuesForm.value ∧
      readFrom [⟨.type ⟨.classWord, "C", none, []⟩, []⟩] []
          (valuesForm.tokens ++ [⟨"", .mark '\x7d'⟩]) =
        .ok [.type ⟨.classWord, "C", none, []⟩ []] ∧
      readFrom [⟨.type ⟨.classWord, "C", none, []⟩, []⟩] []
          (pointForm.tokens ++ [⟨"", .mark '\x7d'⟩]) =
        .ok [.type ⟨.classWord, "C", none, []⟩
          [.method ⟨"Point", "is", [⟨"x", "int"⟩], []⟩]] := by
  have inside :
      enclosingType [⟨.type ⟨.classWord, "C", none, []⟩, []⟩] = some "C" := rfl
  have assigned : BlocksAssigned valuesForm.value :=
    @BlocksAssigned.block ⟨" ", .mark '\x7b'⟩ ⟨" ", .mark '\x7d'⟩
      [⟨" ", .literal "1"⟩] [] rfl rfl (.neutral rfl rfl .nil) (.inl rfl) .nil
  refine ⟨inside, assigned, ?_, ?_⟩
  · rw [(readFrom_initializedForm valuesForm inside [] _).2 assigned]
    decide +kernel
  · rw [(readFrom_initializedForm pointForm inside [] _).1]
    decide +kernel

end ClassDiagram.Reading

namespace ClassDiagram

/-- A pattern behind a block is read as a method of the type around. -/
theorem pattern_behind_block_read :
    readSource "class C { bool P => new A { } is A(int b); }" =
        .ok [.type ⟨.classWord, "C", none, []⟩
          [.method ⟨"A", "is", [⟨"b", "int"⟩], []⟩]] ∧
      readSource "class C { }" =
        .ok [.type ⟨.classWord, "C", none, []⟩ []] := by
  constructor <;> decide +kernel

end ClassDiagram
