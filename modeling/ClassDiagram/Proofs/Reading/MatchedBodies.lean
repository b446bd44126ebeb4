import ClassDiagram.Proofs.Reading.Placement
import ClassDiagram.Proofs.Reading.PassedBraces
import Mathlib.Data.List.TakeWhile

/-!
# Bodies in matching braces

The reader opens the bodies of namespaces and types and closes them steps
later, and it reads the body of an enumeration within one step.  The braces
that it takes for the two ends of a body are partners, and an accepted source
has its braces balanced, but for one thing: between the name of an enumeration
and its body a closing brace is stepped over.  Wherever that happens the
source has one opening brace too few.
-/

namespace ClassDiagram.Reading

open Source (Token Lexeme)
open Text (Brackets)

structure Body where
  header : List Token
  opener : Token
  inner : List Token
  closer : Token
  after : List Token

namespace Body

def opened (body : Body) : List Token :=
  body.opener :: (body.inner ++ body.closer :: body.after)

/-- The two braces of a body are partners. -/
structure Matched (body : Body) : Prop where
  opens : body.opener.isMark '\x7b' = true
  closes : body.closer.isMark '\x7d' = true
  inside : braces.Balanced body.inner

/-- Behind a matched body as many braces are open as in front of it. -/
theorem Matched.passed {body : Body} (matched : body.Matched) :
    Passed body.opened body.after :=
  ⟨body.opener :: (body.inner ++ [body.closer]), by simp [opened],
    matched.inside.enclosed matched.opens matched.closes⟩

end Body

/-! ## Enumerations -/

/-- The tokens behind the keyword of the enumeration that is next, if one
is. -/
def enumerationNext? (tokens : List Token) : Option (List Token) :=
  match skipAttributes tokens with
  | .error _ => none
  | .ok start =>
      match (readModifiers start).2 with
      | [] => none
      | token :: rest => if token.isWord "enum" then some rest else none

theorem enumerationNext?_eq_some {tokens behind : List Token}
    (next : enumerationNext? tokens = some behind) :
    ∃ start token, skipAttributes tokens = .ok start ∧
      (readModifiers start).2 = token :: behind ∧
      token.isWord "enum" = true := by
  unfold enumerationNext? at next
  split at next
  · cases next
  · rename_i start attributesSkipped
    split at next
    · cases next
    · rename_i token rest modified
      split at next
      · rename_i isEnum
        cases next
        exact ⟨start, token, attributesSkipped, modified, isEnum⟩
      · cases next

theorem enumerationNext?_passed {tokens behind : List Token}
    (next : enumerationNext? tokens = some behind) :
    Passed tokens behind := by
  obtain ⟨start, token, attributesSkipped, modified, isEnum⟩ :=
    enumerationNext?_eq_some next
  have modifiersPassed := readModifiers_passed start
  rw [modified] at modifiersPassed
  exact (skipAttributes_passed attributesSkipped).trans
    (modifiersPassed.trans (.next (isNeutral_of_isWord isEnum)))

/-- What stands between the name of an enumeration and its body. -/
def enumerationHeader (behindName : List Token) : List Token :=
  behindName.takeWhile fun token => !token.isMark '\x7b'

/-- The closing braces that are stepped over in search of the body of an
enumeration, if one is next. -/
def overlookedBraces (tokens : List Token) : List Token :=
  match enumerationNext? tokens with
  | none => []
  | some behind =>
      (enumerationHeader behind.tail).filter (·.isMark '\x7d')

theorem enterEnumeration_eq {name : String} {tokens rest : List Token}
    (entered : enterEnumeration name tokens = .ok rest) :
    ∃ opener, opener.isMark '\x7b' = true ∧
      tokens = enumerationHeader tokens ++ opener :: rest := by
  fun_induction enterEnumeration name tokens with
  | case1 =>
      cases entered
  | case2 token tokens opens =>
      cases entered
      refine ⟨token, opens, ?_⟩
      rw [enumerationHeader, List.takeWhile_cons_of_neg (by simp [opens])]
      rfl
  | case3 token tokens notOpening inductionHypothesis =>
      obtain ⟨opener, opens, split⟩ := inductionHypothesis entered
      refine ⟨opener, opens, ?_⟩
      rw [enumerationHeader,
        List.takeWhile_cons_of_pos (by simp [notOpening]), List.cons_append]
      exact congrArg (token :: ·) split

structure EnumerationRead (tokens : List Token) (declared : Enumeration)
    (name : Token) (body : Body) : Prop where
  next : enumerationNext? tokens =
    some (name :: (body.header ++ body.opened))
  named : word? name = some declared.name
  header : body.header = enumerationHeader (body.header ++ body.opened)
  matched : body.Matched
  /-- The members end in front of the closing brace. -/
  variants : readVariants (body.inner ++ body.closer :: body.after) =
    .ok (declared.variants, body.closer :: body.after)

theorem readEnumeration_read {modifiers : List Modifier}
    {tokens behind rest : List Token} {declared : Enumeration}
    (next : enumerationNext? tokens = some behind)
    (read : readEnumeration modifiers behind = .ok (declared, rest)) :
    ∃ name body, EnumerationRead tokens declared name body ∧
      rest = skipMark ';' body.after := by
  unfold readEnumeration at read
  split at read
  · cases read
  · rename_i text behindName named
    obtain ⟨name, rfl, isWord⟩ := exists_of_expectWord named
    split at read
    · cases read
    · rename_i inside entered
      obtain ⟨opener, opens, split⟩ := enterEnumeration_eq entered
      split at read
      · cases read
      · rename_i variants behindBody variantsRead
        obtain ⟨after, closed, answer⟩ := exists_of_map_eq_ok read
        obtain ⟨closer, rfl, closes⟩ := exists_of_expectMark closed
        obtain ⟨inner, rfl, balanced⟩ := readVariants_passed variantsRead
        cases answer
        refine ⟨name, ⟨enumerationHeader behindName, opener, inner, closer,
          after⟩, ?_, rfl⟩
        exact ⟨next.trans (congrArg (fun text => some (name :: text)) split),
          isWord, congrArg enumerationHeader split,
          ⟨opens, closes, balanced⟩, variantsRead⟩

namespace EnumerationRead

variable {tokens : List Token} {declared : Enumeration} {name : Token}
  {body : Body}

theorem overlookedBraces_eq
    (read : EnumerationRead tokens declared name body) :
    overlookedBraces tokens = body.header.filter (·.isMark '\x7d') := by
  have header := read.header
  rw [overlookedBraces, read.next]
  simp only [List.tail_cons]
  rw [← header]

/-- No opening brace stands in front of the body. -/
theorem header_not_opening
    (read : EnumerationRead tokens declared name body) :
    ∀ token ∈ body.header, token.isMark '\x7b' = false := by
  intro token member
  rw [read.header] at member
  have before := List.mem_takeWhile_imp member
  simpa using before

theorem header_balanced (read : EnumerationRead tokens declared name body)
    (kept : overlookedBraces tokens = []) :
    braces.Balanced body.header := by
  rw [read.overlookedBraces_eq, List.filter_eq_nil_iff] at kept
  apply Brackets.balanced_of_neutral
  intro token member
  exact ⟨read.header_not_opening token member,
    Bool.eq_false_iff.2 (kept token member)⟩

theorem passed (read : EnumerationRead tokens declared name body)
    (kept : overlookedBraces tokens = []) :
    Passed tokens (skipMark ';' body.after) := by
  have header : Passed (body.header ++ body.opened) body.opened :=
    ⟨body.header, rfl, read.header_balanced kept⟩
  exact (enumerationNext?_passed read.next).trans
    (.cons (isNeutral_of_word? read.named)
      (header.trans (read.matched.passed.trans
        (skipMark_passed (by decide) body.after))))

end EnumerationRead

/-! ## Members -/

/-- A body was entered or the declaration was ended. -/
def Entered (hasBody : Bool) (tokens rest : List Token) : Prop :=
  if hasBody then
    ∃ opener, opener.isMark '\x7b' = true ∧ Passed tokens (opener :: rest)
  else
    Passed tokens rest

theorem Entered.behind {hasBody : Bool} {tokens between rest : List Token}
    (passed : Passed tokens between) (entered : Entered hasBody between rest) :
    Entered hasBody tokens rest := by
  cases hasBody with
  | false =>
      exact passed.trans entered
  | true =>
      obtain ⟨opener, opens, before⟩ := entered
      exact ⟨opener, opens, passed.trans before⟩

theorem enterType_entered {name : String} {tokens rest : List Token}
    {hasBody : Bool}
    (entered : enterType name tokens = .ok (hasBody, rest)) :
    Entered hasBody tokens rest := by
  fun_induction enterType name tokens with
  | case1 | case4 | case5 =>
      cases entered
  | case2 token tokens opens =>
      cases entered
      exact ⟨token, opens, .refl _⟩
  | case3 token tokens notOpening separator =>
      cases entered
      exact Passed.next (isNeutral_of_isMark separator (by decide))
  | case6 token tokens notOpening noSeparator inside closer opens after
      groupSkipped inductionHypothesis =>
      exact (inductionHypothesis entered).behind
        (skipGroup_passed opens groupSkipped)
  | case7 token tokens notOpening noSeparator inside noGroup
      inductionHypothesis =>
      rw [Bool.not_eq_true] at inside
      exact (inductionHypothesis entered).behind
        (.next (isNeutral_of_no_group noGroup inside))

theorem readTypeOpening_entered {kind : TypeKind}
    {modifiers : List Modifier} {tokens rest : List Token}
    {opening : TypeOpening}
    (read : readTypeOpening kind modifiers tokens = .ok (opening, rest)) :
    Entered opening.hasBody tokens rest := by
  unfold readTypeOpening at read
  split at read
  · cases read
  · rename_i name behindName named
    split at read
    · cases read
    · rename_i typeParameters behindParameters parametersRead
      obtain ⟨⟨hasBody, behind⟩, entered, answer⟩ :=
        exists_of_map_eq_ok read
      cases answer
      exact (enterType_entered entered).behind
        ((skipRecordWord_passed kind tokens).trans
          ((expectWord_passed named).trans
            (readTypeParameters_passed parametersRead)))

theorem readScopeOpening_entered {tokens rest : List Token}
    {opening : Opening}
    (read : readScopeOpening tokens = .ok (opening, rest)) :
    Entered opening.isBraced tokens rest := by
  unfold readScopeOpening at read
  split at read
  · cases read
  · rename_i name behindName dotted
    refine Entered.behind (readDottedName_passed dotted) ?_
    split at read
    · rename_i separator
      cases read
      exact tail_passed separator (by decide)
    · obtain ⟨body, present, answer⟩ := exists_of_map_eq_ok read
      obtain ⟨opener, rfl, opens⟩ := exists_of_expectMark present
      cases answer
      exact ⟨opener, opens, .refl _⟩

def Member.isOpened : Member → Bool
  | .opened _ => true
  | _ => false

theorem TypeOpening.member_isOpened (opening : TypeOpening) :
    opening.member.isOpened = opening.hasBody := by
  unfold TypeOpening.member
  split
  · rename_i hasBody
    rw [hasBody]
    rfl
  · rename_i noBody
    rw [Bool.not_eq_true] at noBody
    rw [noBody]
    rfl

theorem declaredKind?_enum {token : Token} {rest : List Token}
    (isEnum : token.isWord "enum" = true) :
    declaredKind? token rest = none := by
  simp only [Token.isWord, beq_iff_eq] at isEnum
  rw [declaredKind?, word?, isEnum]
  rfl

theorem readMember_enumeration {enclosing : Option String}
    {tokens behind rest : List Token} {member : Member}
    (next : enumerationNext? tokens = some behind)
    (read : readMember enclosing tokens = .ok (member, rest)) :
    ∃ declared name body, EnumerationRead tokens declared name body ∧
      member = .complete (.enumeration declared) ∧
      rest = skipMark ';' body.after := by
  obtain ⟨start, token, attributesSkipped, modified, isEnum⟩ :=
    enumerationNext?_eq_some next
  have inside := isMark_eq_false_of_isWord isEnum '\x7d'
  simp only [readMember, attributesSkipped, modified, readModified, inside,
    declaredKind?_enum isEnum, isEnum, Bool.false_eq_true, if_false,
    if_true] at read
  obtain ⟨⟨declared, after⟩, enumerated, answer⟩ :=
    exists_of_map_eq_ok read
  cases answer
  obtain ⟨name, body, enumeration, behindBody⟩ :=
    readEnumeration_read next enumerated
  exact ⟨declared, name, body, enumeration, rfl, behindBody⟩

/-- Behind modifiers that no enumeration follows there is a member that is
left out, a type behind its keyword, or a method. -/
theorem readModified_cases {enclosing : Option String}
    {modifiers : List Modifier} {tokens rest : List Token} {member : Member}
    (other : ∀ token behind, tokens = token :: behind →
      token.isWord "enum" = false)
    (read : readModified enclosing modifiers tokens = .ok (member, rest)) :
    (member = .leftOut ∧ Passed tokens rest) ∨
      (∃ token behind text kind opening,
        tokens = token :: behind ∧ word? token = some text ∧
          readTypeOpening kind modifiers behind = .ok (opening, rest) ∧
          member = opening.member) ∨
      ∃ declared,
        readMethod enclosing modifiers tokens = .ok (some declared, rest) ∧
          member = .complete (.method declared) := by
  unfold readModified at read
  split at read
  · cases read
    exact .inl ⟨rfl, Passed.refl _⟩
  · rename_i token behind
    split at read
    · cases read
      exact .inl ⟨rfl, Passed.refl _⟩
    · split at read
      · rename_i kind declared
        have keyword := (Option.filter_eq_some_iff.1 declared).1
        obtain ⟨text, isWord, _⟩ := Option.bind_eq_some_iff.1 keyword
        obtain ⟨⟨opening, after⟩, opened, answer⟩ :=
          exists_of_map_eq_ok read
        cases answer
        exact .inr (.inl
          ⟨token, behind, text, kind, opening, rfl, isWord, opened, rfl⟩)
      · rw [other token behind rfl, if_neg Bool.false_ne_true] at read
        obtain ⟨⟨result, after⟩, method, answer⟩ :=
          exists_of_map_eq_ok read
        cases answer
        unfold methodMember
        split
        · rename_i declared
          exact .inr (.inr ⟨declared, method, rfl⟩)
        · exact .inl ⟨rfl, readMethod_passed method⟩

theorem readModified_entered {enclosing : Option String}
    {modifiers : List Modifier} {tokens rest : List Token} {member : Member}
    (other : ∀ token behind, tokens = token :: behind →
      token.isWord "enum" = false)
    (read : readModified enclosing modifiers tokens = .ok (member, rest)) :
    Entered member.isOpened tokens rest := by
  obtain ⟨rfl, passed⟩ |
      ⟨token, behind, text, kind, opening, rfl, isWord, opened, rfl⟩ |
      ⟨declared, method, rfl⟩ := readModified_cases other read
  · exact passed
  · rw [TypeOpening.member_isOpened]
    exact (readTypeOpening_entered opened).behind
      (.next (isNeutral_of_word? isWord))
  · exact readMethod_passed method

/-- Behind the modifiers of a member that is no enumeration its keyword is
not there either. -/
theorem exists_of_readMember {enclosing : Option String}
    {tokens rest : List Token} {member : Member}
    (other : enumerationNext? tokens = none)
    (read : readMember enclosing tokens = .ok (member, rest)) :
    ∃ modifiers modified, Passed tokens modified ∧
      (∀ token behind, modified = token :: behind →
        token.isWord "enum" = false) ∧
      readModified enclosing modifiers modified = .ok (member, rest) := by
  unfold readMember at read
  unfold enumerationNext? at other
  split at read
  · cases read
  · rename_i start attributesSkipped
    rw [attributesSkipped] at other
    refine ⟨_, _, (skipAttributes_passed attributesSkipped).trans
      (readModifiers_passed start), ?_, read⟩
    intro token behind modified
    simp only [modified] at other
    split at other
    · cases other
    · rename_i notEnum
      exact Bool.eq_false_iff.2 notEnum

/-- A member other than an enumeration passes over balanced braces; behind
them the body of a type may have been opened. -/
theorem readMember_entered {enclosing : Option String}
    {tokens rest : List Token} {member : Member}
    (other : enumerationNext? tokens = none)
    (read : readMember enclosing tokens = .ok (member, rest)) :
    Entered member.isOpened tokens rest := by
  obtain ⟨modifiers, modified, passed, notEnum, modifiedRead⟩ :=
    exists_of_readMember other read
  exact (readModified_entered notEnum modifiedRead).behind passed

/-! ## Depths

The depth of the reader is the number of bodies in braces that are open.
-/

/-- The number of open bodies in braces. -/
def depth (frames : Frames) : Nat :=
  frames.countP fun frame => frame.opening.isBraced

theorem depth_cons (opening : Opening) (before : List Declaration)
    (frames : Frames) :
    depth (⟨opening, before⟩ :: frames) =
      depth frames + if opening.isBraced then 1 else 0 :=
  List.countP_cons

/-- From so many open braces to so many. -/
def Crossed (before behind : Nat) (tokens rest : List Token) : Prop :=
  ∃ consumed, tokens = consumed ++ rest ∧
    braces.depthBehind? before consumed = some behind

theorem Crossed.trans {before between behind : Nat}
    {tokens middle rest : List Token}
    (first : Crossed before between tokens middle)
    (second : Crossed between behind middle rest) :
    Crossed before behind tokens rest := by
  obtain ⟨left, rfl, leftCounted⟩ := first
  obtain ⟨right, rfl, rightCounted⟩ := second
  refine ⟨left ++ right, (List.append_assoc ..).symm, ?_⟩
  rw [Brackets.depthBehind?_append, leftCounted]
  exact rightCounted

theorem Passed.crossed {tokens rest : List Token}
    (passed : Passed tokens rest) (depth : Nat) :
    Crossed depth depth tokens rest := by
  obtain ⟨consumed, rfl, balanced⟩ := passed
  exact ⟨consumed, rfl, balanced.depthBehind?_eq depth⟩

theorem Entered.crossed {hasBody : Bool} {tokens rest : List Token}
    (entered : Entered hasBody tokens rest) (depth : Nat) :
    Crossed depth (depth + if hasBody then 1 else 0) tokens rest := by
  cases hasBody with
  | false =>
      exact Passed.crossed entered depth
  | true =>
      obtain ⟨opener, opens, passed⟩ := entered
      refine (passed.crossed depth).trans ⟨[opener], rfl, ?_⟩
      rw [Brackets.depthBehind?_cons, Brackets.depthAfter?_opening _ opens]
      rfl

theorem crossed_closing {closer : Token} {rest : List Token}
    (closes : closer.isMark '\x7d' = true) (depth : Nat) :
    Crossed (depth + 1) depth (closer :: rest) rest := by
  refine ⟨[closer], rfl, ?_⟩
  rw [Brackets.depthBehind?_cons, Brackets.depthAfter?_closing _ closes]
  rfl

/-! ## Steps -/

theorem modifier?_eq_none_of_isMark {token : Token} {c : Char}
    (isMark : token.isMark c = true) (rest : List Token) :
    modifier? token rest = none := by
  simp only [Token.isMark, beq_iff_eq] at isMark
  rw [modifier?, word?, isMark]
  rfl

theorem modifier?_namespace {token : Token}
    (scopeWord : token.isWord "namespace" = true) (rest : List Token) :
    modifier? token rest = none := by
  simp only [Token.isWord, beq_iff_eq] at scopeWord
  rw [modifier?, word?, scopeWord]
  rfl

theorem enumerationNext?_eq_none {token : Token} {rest : List Token}
    (noSection : token.isMark '[' = false)
    (noModifier : modifier? token rest = none)
    (notEnum : token.isWord "enum" = false) :
    enumerationNext? (token :: rest) = none := by
  have notAttributed : atMark '[' (token :: rest) = false := noSection
  rw [enumerationNext?, skipAttributes_none notAttributed]
  simp only [readModifiers, noModifier, notEnum, Bool.false_eq_true,
    if_false]

theorem enumerationNext?_mark {token : Token} {c : Char}
    (isMark : token.isMark c = true) (noSection : c ≠ '[')
    (rest : List Token) : enumerationNext? (token :: rest) = none := by
  refine enumerationNext?_eq_none (isMark_unique isMark noSection)
    (modifier?_eq_none_of_isMark isMark rest) ?_
  simp only [Token.isMark, beq_iff_eq] at isMark
  simp [Token.isWord, isMark]

theorem enumerationNext?_namespace {token : Token}
    (scopeWord : token.isWord "namespace" = true) (rest : List Token) :
    enumerationNext? (token :: rest) = none := by
  refine enumerationNext?_eq_none (isMark_eq_false_of_isWord scopeWord '[')
    (modifier?_namespace scopeWord rest) ?_
  simp only [Token.isWord, beq_iff_eq] at scopeWord
  simp [Token.isWord, scopeWord]

/-- The depth of the braces follows the depth of the reader.  Brackets that
are open around the reader may be left out. -/
theorem Step.crossed {state next : ReaderState} (step : Step state next)
    (kept : overlookedBraces state.tokens = []) {outer : Nat}
    (around : outer ≤ depth state.frames)
    (stillAround : outer ≤ depth next.frames) :
    Crossed (depth state.frames - outer) (depth next.frames - outer)
      state.tokens next.tokens := by
  cases step with
  | @close opening before frames members token rest closing braced =>
      have inner : depth (⟨opening, before⟩ :: frames) - outer =
          depth frames - outer + 1 := by
        rw [depth_cons, braced, if_pos rfl]
        change outer ≤ depth frames at stillAround
        omega
      rw [inner]
      exact (crossed_closing closing _).trans
        ((skipMark_passed (by decide) rest).crossed _)
  | separate separator =>
      exact (Passed.next (isNeutral_of_isMark separator
        (by decide))).crossed _
  | @enter frames members token rest body opening scopeWord outside read =>
      have inner : depth (⟨opening, members⟩ :: frames) - outer =
          depth frames - outer + if opening.isBraced then 1 else 0 := by
        rw [depth_cons]
        change outer ≤ depth frames at around
        omega
      rw [inner]
      exact ((readScopeOpening_entered read).behind
        (.next (isNeutral_of_isWord scopeWord))).crossed _
  | @member frames members token rest behind member inside noSeparator
      noScope read =>
      -- Only an enumeration needs `kept`: everything else stops at a brace.
      cases enumeration : enumerationNext? (token :: rest) with
      | none =>
          have entered := readMember_entered enumeration read
          cases member with
          | leftOut =>
              exact entered.crossed _
          | complete declaration =>
              exact entered.crossed _
          | opened header =>
              have inner : depth (⟨.type header, members⟩ :: frames) -
                  outer = depth frames - outer + 1 := by
                rw [depth_cons]
                change outer ≤ depth frames at around
                simp only [Opening.isBraced, if_true]
                omega
              change Crossed _ (depth (⟨.type header, members⟩ :: frames) -
                outer) _ _
              rw [inner]
              exact entered.crossed _
      | some keyword =>
          obtain ⟨declared, name, body, enumeration, rfl, rfl⟩ :=
            readMember_enumeration enumeration read
          exact (enumeration.passed kept).crossed _

end ClassDiagram.Reading
