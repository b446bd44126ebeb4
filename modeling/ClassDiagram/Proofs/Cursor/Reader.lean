import ClassDiagram.Proofs.Cursor.Machine
import ClassDiagram.Proofs.Reading.Steps
import ClassDiagram.Reading.Source

/-!
# The reader with a cursor

Every routine of the reader as it is done with a cursor.  Loops are taken turn
by turn, a type argument list is matched by a counter, texts are cut out of the
source, and the body of a declaration is read by the same routine as the source
around it, for which a number of levels is provided.

The routines differ from those on lists in what they do where nothing can be
expected any more.  Words that were seen ahead are read once more, the cursor
is set back, and a member that moved nothing is stepped over.
-/

namespace ClassDiagram.Cursor

open Source (Token)
open Reading (closer? closing? plainWord? Member Opening TypeOpening)

/-! ## Groups and what is skipped -/

/-- One token of a group, given the marks that its open parts wait for,
innermost first. -/
def groupTurn (waiting : List Char) : Action (Turn (List Char) Unit) := do
  let index ← position
  match ← bump with
  | none => refuse (.missingMark (waiting.headD ')'))
  | some token =>
      match closer? token, closing? token, waiting with
      | some closer, _, _ => return .again (closer :: waiting)
      | none, none, [] => return .leave ()
      | none, none, _ => return .again waiting
      | none, some _, [] => refuseIndex index .strayClosingMark
      | none, some found, wanted :: outer =>
          if found ≠ wanted then
            refuseIndex index (.missingMark wanted)
          else if outer = [] then
            return .leave ()
          else
            return .again outer

def skipBalanced : Action Unit :=
  loop groupTurn []

def untilTurn (stops : List Char) (_ : Unit) : Action (Turn Unit Unit) := do
  match ← peek with
  | none => refuse .earlyEnd
  | some token =>
      if stops.any token.isMark then
        return .leave ()
      else if (closer? token).isSome then
        skipBalanced
        return .again ()
      else if (closing? token).isSome then
        refuse .strayClosingMark
      else
        discard bump
        return .again ()

def skipUntil (stops : List Char) : Action Unit :=
  loop (untilTurn stops) ()

def skipStatement : Action Unit := do
  skipUntil [';']
  discard bump

def attributeTurn (_ : Unit) : Action (Turn Unit Unit) := do
  if ← atMark '[' then
    skipBalanced
    return .again ()
  else
    return .leave ()

def skipAttributes : Action Unit :=
  loop attributeTurn ()

def memberTurn (_ : Unit) : Action (Turn Unit Unit) := do
  match ← peek with
  | none => return .leave ()
  | some token =>
      if token.isMark '\x7d' then
        return .leave ()
      else if token.isMark ';' then
        discard bump
        return .leave ()
      else if token.isMark '\x7b' then
        skipBalanced
        if ← atMark '=' then
          return .again ()
        else
          return .leave ()
      else if (closer? token).isSome then
        skipBalanced
        return .again ()
      else
        discard bump
        return .again ()

def skipMember : Action Unit :=
  loop memberTurn ()

def methodBodyTurn (name : String) (_ : Unit) :
    Action (Turn Unit Unit) := do
  match ← peek with
  | none => refuse (.missingMethodBody name)
  | some token =>
      if token.isMark '\x7b' then
        skipBalanced
        return .leave ()
      else if token.lexeme = .arrow then
        discard bump
        skipStatement
        return .leave ()
      else if token.isMark ';' then
        discard bump
        return .leave ()
      else if token.isMark '\x7d' then
        refuse (.missingMethodBody name)
      else if (closer? token).isSome then
        skipBalanced
        return .again ()
      else
        discard bump
        return .again ()

def skipMethodBody (name : String) : Action Unit :=
  loop (methodBodyTurn name) ()

/-! ## Type arguments -/

/-- The index of the bracket that closes what is open, given how many brackets
are open in front of these tokens and the index of the first of them. -/
def scanAngles (depth index : Nat) :
    List Token → Except Mishap (Option Nat)
  | [] => .ok none
  | token :: rest =>
      if token.isMark '<' then
        scanAngles (depth + 1) (index + 1) rest
      else if token.isMark '>' then
        match depth with
        | 0 => .error .negativeDepth
        | 1 => .ok (some index)
        | outer + 2 => scanAngles (outer + 1) (index + 1) rest
      else if Reading.endsTypeArguments token then
        .ok none
      else
        scanAngles depth (index + 1) rest

/-- The index of the bracket that closes the one at this index. -/
def matchingAngle (tokens : List Token) (opening : Nat) :
    Except Mishap (Option Nat) :=
  if Reading.atMark '<' (tokens.drop opening) then
    scanAngles 0 opening (tokens.drop opening)
  else
    .error .noAngle

def closingAngle (opening : Nat) : Action (Option Nat) :=
  fun input position =>
    match matchingAngle input.tokens opening with
    | .error cause => .mishap cause
    | .ok found => .done found position

/-- Step over type arguments, and answer whether they are closed. -/
def trySkipAngles : Action Bool := do
  match ← closingAngle (← position) with
  | none => return false
  | some close =>
      moveTo (close + 1)
      return true

def skipAngles : Action Unit := do
  match ← closingAngle (← position) with
  | none => refuse .unclosedTypeArguments
  | some close => moveTo (close + 1)

/-! ## Types -/

/-- Step over type arguments if any are next; only ones that are not closed
answer no. -/
def skipTypeArguments : Action Bool := do
  if ← atMark '<' then
    trySkipAngles
  else
    return true

/-- How many tokens lead to the next part of a name: a dot and a word, two
colons and a word, or none. -/
def qualifierLength : Action Nat := do
  let first ← peek
  let second ← peekNth 1
  let third ← peekNth 2
  if first.any (·.isMark '.') && second.any Token.isAnyWord then
    return 2
  else if first.any (·.isMark ':') && second.any (·.isMark ':') &&
      third.any Token.isAnyWord then
    return 3
  else
    return 0

/-- At a dot and a name: does the dotted name continue the type? -/
def continuesType : Action Bool := do
  let behindName := (← position) + 2
  let beyond? ←
    if (← tokenAt behindName).any (·.isMark '<') then
      pure ((← closingAngle behindName).map (· + 1))
    else
      pure (some behindName)
  match beyond? with
  | none => return false
  | some beyond =>
      return (← tokenAt beyond).any fun next =>
        next.isAnyWord || next.isMark '.' || next.isMark '?' ||
          next.isMark '[' || next.isMark '*'

/-- Step over what leads to the next part of a name, and over its word. -/
def qualifierTurn : Action (Turn Unit Unit) := do
  let qualified ← qualifierLength
  if qualified = 0 then
    return .leave ()
  else if ← (if qualified = 2 then continuesType else pure true) then
    moveTo ((← position) + qualified)
    return .again ()
  else
    return .leave ()

def namePartTurn (_ : Unit) : Action (Turn Unit Unit) := do
  if ← skipTypeArguments then
    qualifierTurn
  else
    return .leave ()

def suffixTurn (_ : Unit) : Action (Turn Unit Unit) := do
  if ← eatMark '?' then
    return .again ()
  else if ← eatMark '*' then
    return .again ()
  else
    let next ← peekNth 1
    if (← atMark '[') &&
        next.any fun token => token.isMark ']' || token.isMark ',' then
      skipBalanced
      return .again ()
    else
      return .leave ()

/-- Skip a type behind the words of a reference, which begin at a position. -/
def skipBareType (start : Nat) : Action Bool := do
  match ← peek with
  | none =>
      moveTo start
      return false
  | some token =>
      if token.isMark '(' then
        skipBalanced
        loop suffixTurn ()
        return true
      else if (plainWord? token).isSome then
        discard bump
        loop namePartTurn ()
        loop suffixTurn ()
        return true
      else
        moveTo start
        return false

/-- Skip a type, and answer whether one begins here; if not, the cursor is set
back. -/
def skipType : Action Bool := do
  let start ← position
  if ← eatWord "ref" then
    discard (eatWord "readonly")
  skipBareType start

/-! ## Parameters and enumerations -/

def parameterModifierTurn (_ : Unit) : Action (Turn Unit Unit) := do
  let next ← peekNth 1
  if (← peek).any (Reading.isParameterModifier · next.toList) then
    discard bump
    return .again ()
  else
    return .leave ()

/-- Skip a value up to one of these marks, if one is given here. -/
def skipValue (stops : List Char) : Action Unit := do
  if ← eatMark '=' then
    skipUntil stops

def readParameter : Action Parameter := do
  if ← eatWord Reading.anyArguments then
    return ⟨Reading.anyArguments, ""⟩
  else
    let start ← position
    if ← skipType then
      let typeName ← textBetween start (← position)
      let name ← expectWord .missingParameterName
      skipValue [',', ')']
      return ⟨name, typeName⟩
    else
      refuse .missingParameterType

def parameterTurn (read : List Parameter) :
    Action (Turn (List Parameter) (List Parameter)) := do
  skipAttributes
  loop parameterModifierTurn ()
  let parameter ← readParameter
  if ← eatMark ',' then
    return .again (read ++ [parameter])
  else
    expectMark ')'
    return .leave (read ++ [parameter])

def readParameterList : Action (List Parameter) := do
  expectMark '('
  if ← eatMark ')' then
    return []
  else
    loop parameterTurn []

def enumerationHeaderTurn (name : String) (_ : Unit) :
    Action (Turn Unit Unit) := do
  if ← atMark '\x7b' then
    return .leave ()
  else
    match ← bump with
    | none => refuse (.missingEnumerationBody name)
    | some _ => return .again ()

def variantTurn (read : List String) :
    Action (Turn (List String) (List String)) := do
  skipAttributes
  if ← atMark '\x7d' then
    return .leave read
  else
    let name ← expectWord .missingVariant
    skipValue [',', '\x7d']
    if ← eatMark ',' then
      return .again (read ++ [name])
    else
      return .leave (read ++ [name])

def readEnumeration (modifiers : List Modifier) : Action Enumeration := do
  discard bump
  let name ← expectWord .missingEnumerationName
  loop (enumerationHeaderTurn name) ()
  expectMark '\x7b'
  let variants ← loop variantTurn []
  expectMark '\x7d'
  discard (eatMark ';')
  return ⟨name, modifiers, variants⟩

/-! ## Methods -/

/-- What the declarations that are read next belong to. -/
inductive Scope where
  /-- The source, or the rest of it behind a namespace without braces. -/
  | unit
  /-- The braces of a namespace. -/
  | block
  | type (name : String)
  deriving DecidableEq, Repr

def Scope.enclosing : Scope → Option String
  | .type name => some name
  | _ => none

/-- Step over type arguments in front of a dot.  Others are not touched, and
the name ends in front of them. -/
def skipInterfaceArguments : Action Bool := do
  let start ← position
  if ← atMark '<' then
    if ← trySkipAngles then
      if ← atMark '.' then
        return true
      else
        moveTo start
        return false
    else
      moveTo start
      return false
  else
    return true

def memberNameTurn (name : String) : Action (Turn String String) := do
  if ← skipInterfaceArguments then
    let next ← peekNth 1
    if (← atMark '.') && next.any Token.isAnyWord then
      discard bump
      return .again (← seenWord)
    else
      return .leave name
  else
    return .leave name

def leaveOut : Action (Option Declaration) := do
  skipMember
  return none

def isConstructor (scope : Scope) : Action Bool := do
  let next ← peekNth 1
  let token ← peek
  match scope.enclosing with
  | some name =>
      return token.any (·.isWord name) && next.any (·.isMark '(')
  | none => return false

/-- Behind the name of a member: read the parameters and the body of a method,
or skip another member. -/
def readMethodEnd (scope : Scope) (name returnType : String)
    (modifiers : List Modifier) : Action (Option Declaration) := do
  if ← atMark '(' then
    let parameters ← readParameterList
    skipMethodBody name
    match scope with
    | .type _ =>
        return some (.method ⟨name, returnType, parameters, modifiers⟩)
    | _ => return none
  else
    leaveOut

def readTypedMember (scope : Scope) (returnType : String)
    (modifiers : List Modifier) : Action (Option Declaration) := do
  match (← peek).bind plainWord? with
  | none => leaveOut
  | some first =>
      discard bump
      let name ← loop memberNameTurn first
      if ← atMark '<' then
        discard trySkipAngles
      readMethodEnd scope name returnType modifiers

def readMethod (scope : Scope) (modifiers : List Modifier) :
    Action (Option Declaration) := do
  let repeatsName ← isConstructor scope
  if repeatsName || (← atMark '~') then
    leaveOut
  else
    let start ← position
    if ← skipType then
      readTypedMember scope (← textBetween start (← position)) modifiers
    else
      leaveOut

/-! ## Declarations -/

def modifierTurn (read : List Modifier) :
    Action (Turn (List Modifier) (List Modifier)) := do
  let next ← peekNth 1
  match (← peek).bind (Reading.modifier? · next.toList) with
  | none => return .leave read
  | some modifier =>
      discard bump
      return .again (read ++ [modifier])

def typeHeaderTurn (name : String) (_ : Unit) :
    Action (Turn Unit Unit) := do
  match ← peek with
  | none => refuse (.missingTypeBody name)
  | some token =>
      if token.isMark '\x7b' || token.isMark ';' then
        return .leave ()
      else if token.isMark '\x7d' then
        refuse (.missingTypeBody name)
      else if (closer? token).isSome then
        skipBalanced
        return .again ()
      else
        discard bump
        return .again ()

def dottedNameTurn (name : String) : Action (Turn String String) := do
  if ← atMark '.' then
    discard bump
    let part ← expectWord .missingNameAfterDot
    return .again (name ++ "." ++ part)
  else
    return .leave name

def readDottedName : Action String := do
  let first ← expectWord .missingScopeName
  loop dottedNameTurn first

def readScopeOpening : Action Opening := do
  discard bump
  let name ← readDottedName
  if ← eatMark ';' then
    return .file name
  else
    expectMark '\x7b'
    return .block name

def readTypeParameters : Action (Option String) := do
  if ← atMark '<' then
    let start ← position
    skipAngles
    return some (← textBetween start (← position))
  else
    return none

/-- Step over the mark behind a header, and answer whether it opens a body. -/
def bodyFollows : Action Bool := do
  if ← eatMark ';' then
    return false
  else
    expectMark '\x7b'
    return true

def enterType (name : String) : Action Bool := do
  loop (typeHeaderTurn name) ()
  bodyFollows

/-- Step over the second word of a record declaration, if there is one. -/
def skipRecordWord (kind : TypeKind) : Action Unit := do
  if kind = .recordWord then
    if !(← eatWord "class") then
      discard (eatWord "struct")

/-- Read a type from its keyword on and up to its first member.  If there were
no keyword, a place in front of the cursor would have to be refused. -/
def readTypeOpening (modifiers : List Modifier) : Action TypeOpening := do
  match TypeKind.ofKeyword? (← seenWord) with
  | none => fail .unforeseen
  | some kind =>
      skipRecordWord kind
      let name ← expectWord .missingTypeName
      let typeParameters ← readTypeParameters
      let hasBody ← enterType name
      return ⟨⟨kind, name, typeParameters, modifiers⟩, hasBody⟩

/-- Read what the modifiers in front of it apply to, a type up to its first
member. -/
def openModified (scope : Scope) (modifiers : List Modifier) :
    Action Member := do
  let next ← peekNth 1
  match ← peek with
  | none => return .leftOut
  | some token =>
      if (Reading.declaredKind? token next.toList).isSome then
        return (← readTypeOpening modifiers).member
      else if token.isWord "enum" then
        return .complete (.enumeration (← readEnumeration modifiers))
      else if token.isMark '\x7d' then
        return .leftOut
      else
        return (← readMethod scope modifiers).elim .leftOut .complete

def openMember (scope : Scope) : Action Member := do
  skipAttributes
  let modifiers ← loop modifierTurn []
  openModified scope modifiers

section Bodies

-- how the declarations in a body are read
variable (readBody : Scope → Action (List Declaration))

/-- Read declarations up to the brace that closes them, and the brace. -/
def readBraced (scope : Scope) : Action (List Declaration) := do
  let members ← readBody scope
  expectMark '\x7d'
  discard (eatMark ';')
  return members

/-- Read the rest of a member, which is the body of a type. -/
def finishMember : Member → Action (Option Declaration)
  | .leftOut => return none
  | .complete declaration => return some declaration
  | .opened header =>
      return some (.type header
        (← readBraced readBody (.type header.name)))

def readMember (scope : Scope) : Action (Option Declaration) := do
  let start ← position
  let member ← openMember scope
  let declaration ← finishMember readBody member
  if (← position) = start then
    discard bump
  return declaration

def readNamespace : Action Declaration := do
  let opening ← readScopeOpening
  if opening.isBraced then
    return opening.close (← readBraced readBody .block)
  else
    return opening.close (← readBody .unit)

def declarationTurn (scope : Scope) (read : List Declaration) :
    Action (Turn (List Declaration) (List Declaration)) := do
  match ← peek with
  | none =>
      match scope with
      | .unit => return .leave read
      | .block => refuse .missingScopeEnd
      | .type name => refuse (.missingTypeEnd name)
  | some token =>
      if token.isMark '\x7d' then
        if scope = .unit then
          refuse .strayScopeEnd
        else
          return .leave read
      else if token.isMark ';' then
        discard bump
        return .again read
      else if token.isWord "namespace" && scope.enclosing.isNone then
        return .again (read ++ [← readNamespace readBody])
      else
        return .again (read ++ (← readMember readBody scope).toList)

end Bodies

/-- Read the declarations of a source or of a body, if bodies are nested in it
in fewer levels than these. -/
def readDeclarations : Nat → Scope → Action (List Declaration)
  | 0, _ => fail .tooDeep
  | levels + 1, scope =>
      loop (declarationTurn (readDeclarations levels) scope) []

/-- The outline of a source, read with a cursor.  A body takes a token, so that
there is a level for each token and one for the source. -/
def readSource (text : String) :
    Except Mishap (Except DiagramError Outline) :=
  match Source.tokenize (Source.firstBranches text) with
  | .error error => .ok (.error error)
  | .ok source =>
      let input : Input :=
        ⟨(Source.firstBranches text).toList, source.tokens⟩
      match readDeclarations (input.tokens.length + 1) .unit input 0 with
      | .mishap cause => .error cause
      | .refused refusal => .ok (.error (Source.errorOf source refusal))
      | .done outline _ => .ok (.ok outline)

end ClassDiagram.Cursor
