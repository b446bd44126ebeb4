import ClassDiagram.Reading.Member
import ClassDiagram.Source.ConditionalBranches
import ClassDiagram.Source.Tokenized
import ClassDiagram.Text.Position

/-!
# Outlines

The outline of a source is read in one pass over its tokens.  The reader
carries the declarations whose bodies are open, innermost first, and for each
of them what was read before it in the declaration around it.  Whatever is
complete joins what was read of the innermost body.

A namespace without braces runs to the end of the source, so it is closed
there and nowhere else; a closing brace inside it closes nothing.
-/

namespace ClassDiagram.Reading

open Source (Token Lexeme)

/-- A declaration whose body is open. -/
inductive Opening where
  /-- A namespace in braces. -/
  | block (name : String)
  /-- A namespace that runs to the end of the source. -/
  | file (name : String)
  | type (header : TypeHeader)
  deriving DecidableEq, Repr

def Opening.close (opening : Opening) (members : List Declaration) :
    Declaration :=
  match opening with
  | .block name => .scope name members
  | .file name => .scope name members
  | .type header => .type header members

/-- A declaration whose body is open, and what was read before it in the
declaration around it, latest first. -/
structure Frame where
  opening : Opening
  before : List Declaration
  deriving DecidableEq, Repr

abbrev Frames := List Frame

def enclosingType (frames : Frames) : Option String :=
  match frames with
  | ⟨.type header, _⟩ :: _ => some header.name
  | _ => none

def insideType (frames : Frames) : Bool :=
  (enclosingType frames).isSome

/-- Close what may be closed at the end of the source.  The members of the
innermost body are given latest first. -/
def closeAll : Frames → List Declaration → Except Refusal Outline
  | [], members => .ok members.reverse
  | ⟨.file name, before⟩ :: frames, members =>
      closeAll frames (.scope name members.reverse :: before)
  | ⟨.block _, _⟩ :: _, _ => refuseAt .missingScopeEnd []
  | ⟨.type header, _⟩ :: _, _ => refuseAt (.missingTypeEnd header.name) []

def readNameParts (name : String) : List Token → Result String
  | [] => .ok (name, [])
  | [only] =>
      if only.isMark '.' then
        refuseAt .missingNameAfterDot []
      else
        .ok (name, [only])
  | dot :: next :: rest =>
      if dot.isMark '.' then
        match word? next with
        | some part => readNameParts (name ++ "." ++ part) rest
        | none => refuseAt .missingNameAfterDot (next :: rest)
      else
        .ok (name, dot :: next :: rest)

def readDottedName (tokens : List Token) : Result String :=
  match expectWord .missingScopeName tokens with
  | .error refusal => .error refusal
  | .ok (first, rest) => readNameParts first rest

/-- Read a namespace behind its keyword and up to its first member. -/
def readScopeOpening (tokens : List Token) : Result Opening :=
  match readDottedName tokens with
  | .error refusal => .error refusal
  | .ok (name, rest) =>
      if atMark ';' rest then
        .ok (.file name, rest.tail)
      else
        (expectMark '{' rest).map fun body => (.block name, body)

theorem readNameParts_length_le
    {name dotted : String} {tokens rest : List Token}
    (read : readNameParts name tokens = .ok (dotted, rest)) :
    rest.length ≤ tokens.length := by
  fun_induction readNameParts name tokens with
  | case1 | case3 | case6 =>
      cases read
      exact Nat.le_refl _
  | case2 | case5 =>
      cases read
  | case4 _ _ _ _ _ _ _ inductionHypothesis =>
      have bound := inductionHypothesis read
      simp only [List.length_cons]
      omega

theorem readScopeOpening_length_lt {tokens rest : List Token}
    {opening : Opening}
    (read : readScopeOpening tokens = .ok (opening, rest)) :
    rest.length < tokens.length := by
  unfold readScopeOpening readDottedName at read
  split at read
  · cases read
  · rename_i name behindName dotted
    split at dotted
    · cases dotted
    · rename_i first others named
      have firstBound := expectWord_length_lt named
      have nameBound := readNameParts_length_le dotted
      split at read
      · cases read
        rw [List.length_tail]
        omega
      · cases entered : expectMark '{' behindName with
        | error refusal =>
            rw [entered] at read
            cases read
        | ok body =>
            have bodyBound := expectMark_length_lt entered
            rw [entered] at read
            cases read
            omega

/-- Read declarations to the end of the source.  The members of the
innermost open body are given latest first. -/
def readFrom (frames : Frames) (members : List Declaration)
    (tokens : List Token) : Except Refusal Outline :=
  match tokens with
  | [] => closeAll frames members
  | token :: rest =>
      if token.isMark '}' then
        match frames with
        | [] => refuseAt .strayScopeEnd (token :: rest)
        | ⟨.file _, _⟩ :: _ => refuseAt .strayScopeEnd (token :: rest)
        | ⟨opening, before⟩ :: outer =>
            readFrom outer (opening.close members.reverse :: before)
              (skipMark ';' rest)
      else if token.isMark ';' then
        readFrom frames members rest
      else if token.isWord "namespace" && !insideType frames then
        match _ : readScopeOpening rest with
        | .error refusal => .error refusal
        | .ok (opening, body) =>
            readFrom (⟨opening, members⟩ :: frames) [] body
      else
        match _ : readMember (enclosingType frames) (token :: rest) with
        | .error refusal => .error refusal
        | .ok (.leftOut, behind) => readFrom frames members behind
        | .ok (.complete declaration, behind) =>
            readFrom frames (declaration :: members) behind
        | .ok (.opened header, body) =>
            readFrom (⟨.type header, members⟩ :: frames) [] body
termination_by tokens.length
decreasing_by
  · exact Nat.lt_succ_of_le (skipMark_length_le _ _)
  · exact Nat.lt_succ_self _
  · exact Nat.lt_succ_of_lt (readScopeOpening_length_lt ‹_›)
  all_goals
    exact readMember_length_lt (Bool.eq_false_iff.2 ‹_›) ‹_›

/-- The outline of a whole source, given its tokens. -/
def readOutline (tokens : List Token) : Except Refusal Outline :=
  readFrom [] [] tokens

end ClassDiagram.Reading
