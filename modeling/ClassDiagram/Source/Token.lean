import ClassDiagram.Text.Position

/-!
# Tokens

A token is a lexeme together with the trivia in front of it.  A list of
tokens therefore determines both the places of its tokens and the verbatim
text of any run of them, and whoever reads tokens needs no source beside
them.
-/

namespace ClassDiagram.Source

inductive Lexeme where
  /-- An identifier or a keyword; a verbatim identifier keeps its at sign. -/
  | word (text : String)
  /-- A string, character or numeric literal as written. -/
  | literal (text : String)
  /-- An equals sign and a greater-than sign. -/
  | arrow
  /-- Any other single character. -/
  | mark (c : Char)
  deriving DecidableEq, Repr

def Lexeme.text : Lexeme → String
  | .word text => text
  | .literal text => text
  | .arrow => "=>"
  | .mark c => String.singleton c

def Lexeme.shown : Lexeme → String
  | .word text => "'" ++ text ++ "'"
  | .literal _ => "literal"
  | .arrow => "'=>'"
  | .mark c => "'" ++ String.singleton c ++ "'"

/-- A lexeme and the trivia between it and what comes before it. -/
structure Token where
  leading : String
  lexeme : Lexeme
  deriving DecidableEq, Repr

namespace Token

def written (token : Token) : List Char :=
  token.leading.toList ++ token.lexeme.text.toList

def isMark (token : Token) (c : Char) : Bool :=
  token.lexeme == .mark c

def isWord (token : Token) (text : String) : Bool :=
  token.lexeme == .word text

def isAnyWord (token : Token) : Bool :=
  match token.lexeme with
  | .word _ => true
  | _ => false

def writtenAll (tokens : List Token) : List Char :=
  tokens.flatMap written

/-- The verbatim text of a run of tokens: from the first lexeme to the last,
with the trivia between them. -/
def verbatim : List Token → String
  | [] => ""
  | first :: others =>
      others.foldl (fun text token => text ++ token.leading ++ token.lexeme.text)
        first.lexeme.text

/-- The verbatim text of tokens is what they are written as behind the first
trivia. -/
theorem toList_verbatim_cons (first : Token) (others : List Token) :
    (verbatim (first :: others)).toList =
      first.lexeme.text.toList ++ writtenAll others := by
  have appended : ∀ (tokens : List Token) (start : String),
      (tokens.foldl
        (fun text token => text ++ token.leading ++ token.lexeme.text)
        start).toList = start.toList ++ writtenAll tokens := by
    intro tokens
    induction tokens with
    | nil =>
        intro start
        simp [writtenAll]
    | cons token tokens inductionHypothesis =>
        intro start
        rw [List.foldl_cons, inductionHypothesis]
        simp [writtenAll, written, List.append_assoc]
  exact appended others first.lexeme.text

/-- The bytes that each token covers, the first trivia beginning at the
given offset. -/
def spans : Nat → List Token → List (Nat × Nat)
  | _, [] => []
  | offset, token :: others =>
      let start := offset + token.leading.utf8ByteSize
      let stop := start + token.lexeme.text.utf8ByteSize
      (start, stop) :: spans stop others

end Token

end ClassDiagram.Source
