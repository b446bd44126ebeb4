import ClassDiagram.Source.Literal
import ClassDiagram.Source.Token
import ClassDiagram.Text.CharacterClass

/-!
# Tokenized texts

A text is trivia, then tokens with trivia behind each.  The forms of a token
are tried in a fixed order: literals before the characters they begin with,
an arrow before its equals sign, a word before a lone at sign.  Every
character but the two quotes is a token of its own if nothing longer fits,
so only a quote can stop the reading.
-/

namespace ClassDiagram.Source

open Scanner

/-! ## Trivia

What may stand between two tokens: spacing, line comments, block comments
and preprocessor lines.  None of it reaches the declaration reader. -/

def spacing : Scanner :=
  atLeastOne (one Text.isSpacing)

def restOfLine : Scanner :=
  many (one (· != '\n'))

def lineComment : Scanner :=
  (word ['/', '/']).andThen restOfLine

/-- Everything from a slash and a star to the next star and slash. -/
def blockComment : Scanner :=
  inOrder
    [word ['/', '*'], many (oneBefore ['*', '/']), word ['*', '/']]

def preprocessorLine : Scanner :=
  (char '#').andThen restOfLine

def triviaPiece : Scanner :=
  oneOf [spacing, lineComment, blockComment, preprocessorLine]

def trivia : Scanner :=
  many triviaPiece

/-! ## Tokens -/

/-- An identifier, with an at sign in front if it is verbatim. -/
def identifier : Scanner :=
  inOrder
    [optional (char '@'), one Text.isIdentifierStart,
      many (one Text.isIdentifierPart)]

def arrow : Scanner :=
  word ['=', '>']

/-- Any character that does not begin a literal by itself. -/
def singleMark : Scanner :=
  noneOf ['"', '\'']

/-- One form of token: how it is read and what lexeme it makes. -/
structure TokenForm where
  scanner : Scanner
  lexeme : List Char → Lexeme

/-- The forms of a token in the order in which they are tried. -/
def tokenForms : List TokenForm :=
  [⟨quotedLiteral, fun text => .literal (String.ofList text)⟩,
    ⟨number, fun text => .literal (String.ofList text)⟩,
    ⟨arrow, fun _ => .arrow⟩,
    ⟨identifier, fun text => .word (String.ofList text)⟩,
    ⟨singleMark, fun text => .mark (text.headD ' ')⟩]

structure LexemeRead where
  lexeme : Lexeme
  portion : Portion
  deriving DecidableEq, Repr

/-- The outcome of reading a lexeme, and the reach of all forms tried. -/
structure LexemeAttempt where
  found? : Option LexemeRead
  reach : Nat
  deriving DecidableEq, Repr

def readLexeme : List TokenForm → List Char → LexemeAttempt
  | [], _ => ⟨none, 0⟩
  | form :: others, text =>
      let attempt := form.scanner.run text
      match attempt.portion? with
      | some portion =>
          ⟨some ⟨form.lexeme portion.taken, portion⟩, attempt.reach⟩
      | none =>
          let later := readLexeme others text
          ⟨later.found?, max attempt.reach later.reach⟩

/-- What a lexeme takes and what it leaves make up the text. -/
theorem readLexeme_keeps {forms : List TokenForm} {text : List Char}
    {found : LexemeRead}
    (accepted : (readLexeme forms text).found? = some found) :
    found.portion.taken ++ found.portion.rest = text := by
  induction forms with
  | nil =>
      cases accepted
  | cons form others inductionHypothesis =>
      simp only [readLexeme] at accepted
      split at accepted
      · rename_i portion portionRead
        cases accepted
        exact form.scanner.keeps portionRead
      · exact inductionHypothesis accepted

/-- A text read whole: its tokens and the trivia behind the last one. -/
structure Tokenized where
  tokens : List Token
  trailing : String
  deriving DecidableEq, Repr

def Tokenized.push (source : Tokenized) (token : Token) : Tokenized :=
  { source with tokens := token :: source.tokens }

/-- What is left behind the next token is less than the text. -/
theorem rest_length_lt_of_readLexeme {text : List Char} {found : LexemeRead}
    (accepted :
      (readLexeme tokenForms
        (repeated triviaPiece text).portion.rest).found? = some found)
    (something : ¬ found.portion.taken = []) :
    found.portion.rest.length < text.length := by
  have gapLengths := congrArg List.length (repeated_keeps triviaPiece text)
  have lexemeLengths := congrArg List.length (readLexeme_keeps accepted)
  have positive := List.length_pos_iff.2 something
  rw [List.length_append] at gapLengths lexemeLengths
  omega

/-- Read tokens to the end of the text.  A text that cannot be read answers
the number of characters before the furthest place that was reached. -/
def tokenizeFrom (text : List Char) : Except Nat Tokenized :=
  let gap := repeated triviaPiece text
  let before := gap.portion.taken
  if gap.portion.rest = [] then
    .ok ⟨[], String.ofList before⟩
  else
    let attempt := readLexeme tokenForms gap.portion.rest
    let reach := max gap.reach (before.length + attempt.reach)
    match _ : attempt.found? with
    | none => .error reach
    | some found =>
        if _ : found.portion.taken = [] then
          .error reach
        else
          match tokenizeFrom found.portion.rest with
          | .ok later =>
              .ok (later.push ⟨String.ofList before, found.lexeme⟩)
          | .error furthest =>
              .error (max reach
                (before.length + found.portion.taken.length + furthest))
termination_by text.length
decreasing_by
  exact rest_length_lt_of_readLexeme ‹_› ‹_›

def Tokenized.spans (source : Tokenized) : List (Nat × Nat) :=
  Token.spans 0 source.tokens

def Tokenized.written (source : Tokenized) : List Char :=
  Token.writtenAll source.tokens ++ source.trailing.toList

end ClassDiagram.Source
