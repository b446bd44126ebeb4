import ClassDiagram.Source.Scanner

/-!
# Literals

String, character and numeric literals are read whole, so that quotes and
braces inside them never reach the declaration reader.

An interpolated string may hold holes in braces, and a hole may hold
literals and further braces.  The nesting is bounded by the length of the
text, because every level takes at least one character: a literal whose
depth bound is the length of its text is never cut short by the bound.
-/

namespace ClassDiagram.Source

open Scanner

def quote : Scanner :=
  char '"'

def rawFence : List Char :=
  ['"', '"', '"']

def escaped : Scanner :=
  (char '\\').andThen (one fun _ => true)

def doubledBrace : Scanner :=
  oneOf [word ['{', '{'], word ['}', '}']]

/-- A raw string: everything between three quotes and the next three, with
any number of dollar signs in front. -/
def rawString : Scanner :=
  inOrder
    [many (char '$'), word rawFence, many (oneBefore rawFence), word rawFence]

/-- A verbatim string, where a doubled quote is the only escape. -/
def verbatimString : Scanner :=
  inOrder
    [char '@', quote, many (oneOf [word ['"', '"'], one (· != '"')]), quote]

def regularString : Scanner :=
  inOrder
    [quote, many (oneOf [escaped, noneOf ['\\', '"', '\n']]),
      quote]

def characterLiteral : Scanner :=
  inOrder
    [char '\'', many (oneOf [escaped, noneOf ['\\', '\'', '\n']]),
      char '\'']

def interpolatedVerbatim (hole : Scanner) : Scanner :=
  inOrder
    [oneOf [word ['@', '$'], word ['$', '@']], quote,
      many (oneOf
        [word ['"', '"'], doubledBrace, hole, noneOf ['"', '{']]),
      quote]

def interpolatedString (hole : Scanner) : Scanner :=
  inOrder
    [char '$', quote,
      many (oneOf
        [escaped, doubledBrace, hole,
          noneOf ['\\', '"', '{', '\n']]),
      quote]

mutual

/-- A string or character literal, nested at most this deep.  A raw string
is tried before the forms that begin like it. -/
def literalWithin : Nat → Scanner
  | 0 => refuse
  | depth + 1 => delayed fun _ =>
      oneOf
        [rawString, interpolatedVerbatim (holeWithin depth), verbatimString,
          interpolatedString (holeWithin depth), regularString,
          characterLiteral]

/-- A hole of an interpolated string, nested at most this deep. -/
def holeWithin : Nat → Scanner
  | 0 => refuse
  | depth + 1 => delayed fun _ =>
      inOrder
        [char '{',
          many (oneOf
            [literalWithin depth, holeWithin depth,
              noneOf ['{', '}', '"', '\'']]),
          char '}']

end

/-- The characters that a string or character literal can begin with. -/
def literalMarks : List Char :=
  ['"', '\'', '$', '@']

def beginsLiteral (text : List Char) : Bool :=
  text.head?.any literalMarks.contains

/-- A string or character literal.  The length of the text is looked at only
if the text begins like a literal. -/
def quotedLiteral : Scanner where
  run text :=
    if beginsLiteral text then
      (literalWithin text.length).run text
    else
      ⟨none, 0⟩
  keeps := by
    rintro text portion accepted
    split at accepted
    · exact (literalWithin _).keeps accepted
    · cases accepted
  bounded text := by
    split
    · exact (literalWithin _).bounded text
    · exact Nat.zero_le _

theorem refusesAtOnce_char {wanted c : Char} (other : c ≠ wanted)
    (rest : List Char) : (char wanted).RefusesAtOnce (c :: rest) :=
  refusesAtOnce_one (by simpa using other) rest

/-- Every literal begins with one of its marks. -/
theorem refusesAtOnce_literalWithin (depth : Nat) {c : Char}
    (other : c ∉ literalMarks) (rest : List Char) :
    (literalWithin depth).RefusesAtOnce (c :: rest) := by
  simp only [literalMarks, List.mem_cons, List.not_mem_nil, or_false,
    not_or] at other
  obtain ⟨notQuote, notApostrophe, notDollar, notAt⟩ := other
  have quoteRefused := refusesAtOnce_char notQuote rest
  have apostropheRefused := refusesAtOnce_char notApostrophe rest
  have dollarRefused := refusesAtOnce_char notDollar rest
  have atRefused := refusesAtOnce_char notAt rest
  have verbatimRefused :
      (oneOf [word ['@', '$'], word ['$', '@']]).RefusesAtOnce
        (c :: rest) :=
    (atRefused.andThen _).either
      ((dollarRefused.andThen _).either (refusesAtOnce_refuse _))
  cases depth with
  | zero =>
      rw [literalWithin]
      exact refusesAtOnce_refuse _
  | succ depth =>
      unfold RefusesAtOnce
      rw [literalWithin, run_delayed]
      exact
        (dollarRefused.many_andThen
            ((quoteRefused.andThen _).andThen _)).either
          ((verbatimRefused.inOrder _).either
            ((atRefused.inOrder _).either
              ((dollarRefused.inOrder _).either
                ((quoteRefused.inOrder _).either
                  ((apostropheRefused.inOrder _).either
                    (refusesAtOnce_refuse _))))))

/-- Looking at the first character changes nothing: a literal is read under
the bound that the length of its text gives. -/
theorem run_quotedLiteral (text : List Char) :
    quotedLiteral.run text = (literalWithin text.length).run text := by
  change (if beginsLiteral text then _ else _) = _
  split
  · rfl
  · rename_i noMark
    cases text with
    | nil =>
        rfl
    | cons c rest =>
        have other : c ∉ literalMarks := by
          simpa [beginsLiteral] using noMark
        exact (refusesAtOnce_literalWithin _ other rest).symm

/-- A digit or another character that may go on a number; the shape of the
number is not checked. -/
def isNumberPart (c : Char) : Bool :=
  c.isAlphanum || c == '_' || c == '.'

def number : Scanner :=
  (one Char.isDigit).andThen (many (one isNumberPart))

end ClassDiagram.Source
