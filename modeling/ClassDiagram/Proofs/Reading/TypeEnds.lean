import ClassDiagram.Proofs.Reading.LocalTypes
import ClassDiagram.Proofs.Reading.MatchedBraces
import ClassDiagram.Proofs.Reading.TakenEnds
import ClassDiagram.Proofs.Source.NameTexts

/-!
# Ends of types

The text of a type is copied up to the last token that was taken for it, which
is a name, a closing bracket or a suffix.  So no copied type ends with a
brace, and a copied type argument list ends with the angle bracket that
closes it.
-/

namespace ClassDiagram

open Source (Token Lexeme WordsAreNames IsNameWord)

def EndsPlainly (text : String) : Prop :=
  ∃ c, text.toList.getLast? = some c ∧ c ≠ '\x7b' ∧ c ≠ '\x7d'

/-! ## Copied texts -/

theorem getLast?_verbatim (front : List Token) {last : Token} {c : Char}
    (ends : last.lexeme.text.toList.getLast? = some c) :
    (Token.verbatim (front ++ [last])).toList.getLast? = some c := by
  cases front with
  | nil =>
      exact ends
  | cons first others =>
      rw [List.cons_append, Token.verbatim, List.foldl_append]
      simp only [List.foldl_cons, List.foldl_nil, String.toList_append,
        List.getLast?_append, ends, Option.some_or]

namespace Reading

theorem WordsAreNames.suffix {tokens rest : List Token}
    (named : WordsAreNames tokens) (suffix : rest <:+ tokens) :
    WordsAreNames rest :=
  fun token member => named token (suffix.subset member)

theorem WordsAreNames.passed {tokens rest : List Token}
    (named : WordsAreNames tokens) (passed : Passed tokens rest) :
    WordsAreNames rest :=
  WordsAreNames.suffix named passed.suffix

variable {tokens rest : List Token}

/-- What was taken is copied up to the end of its last token. -/
theorem TakenTo.getLast?_taken {c : Char}
    (ended : TakenTo (fun last =>
      last.lexeme.text.toList.getLast? = some c) tokens rest) :
    (Token.verbatim (taken tokens rest)).toList.getLast? = some c := by
  obtain ⟨front, last, rfl, ends⟩ := ended
  rw [List.append_cons, taken_append]
  exact getLast?_verbatim front ends

def EndsType (token : Token) : Prop :=
  EndsPlainly token.lexeme.text

theorem endsType_of_isMark {token : Token} {c : Char}
    (isMark : token.isMark c = true)
    (noBrace : c ≠ '\x7b' ∧ c ≠ '\x7d') : EndsType token := by
  simp only [Token.isMark, beq_iff_eq] at isMark
  refine ⟨c, ?_, noBrace⟩
  rw [isMark, Lexeme.text, String.toList_singleton]
  rfl

theorem endsPlainly_of_isNameWord {text : String}
    (named : IsNameWord text) : EndsPlainly text := by
  have something : text.toList ≠ [] := by
    intro empty
    exact named.1 (String.toList_eq_nil_iff.1 empty)
  have last := List.getLast_mem something
  refine ⟨text.toList.getLast something,
    List.getLast?_eq_some_getLast something, ?_, ?_⟩
  · intro brace
    rw [brace] at last
    exact named.2 '\x7b' (by decide) last
  · intro brace
    rw [brace] at last
    exact named.2 '\x7d' (by decide) last

theorem lexeme_eq_of_word? {token : Token} {text : String}
    (isWord : word? token = some text) : token.lexeme = .word text := by
  obtain ⟨lead, lexeme⟩ := token
  cases lexeme with
  | word other =>
      cases isWord
      rfl
  | _ =>
      cases isWord

theorem isNameWord_of_word? {tokens : List Token} {token : Token}
    {text : String} (named : WordsAreNames tokens) (member : token ∈ tokens)
    (isWord : word? token = some text) : IsNameWord text :=
  named token member text (lexeme_eq_of_word? isWord)

theorem endsType_of_isAnyWord {tokens : List Token} {token : Token}
    (named : WordsAreNames tokens) (member : token ∈ tokens)
    (isWord : token.isAnyWord = true) : EndsType token := by
  obtain ⟨lead, lexeme⟩ := token
  cases lexeme with
  | word text =>
      exact endsPlainly_of_isNameWord (named _ member text rfl)
  | _ =>
      cases isWord

/-! ## Ends of types -/

theorem endsType_of_isPlainEnd {token : Token}
    (named : WordsAreNames tokens) (member : token ∈ tokens)
    (plain : isPlainEnd token = true) : EndsType token := by
  rcases isAnyWord_or_isMark_of_isPlainEnd plain with isWord | isOther
  · exact endsType_of_isAnyWord named member isWord
  · obtain ⟨c, isMark, _, noBrace⟩ := isOther
    exact endsType_of_isMark isMark noBrace

/-- A type is taken up to a token that a type may end with. -/
theorem skipType?_endsType (named : WordsAreNames tokens)
    (skipped : skipType? tokens = .ok (some rest)) :
    TakenTo EndsType tokens rest :=
  (skipType?_taken skipped).mono fun _ member plain =>
    endsType_of_isPlainEnd named member plain

end Reading

end ClassDiagram
