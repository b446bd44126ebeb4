import ClassDiagram.Proofs.Reading.Attributes
import ClassDiagram.Proofs.Source.ContinuedLines
import ClassDiagram.Reading.Source
import Mathlib.Data.List.TakeWhile

/-!
# Trivia at the head of a source

What is skipped in front of the first token has no part in the outline.  This
is said of the text with its inactive branches blanked; whether the same
branches are blanked is another matter, and a byte-order mark is a case in
point.  It is skipped like a blank, but the directive on its line is not seen.
-/

namespace ClassDiagram

open Text (isBlank isSpacing dropBlank)

namespace Reading

open Source (Token Lexeme)

variable {lead newLead : String} {lexeme : Lexeme} {rest : List Token}

/-- Trivia in front of a declaration makes no difference. -/
theorem readFrom_respaced (frames : Frames) (members : List Declaration) :
    readFrom frames members (⟨lead, lexeme⟩ :: rest) =
      readFrom frames members (⟨newLead, lexeme⟩ :: rest) := by
  by_cases reads : readsMember frames (⟨lead, lexeme⟩ :: rest) = true
  · have newReads : readsMember frames (⟨newLead, lexeme⟩ :: rest) = true :=
      reads
    have inside : Token.isMark ⟨lead, lexeme⟩ '\x7d' = false := by
      simp only [readsMember, Bool.not_eq_true', Bool.or_eq_false_iff]
        at reads
      exact reads.1.1
    rw [readFrom_of_readsMember reads, readFrom_of_readsMember newReads,
      readMember_respaced inside]
  · rw [readFrom.eq_def, readFrom.eq_def frames members (⟨newLead, _⟩ :: _)]
    simp only [readsMember, Bool.not_eq_true', Bool.not_eq_false,
      Bool.or_eq_true] at reads
    rcases reads with (ends | separator) | scope
    · have newEnds : Token.isMark ⟨newLead, lexeme⟩ '\x7d' = true := ends
      simp only [ends, newEnds, if_true, refuseAt, List.length_cons]
    · have newSeparator : Token.isMark ⟨newLead, lexeme⟩ ';' = true :=
        separator
      simp only [isMark_unique separator (d := '\x7d') (by decide),
        isMark_unique newSeparator (d := '\x7d') (by decide), separator,
        newSeparator, if_true]
      rfl
    · obtain ⟨isScope, outside⟩ := Bool.and_eq_true_iff.1 scope
      have newIsScope : Token.isWord ⟨newLead, lexeme⟩ "namespace" = true :=
        isScope
      simp only [isMark_eq_false_of_isWord isScope,
        isMark_eq_false_of_isWord newIsScope, Bool.false_eq_true, if_false,
        isScope, newIsScope, outside, Bool.and_self, if_true]

end Reading

/-! ## Outlines of texts -/

namespace Source

open Scanner
open Reading (readOutline readFrom readFrom_respaced)

variable {left right part rest text : List Char}

/-- The outline of a text in which all branches are read. -/
def outlineOf? (text : List Char) : Option Outline :=
  match tokenizeFrom text with
  | .ok source => (readOutline source.tokens).toOption
  | .error _ => none

def behindTrivia (text : List Char) : List Char :=
  (repeated triviaPiece text).portion.rest

/-- The outline of a text that begins with a token or is empty. -/
def outlineFromToken? (text : List Char) : Option Outline :=
  if text = [] then
    some []
  else
    (readLexeme tokenForms text).found?.bind fun found =>
      if found.portion.taken = [] then
        none
      else
        match tokenizeFrom found.portion.rest with
        | .ok later =>
            (readOutline (⟨"", found.lexeme⟩ :: later.tokens)).toOption
        | .error _ => none

theorem outlineOf?_eq (text : List Char) :
    outlineOf? text = outlineFromToken? (behindTrivia text) := by
  rw [outlineOf?, outlineFromToken?, tokenizeFrom, behindTrivia]
  by_cases none : (repeated triviaPiece text).portion.rest = []
  · simp only [none, if_true]
    rw [readOutline, readFrom.eq_def]
    rfl
  · simp only [none, if_false]
    split
    · rename_i source cut
      split at cut
      · cases cut
      · rename_i found lexemeRead
        rw [lexemeRead]
        split at cut
        · cases cut
        · rename_i something
          split at cut
          · rename_i later furtherCut
            cases cut
            simp only [Option.bind_some, something, if_false, furtherCut]
            exact congrArg Except.toOption (readFrom_respaced [] [])
          · cases cut
    · rename_i furthest cut
      split at cut
      · rename_i refused
        rw [refused]
        rfl
      · rename_i found lexemeRead
        rw [lexemeRead]
        split at cut
        · rename_i nothing
          simp [nothing]
        · rename_i something
          split at cut
          · cases cut
          · rename_i further furtherCut
            simp [something, furtherCut]

theorem toOption_readSource (source : String) :
    (readSource source).toOption = outlineOf? (shown source.toList) := by
  rw [readSource, tokenize, toList_firstBranches, outlineOf?, shown]
  cases tokenizeFrom (blankInactive [] (splitLines source.toList)).flatten with
  | error furthest =>
      rfl
  | ok tokenized =>
      simp only
      cases readOutline tokenized.tokens <;> rfl

/-! ## Pieces of trivia in front -/

theorem outlineOf?_behind (piece : PieceBefore part rest) :
    outlineOf? (part ++ rest) = outlineOf? rest := by
  have behind : behindTrivia (part ++ rest) = behindTrivia rest := by
    rw [behindTrivia, portion_repeated_of_accepted
      (triviaPiece_reads_iff.2 piece) piece.ne_nil, behindTrivia]
  rw [outlineOf?_eq, outlineOf?_eq, behind]

theorem outlineOf?_dropSpacing (text : List Char) :
    outlineOf? (text.dropWhile isSpacing) = outlineOf? text := by
  have parts := List.takeWhile_append_dropWhile (p := isSpacing) (l := text)
  by_cases none : text.takeWhile isSpacing = []
  · rw [none, List.nil_append] at parts
    rw [parts]
  · have piece : PieceBefore (text.takeWhile isSpacing)
        (text.dropWhile isSpacing) := by
      refine .spacing none (fun c member => List.mem_takeWhile_imp member) ?_
      intro c first
      have notBlank := List.head?_dropWhile_not isSpacing text
      rw [Option.mem_def.1 first] at notBlank
      exact notBlank
    have behind := outlineOf?_behind piece
    rw [parts] at behind
    exact behind.symm

/-- Spacing in front is skipped whether or not more of it follows. -/
theorem outlineOf?_behind_spacing
    (blank : ∀ c ∈ part, isSpacing c = true) (text : List Char) :
    outlineOf? (part ++ text) = outlineOf? text := by
  rw [← outlineOf?_dropSpacing, List.dropWhile_append_of_pos blank,
    outlineOf?_dropSpacing]

theorem isSpacing_of_isBlank {c : Char} (blank : isBlank c = true) :
    isSpacing c = true := by
  rw [isSpacing, blank, Bool.true_or]

/-- A directive begins with a number sign behind blanks. -/
theorem exists_numberSign {directive : Directive}
    (blank : ∀ c ∈ rest, isBlank c = true)
    (found : Directive.ofLine? (part ++ rest) = some directive) :
    ∃ blanks body, part = blanks ++ '#' :: body ∧
      ∀ c ∈ blanks, isSpacing c = true := by
  have parts : part.takeWhile isBlank ++ dropBlank part = part :=
    List.takeWhile_append_dropWhile
  rcases remaining : dropBlank part with - | ⟨c, body⟩
  · have nothing : dropBlank (part ++ rest) = [] := by
      rw [dropBlank, List.dropWhile_append]
      simp_all [dropBlank]
    rw [Directive.ofLine?, directiveName?, nothing] at found
    cases found
  · have begun : dropBlank (part ++ rest) = c :: body ++ rest := by
      rw [dropBlank, List.dropWhile_append]
      simp_all [dropBlank]
    have sign : c = '#' := by
      rw [Directive.ofLine?, directiveName?, begun] at found
      by_contra other
      simp [other] at found
    rw [remaining, sign] at parts
    exact ⟨_, body, parts.symm, fun d member =>
      isSpacing_of_isBlank (List.mem_takeWhile_imp member)⟩

/-- A directive in front is skipped up to the end of its line. -/
theorem outlineOf?_behind_directive {directive : Directive}
    (oneLine : '\n' ∉ part) (blank : ∀ c ∈ rest, isBlank c = true)
    (found : Directive.ofLine? (part ++ rest) = some directive)
    (ended : ∀ c ∈ text.head?, c = '\n') :
    outlineOf? (part ++ text) = outlineOf? text := by
  obtain ⟨blanks, body, rfl, spacing⟩ := exists_numberSign blank found
  simp only [List.mem_append, List.mem_cons, not_or] at oneLine
  rw [List.append_assoc, outlineOf?_behind_spacing spacing]
  exact outlineOf?_behind (.directive oneLine.2.2 ended)

theorem outlineOf?_behind_directiveLine {line : List Char}
    {directive : Directive} (ended : IsEndedLine line)
    (found : Directive.ofLine? line = some directive) (text : List Char) :
    outlineOf? (line ++ text) = outlineOf? text := by
  obtain ⟨body, rfl, oneLine⟩ := ended
  have newlineBlank : ∀ c ∈ ['\n'], isBlank c = true :=
    List.forall_mem_singleton.2 (by decide)
  have newlineSpacing : ∀ c ∈ ['\n'], isSpacing c = true :=
    List.forall_mem_singleton.2 (by decide)
  rw [List.append_assoc,
    outlineOf?_behind_directive oneLine newlineBlank found (by simp),
    outlineOf?_behind_spacing newlineSpacing]

end Source

end ClassDiagram
