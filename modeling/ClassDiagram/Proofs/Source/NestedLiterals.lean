import ClassDiagram.Proofs.Source.ExactReading

/-!
# Literals of any nesting

A grammar of string and character literals, and that each literal of it is
one token.  An interpolated string has holes, a hole may have further literals
and groups in braces, and both may be nested to any depth.

The grammar leaves out what would be read otherwise.  Two literals that touch
are not in it, since their quotes could join, and a hole does not begin with a
group, since two braces stand for one.

The reader bounds the nesting by a number.  The induction is on the
derivation, for every bound that is at least the length of the text and for
everything that may follow it; the length of the text is therefore enough.
-/

namespace ClassDiagram.Source

open Scanner

/-! ## The grammar -/

/-- Any number of parts of one kind. -/
inductive Repeats (IsPart : List Char → Prop) : List Char → Prop
  | none : Repeats IsPart []
  | more {part others : List Char} (first : IsPart part)
      (later : Repeats IsPart others) : Repeats IsPart (part ++ others)

/-- A backslash and any character, or one that is neither a backslash nor
this quote nor a newline. -/
inductive IsEscapedPart (mark : Char) : List Char → Prop
  | escape (c : Char) : IsEscapedPart mark ['\\', c]
  | plain {c : Char} (other : c ∉ ['\\', mark, '\n']) :
      IsEscapedPart mark [c]

/-- A doubled quote, or any other character. -/
inductive IsVerbatimPart : List Char → Prop
  | quote : IsVerbatimPart ['"', '"']
  | plain {c : Char} (other : c ≠ '"') : IsVerbatimPart [c]

/-- What a text is a part of. -/
inductive Region where
  /-- A whole literal. -/
  | literal
  /-- What stands between the quotes of an interpolated string. -/
  | string (verbatim : Bool)
  /-- What stands between two braces, or what is left of it behind some
  literal. -/
  | hole (behindLiteral : Bool)
  deriving DecidableEq, Repr

/-- The characters that do not stand for themselves in an interpolated
string. -/
def stringSigns (verbatim : Bool) : List Char :=
  if verbatim then ['"', '{', '}'] else ['\\', '"', '{', '}', '\n']

/-- The characters that do not stand for themselves in a hole. -/
def holeSigns : List Char :=
  ['{', '}', '"', '\'', '$', '@']

/-- The texts of the grammar. -/
inductive WellFormed : Region → List Char → Prop
  | regular {inside : List Char}
      (parts : Repeats (IsEscapedPart '"') inside) :
      WellFormed .literal ('"' :: (inside ++ ['"']))
  | character {inside : List Char}
      (parts : Repeats (IsEscapedPart '\'') inside) :
      WellFormed .literal ('\'' :: (inside ++ ['\'']))
  | verbatim {inside : List Char} (parts : Repeats IsVerbatimPart inside) :
      WellFormed .literal ('@' :: '"' :: (inside ++ ['"']))
  | interpolated {inside : List Char}
      (parts : WellFormed (.string false) inside) :
      WellFormed .literal ('$' :: '"' :: (inside ++ ['"']))
  | interpolatedVerbatim {sigils inside : List Char}
      (either : sigils = ['$', '@'] ∨ sigils = ['@', '$'])
      (parts : WellFormed (.string true) inside) :
      WellFormed .literal (sigils ++ '"' :: (inside ++ ['"']))
  | stringEnd (verbatim : Bool) : WellFormed (.string verbatim) []
  | escape (c : Char) {others : List Char}
      (later : WellFormed (.string false) others) :
      WellFormed (.string false) ('\\' :: c :: others)
  | doubledQuote {others : List Char}
      (later : WellFormed (.string true) others) :
      WellFormed (.string true) ('"' :: '"' :: others)
  | doubledBrace {verbatim : Bool} {brace : Char} {others : List Char}
      (isBrace : brace = '{' ∨ brace = '}')
      (later : WellFormed (.string verbatim) others) :
      WellFormed (.string verbatim) (brace :: brace :: others)
  | hole {verbatim : Bool} {inside others : List Char}
      (parts : WellFormed (.hole false) inside)
      (noGroup : inside.head? ≠ some '{')
      (later : WellFormed (.string verbatim) others) :
      WellFormed (.string verbatim) ('{' :: (inside ++ '}' :: others))
  | stringPlain {verbatim : Bool} {c : Char} {others : List Char}
      (other : c ∉ stringSigns verbatim)
      (later : WellFormed (.string verbatim) others) :
      WellFormed (.string verbatim) (c :: others)
  | holeEnd (behindLiteral : Bool) : WellFormed (.hole behindLiteral) []
  | nested {text others : List Char}
      (literal : WellFormed .literal text)
      (later : WellFormed (.hole true) others) :
      WellFormed (.hole false) (text ++ others)
  | group {behindLiteral : Bool} {inside others : List Char}
      (parts : WellFormed (.hole false) inside)
      (later : WellFormed (.hole false) others) :
      WellFormed (.hole behindLiteral) ('{' :: (inside ++ '}' :: others))
  | holePlain {behindLiteral : Bool} {c : Char} {others : List Char}
      (other : c ∉ holeSigns)
      (later : WellFormed (.hole false) others) :
      WellFormed (.hole behindLiteral) (c :: others)

def IsLiteral (text : List Char) : Prop :=
  WellFormed .literal text

variable {text inside rest others : List Char} {depth : Nat}

/-! ## How texts of the grammar begin -/

theorem Repeats.head?_ne (parts : Repeats (IsEscapedPart '"') inside) :
    inside.head? ≠ some '"' := by
  cases parts with
  | none =>
      simp
  | more first later =>
      cases first with
      | escape c =>
          simp
      | plain other =>
          rintro equal
          cases equal
          exact other (by simp)

theorem WellFormed.string_head?_ne
    (parts : WellFormed (.string false) inside) :
    inside.head? ≠ some '"' := by
  cases parts with
  | stringEnd | escape | hole =>
      simp
  | doubledBrace isBrace later =>
      rcases isBrace with rfl | rfl <;> simp
  | stringPlain other later =>
      rintro equal
      cases equal
      exact other (by decide)

/-- No quote stands where a literal ends in a hole. -/
theorem WellFormed.behindLiteral_head?_ne
    (parts : WellFormed (.hole true) inside) :
    inside.head? ≠ some '"' := by
  cases parts with
  | holeEnd | group =>
      simp
  | holePlain other later =>
      rintro equal
      cases equal
      exact other (by decide)

theorem WellFormed.exists_mark (wellFormed : WellFormed .literal text) :
    ∃ c behind, text = c :: behind ∧ c ∈ literalMarks := by
  cases wellFormed with
  | regular | character | verbatim | interpolated =>
      exact ⟨_, _, rfl, by decide⟩
  | interpolatedVerbatim either parts =>
      rcases either with rfl | rfl <;> exact ⟨_, _, rfl, by decide⟩

/-! ## Which forms refuse a text -/

theorem not_fence_prefix (insideHead : inside.head? ≠ some '"')
    (restHead : rest.head? ≠ some '"') :
    ¬ rawFence <+: '"' :: (inside ++ '"' :: rest) := by
  rcases inside with - | ⟨c, others⟩
  · rcases rest with - | ⟨d, behind⟩
    · simp [rawFence]
    · have different : '"' ≠ d := fun equal => restHead (equal ▸ rfl)
      simp [rawFence, different]
  · have different : '"' ≠ c := fun equal => insideHead (equal ▸ rfl)
    simp [rawFence, different]

theorem rawString_refuses {dollars : List Char}
    (areDollars : ∀ c ∈ dollars, c = '$') (ended : text.head? ≠ some '$')
    (noFence : ¬ rawFence <+: text) :
    rawString.Refuses (dollars ++ text) := by
  have dollarsRead : (many (char '$')).Reads dollars text := by
    refine reads_many_one_iff.2 ⟨fun c member => ?_, fun c member => ?_⟩
    · rw [beq_iff_eq]
      exact areDollars c member
    · rw [beq_eq_false_iff_ne]
      rintro rfl
      exact ended member
  exact dollarsRead.andThen_refuses ((refuses_word noFence).andThen _)

theorem interpolatedVerbatim_refuses {hole : Scanner}
    (noFirst : ¬ ['@', '$'] <+: text) (noSecond : ¬ ['$', '@'] <+: text) :
    (interpolatedVerbatim hole).Refuses text := by
  have noSigils : (oneOf [word ['@', '$'], word ['$', '@']]).Refuses text :=
    refuses_oneOf ⟨refuses_word noFirst, refuses_word noSecond⟩
  exact noSigils.andThen _

theorem inOrder_char_refuses {c : Char} (parts : List Scanner)
    (absent : text.head? ≠ some c) :
    (inOrder (char c :: parts)).Refuses text :=
  (refuses_char absent).andThen _

theorem escaped_refuses (absent : text.head? ≠ some '\\') :
    escaped.Refuses text :=
  (refuses_char absent).andThen _

theorem escaped_reads (c : Char) (rest : List Char) :
    escaped.Reads ['\\', c] rest := by
  have second : (one fun _ => true).Reads [c] rest :=
    reads_one_iff.2 ⟨c, rfl, rfl⟩
  exact (reads_char '\\' ([c] ++ rest)).andThen second

theorem noneOf_refuses {excluded : List Char} {c : Char}
    (listed : c ∈ excluded) (rest : List Char) :
    (noneOf excluded).Refuses (c :: rest) :=
  refuses_one_iff.2 (by simpa using listed)

theorem noneOf_reads {excluded : List Char} {c : Char}
    (free : c ∉ excluded) (rest : List Char) :
    (noneOf excluded).Reads [c] rest :=
  reads_one_iff.2 ⟨c, rfl, by simpa using free⟩

/-- Two of a character do not begin a text that has one. -/
theorem not_begins_doubled {c : Char} (single : text.head? ≠ some c) :
    ¬ [c, c] <+: c :: text := by
  rcases text with - | ⟨d, others⟩
  · simp
  · have different : c ≠ d := fun equal => single (equal ▸ rfl)
    simp [different]

theorem doubledBrace_refuses (noOpening : ¬ ['{', '{'] <+: text)
    (noClosing : ¬ ['}', '}'] <+: text) :
    Source.doubledBrace.Refuses text :=
  refuses_oneOf ⟨refuses_word noOpening, refuses_word noClosing⟩

theorem literalWithin_refuses {c : Char} (other : c ∉ literalMarks)
    (depth : Nat) (rest : List Char) :
    (literalWithin depth).Refuses (c :: rest) :=
  (refusesAtOnce_literalWithin depth other rest).refuses

theorem holeWithin_refuses (absent : text.head? ≠ some '{') (depth : Nat) :
    (holeWithin depth).Refuses text := by
  rcases depth with - | depth
  · exact refuses_refuse
  · rw [holeWithin]
    exact inOrder_char_refuses _ absent

/-! ## What is read between two marks -/

theorem reads_enclosed {item : Scanner} (opening : Char) {closing : Char}
    (reads : item.many.Reads inside (closing :: rest)) :
    (inOrder [char opening, item.many, char closing]).Reads
      (opening :: (inside ++ [closing])) rest := by
  have closed : (inOrder [char closing]).Reads ([closing] ++ []) rest :=
    (reads_char closing rest).andThen (reads_done_iff.2 rfl)
  have opened := reads_char opening (inside ++ [closing] ++ rest)
  rw [List.append_nil] at closed
  exact opened.andThen (reads.andThen closed)

theorem Repeats.reads {IsPart : List Char → Prop} {item : Scanner}
    (parts : Repeats IsPart inside)
    (each : ∀ part behind, IsPart part →
      part ≠ [] ∧ item.Reads part behind)
    (refused : item.Refuses rest) : item.many.Reads inside rest := by
  induction parts with
  | none =>
      exact refused.many
  | @more part others first later inductionHypothesis =>
      obtain ⟨something, reads⟩ := each part (others ++ rest) first
      exact reads.many something inductionHypothesis

theorem escapedParts_read {mark : Char}
    (parts : Repeats (IsEscapedPart mark) inside)
    (notBackslash : mark ≠ '\\') (rest : List Char) :
    (many (oneOf [escaped, noneOf ['\\', mark, '\n']])).Reads inside
      (mark :: rest) := by
  refine parts.reads (fun part behind isPart => ?_) ?_
  · cases isPart with
    | escape c =>
        exact ⟨List.cons_ne_nil _ _,
          reads_oneOf [] trivial (escaped_reads c behind)⟩
    | @plain c other =>
        have noEscape : escaped.Refuses (c :: behind) := by
          refine escaped_refuses ?_
          rintro equal
          cases equal
          exact other (by simp)
        exact ⟨List.cons_ne_nil _ _, reads_oneOf [escaped] noEscape
          (noneOf_reads other behind)⟩
  · have noEscape : escaped.Refuses (mark :: rest) :=
      escaped_refuses (by simpa using notBackslash)
    exact refuses_oneOf ⟨noEscape, noneOf_refuses (by simp) rest⟩

theorem verbatimParts_read (parts : Repeats IsVerbatimPart inside)
    (restHead : rest.head? ≠ some '"') :
    (many (oneOf [word ['"', '"'], one (· != '"')])).Reads inside
      ('"' :: rest) := by
  refine parts.reads (fun part behind isPart => ?_) ?_
  · cases isPart with
    | quote =>
        exact ⟨List.cons_ne_nil _ _,
          reads_oneOf [] trivial (reads_word _ behind)⟩
    | @plain c other =>
        have noQuotes : (word ['"', '"']).Refuses (c :: behind) :=
          refuses_word (by simp [Ne.symm other])
        have plainRead : (one (· != '"')).Reads [c] behind :=
          reads_one_iff.2 ⟨c, rfl, by simpa using other⟩
        exact ⟨List.cons_ne_nil _ _,
          reads_oneOf [word ['"', '"']] noQuotes plainRead⟩
  · exact refuses_oneOf ⟨refuses_word (not_begins_doubled restHead),
      refuses_one_iff.2 (by simp)⟩

/-! ## Holes and the strings around them -/

def stringPart (verbatim : Bool) (hole : Scanner) : Scanner :=
  oneOf
    [if verbatim then word ['"', '"'] else escaped, Source.doubledBrace,
      hole,
      noneOf (if verbatim then ['"', '{'] else ['\\', '"', '{', '\n'])]

def holePart (depth : Nat) : Scanner :=
  oneOf
    [literalWithin depth, holeWithin depth, noneOf ['{', '}', '"', '\'']]

theorem holeWithin_reads
    (reads : (holePart depth).many.Reads inside ('}' :: rest)) :
    (holeWithin (depth + 1)).Reads ('{' :: (inside ++ ['}'])) rest := by
  rw [holeWithin, reads_delayed_iff]
  exact reads_enclosed '{' reads

/-- The character that begins the escapes of one kind of string. -/
def escapeSign (verbatim : Bool) : Char :=
  if verbatim then '"' else '\\'

theorem escapes_refuse {verbatim : Bool} {c : Char}
    (other : c ≠ escapeSign verbatim) (rest : List Char) :
    (if verbatim then word ['"', '"'] else escaped).Refuses
      (c :: rest) := by
  cases verbatim with
  | false =>
      exact escaped_refuses fun equal => other (Option.some.inj equal)
  | true =>
      refine refuses_word fun isPrefix => ?_
      rw [List.cons_prefix_cons] at isPrefix
      exact other isPrefix.1.symm

theorem stringPart_refuses (verbatim : Bool) (depth : Nat)
    (restHead : rest.head? ≠ some '"') :
    (stringPart verbatim (holeWithin depth)).Refuses ('"' :: rest) := by
  have noEscape : (if verbatim then word ['"', '"'] else escaped).Refuses
      ('"' :: rest) := by
    cases verbatim with
    | false =>
        exact escaped_refuses (by simp)
    | true =>
        exact refuses_word (not_begins_doubled restHead)
  have noPlain : (noneOf (if verbatim then ['"', '{']
      else ['\\', '"', '{', '\n'])).Refuses ('"' :: rest) := by
    refine noneOf_refuses ?_ rest
    cases verbatim <;> decide
  exact refuses_oneOf ⟨noEscape, doubledBrace_refuses (by simp) (by simp),
    holeWithin_refuses (by simp) depth, noPlain⟩

/-- What is read of a text of some region, nested at most so deep. -/
def Region.ReadsWithin (depth : Nat) (text rest : List Char) :
    Region → Prop
  | .literal => (literalWithin depth).Reads text rest
  | .string verbatim =>
      (stringPart verbatim (holeWithin depth)).many.Reads text rest
  | .hole _ => (holePart depth).many.Reads text rest

def Region.EndsBefore (rest : List Char) : Region → Prop
  | .literal => rest.head? ≠ some '"'
  | .string _ => ∃ behind, rest = '"' :: behind ∧ behind.head? ≠ some '"'
  | .hole _ => ∃ behind, rest = '}' :: behind

/-! ## The forms of literals -/

theorem regular_reads (parts : Repeats (IsEscapedPart '"') inside)
    (restHead : rest.head? ≠ some '"') (depth : Nat) :
    (literalWithin (depth + 1)).Reads ('"' :: (inside ++ ['"'])) rest := by
  have noFence := not_fence_prefix parts.head?_ne restHead
  have noRaw : rawString.Refuses ([] ++ '"' :: (inside ++ '"' :: rest)) :=
    rawString_refuses (List.forall_mem_nil _) (by simp) noFence
  rw [literalWithin, reads_delayed_iff]
  refine reads_oneOf
    [rawString, interpolatedVerbatim (holeWithin depth), verbatimString,
      interpolatedString (holeWithin depth)] ?_
    (reads_enclosed '"' (escapedParts_read parts (by decide) rest))
  rw [List.cons_append, List.append_assoc, List.singleton_append]
  exact ⟨noRaw, interpolatedVerbatim_refuses (by simp) (by simp),
    inOrder_char_refuses _ (by simp), inOrder_char_refuses _ (by simp)⟩

theorem character_reads (parts : Repeats (IsEscapedPart '\'') inside)
    (rest : List Char) (depth : Nat) :
    (literalWithin (depth + 1)).Reads ('\'' :: (inside ++ ['\''])) rest := by
  have noRaw : rawString.Refuses
      ([] ++ '\'' :: (inside ++ ['\''] ++ rest)) :=
    rawString_refuses (List.forall_mem_nil _) (by simp) (by simp [rawFence])
  rw [literalWithin, reads_delayed_iff]
  refine reads_oneOf
    [rawString, interpolatedVerbatim (holeWithin depth), verbatimString,
      interpolatedString (holeWithin depth), regularString] ?_
    (reads_enclosed '\'' (escapedParts_read parts (by decide) rest))
  exact ⟨noRaw, interpolatedVerbatim_refuses (by simp) (by simp),
    inOrder_char_refuses _ (by simp), inOrder_char_refuses _ (by simp),
    inOrder_char_refuses _ (by simp)⟩

theorem verbatim_reads (parts : Repeats IsVerbatimPart inside)
    (restHead : rest.head? ≠ some '"') (depth : Nat) :
    (literalWithin (depth + 1)).Reads
      ('@' :: '"' :: (inside ++ ['"'])) rest := by
  have noRaw : rawString.Refuses
      ([] ++ '@' :: '"' :: (inside ++ ['"'] ++ rest)) :=
    rawString_refuses (List.forall_mem_nil _) (by simp) (by simp [rawFence])
  have enclosed : (inOrder [quote, _, quote]).Reads _ rest :=
    reads_enclosed '"' (verbatimParts_read parts restHead)
  rw [literalWithin, reads_delayed_iff]
  exact reads_oneOf
    [rawString, interpolatedVerbatim (holeWithin depth)]
    ⟨noRaw, interpolatedVerbatim_refuses (by simp) (by simp)⟩
    ((reads_char '@' _).andThen enclosed)

theorem interpolated_reads
    (reads : (stringPart false (holeWithin depth)).many.Reads inside
      ('"' :: rest))
    (insideHead : inside.head? ≠ some '"')
    (restHead : rest.head? ≠ some '"') :
    (literalWithin (depth + 1)).Reads
      ('$' :: '"' :: (inside ++ ['"'])) rest := by
  have noFence := not_fence_prefix insideHead restHead
  have noRaw : rawString.Refuses
      (['$'] ++ '"' :: (inside ++ '"' :: rest)) :=
    rawString_refuses (by simp) (by simp) noFence
  have enclosed : (inOrder [quote, _, quote]).Reads _ rest :=
    reads_enclosed '"' reads
  rw [literalWithin, reads_delayed_iff]
  refine reads_oneOf
    [rawString, interpolatedVerbatim (holeWithin depth), verbatimString] ?_
    ((reads_char '$' _).andThen enclosed)
  rw [List.cons_append, List.cons_append, List.append_assoc,
    List.singleton_append]
  exact ⟨noRaw, interpolatedVerbatim_refuses (by simp) (by simp),
    inOrder_char_refuses _ (by simp)⟩

theorem interpolatedVerbatim_reads {sigils : List Char}
    (either : sigils = ['$', '@'] ∨ sigils = ['@', '$'])
    (reads : (stringPart true (holeWithin depth)).many.Reads inside
      ('"' :: rest)) :
    (literalWithin (depth + 1)).Reads
      (sigils ++ '"' :: (inside ++ ['"'])) rest := by
  have enclosed : (inOrder [quote, _, quote]).Reads
      ('"' :: (inside ++ ['"'])) rest :=
    reads_enclosed '"' reads
  rw [literalWithin, reads_delayed_iff]
  rcases either with rfl | rfl
  · have noRaw : rawString.Refuses
        (['$'] ++ '@' :: '"' :: (inside ++ ['"'] ++ rest)) :=
      rawString_refuses (by simp) (by simp) (by simp [rawFence])
    have sigilsRead : (oneOf [word ['@', '$'], word ['$', '@']]).Reads
        ['$', '@'] ('"' :: (inside ++ ['"']) ++ rest) :=
      reads_oneOf [word ['@', '$']] (refuses_word (by simp))
        (reads_word _ _)
    exact reads_oneOf [rawString] noRaw (sigilsRead.andThen enclosed)
  · have noRaw : rawString.Refuses
        ([] ++ '@' :: '$' :: '"' :: (inside ++ ['"'] ++ rest)) :=
      rawString_refuses (List.forall_mem_nil _) (by simp) (by simp [rawFence])
    have sigilsRead : (oneOf [word ['@', '$'], word ['$', '@']]).Reads
        ['@', '$'] ('"' :: (inside ++ ['"']) ++ rest) :=
      reads_oneOf [] trivial (reads_word _ _)
    exact reads_oneOf [rawString] noRaw (sigilsRead.andThen enclosed)

/-! ## The parts of strings and holes -/

theorem doubledBrace_reads {brace : Char}
    (isBrace : brace = '{' ∨ brace = '}') (rest : List Char) :
    Source.doubledBrace.Reads [brace, brace] rest := by
  rcases isBrace with rfl | rfl
  · exact reads_oneOf [] trivial (reads_word _ rest)
  · exact reads_oneOf [word ['{', '{']] (refuses_word (by simp))
      (reads_word _ rest)

/-- A hole is no doubled brace unless it begins with a group. -/
theorem doubledBrace_refuses_hole (noGroup : inside.head? ≠ some '{') :
    Source.doubledBrace.Refuses ('{' :: (inside ++ '}' :: rest)) := by
  refine doubledBrace_refuses (not_begins_doubled ?_) (by simp)
  rcases inside with - | ⟨c, others⟩
  · simp
  · exact noGroup

theorem stringPlain_reads {verbatim : Bool} {c : Char}
    (other : c ∉ stringSigns verbatim) (depth : Nat) (rest : List Char) :
    (stringPart verbatim (holeWithin depth)).Reads [c] rest := by
  have notSign : c ≠ escapeSign verbatim := by
    rintro rfl
    cases verbatim <;> exact other (by decide)
  have notOpening : c ≠ '{' := by
    rintro rfl
    cases verbatim <;> exact other (by decide)
  have notClosing : c ≠ '}' := by
    rintro rfl
    cases verbatim <;> exact other (by decide)
  have noBraces : Source.doubledBrace.Refuses (c :: rest) :=
    doubledBrace_refuses (by simp [notOpening.symm])
      (by simp [notClosing.symm])
  have noHole : (holeWithin depth).Refuses (c :: rest) :=
    holeWithin_refuses (by simpa using notOpening) depth
  have allSigns : ∀ d ∈ if verbatim then ['"', '{']
      else ['\\', '"', '{', '\n'], d ∈ stringSigns verbatim := by
    cases verbatim <;> simp [stringSigns]
  exact reads_oneOf [_, Source.doubledBrace, holeWithin depth]
    ⟨escapes_refuse notSign rest, noBraces, noHole⟩
    (noneOf_reads (fun listed => other (allSigns c listed)) rest)

theorem holePart_refuses (depth : Nat) (rest : List Char) :
    (holePart depth).Refuses ('}' :: rest) :=
  refuses_oneOf ⟨literalWithin_refuses (by decide) depth rest,
    holeWithin_refuses (by simp) depth, noneOf_refuses (by simp) rest⟩

theorem holePlain_reads {c : Char} (other : c ∉ holeSigns) (depth : Nat)
    (rest : List Char) : (holePart depth).Reads [c] rest := by
  have allMarks : ∀ d ∈ literalMarks, d ∈ holeSigns := by
    simp [literalMarks, holeSigns]
  have allSigns : ∀ d ∈ ['{', '}', '"', '\''], d ∈ holeSigns := by
    simp [holeSigns]
  have noMark : c ∉ literalMarks := fun listed => other (allMarks c listed)
  have notOpening : c ≠ '{' := by
    rintro rfl
    exact other (by decide)
  exact reads_oneOf [literalWithin depth, holeWithin depth]
    ⟨literalWithin_refuses noMark depth rest,
      holeWithin_refuses (by simpa using notOpening) depth⟩
    (noneOf_reads (fun listed => other (allSigns c listed)) rest)

theorem stringEscape_reads (c : Char) (depth : Nat) (rest : List Char) :
    (stringPart false (holeWithin depth)).Reads ['\\', c] rest :=
  reads_oneOf [] trivial (escaped_reads c rest)

theorem stringQuote_reads (depth : Nat) (rest : List Char) :
    (stringPart true (holeWithin depth)).Reads ['"', '"'] rest :=
  reads_oneOf [] trivial (reads_word _ rest)

theorem stringBrace_reads {brace : Char}
    (isBrace : brace = '{' ∨ brace = '}') (verbatim : Bool) (depth : Nat)
    (rest : List Char) :
    (stringPart verbatim (holeWithin depth)).Reads [brace, brace] rest := by
  have notSign : brace ≠ escapeSign verbatim := by
    rcases isBrace with rfl | rfl <;> cases verbatim <;> decide
  exact reads_oneOf [_] (escapes_refuse notSign _)
    (doubledBrace_reads isBrace rest)

/-- A hole is one part of a string. -/
theorem stringHole_reads (verbatim : Bool)
    (reads : (holePart depth).many.Reads inside ('}' :: rest))
    (noGroup : inside.head? ≠ some '{') :
    (stringPart verbatim (holeWithin (depth + 1))).Reads
      ('{' :: (inside ++ ['}'])) rest := by
  have notSign : '{' ≠ escapeSign verbatim := by
    cases verbatim <;> decide
  refine reads_oneOf [_, Source.doubledBrace]
    ⟨escapes_refuse notSign _, ?_⟩ (holeWithin_reads reads)
  rw [List.cons_append, List.append_assoc]
  exact doubledBrace_refuses_hole noGroup

/-- A group is one part of a hole. -/
theorem holeGroup_reads
    (reads : (holePart depth).many.Reads inside ('}' :: rest)) :
    (holePart (depth + 1)).Reads ('{' :: (inside ++ ['}'])) rest :=
  reads_oneOf [literalWithin (depth + 1)]
    (literalWithin_refuses (by decide) _ _) (holeWithin_reads reads)

/-- A literal is one part of a hole. -/
theorem holeLiteral_reads (reads : (literalWithin depth).Reads text rest) :
    (holePart depth).Reads text rest :=
  reads_oneOf [] trivial reads

/-- What stands in braces is read in front of further parts. -/
theorem reads_many_braced {part : Scanner}
    (first : part.Reads ('{' :: (inside ++ ['}'])) (others ++ rest))
    (later : part.many.Reads others rest) :
    part.many.Reads ('{' :: (inside ++ '}' :: others)) rest := by
  have whole := first.many (List.cons_ne_nil _ _) later
  rwa [List.cons_append, List.append_assoc] at whole

/-- No quote stands behind a literal in a hole. -/
theorem WellFormed.noQuote_behind (parts : WellFormed (.hole true) others)
    (ended : (Region.hole true).EndsBefore rest) :
    (others ++ rest).head? ≠ some '"' := by
  obtain ⟨behind, rfl⟩ := ended
  rcases others with - | ⟨c, more⟩
  · simp
  · exact parts.behindLiteral_head?_ne

/-! ## Every text of the grammar -/

/-- Every text of the grammar is read whole, if the bound is not smaller
than its length and what follows it does not go on with it. -/
theorem WellFormed.readsWithin {region : Region}
    (wellFormed : WellFormed region text) (deep : text.length ≤ depth)
    (ended : region.EndsBefore rest) :
    region.ReadsWithin depth text rest := by
  -- a literal and a group are read one level deeper than what they enclose,
  -- so the bound changes along the derivation
  induction wellFormed generalizing depth rest with
  | regular parts =>
      rcases depth with - | depth
      · cases deep
      · exact regular_reads parts ended depth
  | character parts =>
      rcases depth with - | depth
      · cases deep
      · exact character_reads parts rest depth
  | verbatim parts =>
      rcases depth with - | depth
      · cases deep
      · exact verbatim_reads parts ended depth
  | interpolated parts inductionHypothesis =>
      rcases depth with - | depth
      · cases deep
      · simp only [List.length_cons, List.length_append] at deep
        exact interpolated_reads
          (inductionHypothesis (by omega) ⟨rest, rfl, ended⟩)
          parts.string_head?_ne ended
  | interpolatedVerbatim either parts inductionHypothesis =>
      rcases depth with - | depth
      · simp at deep
      · simp only [List.length_cons, List.length_append] at deep
        exact interpolatedVerbatim_reads either
          (inductionHypothesis (by omega) ⟨rest, rfl, ended⟩)
  | stringEnd verbatim =>
      obtain ⟨behind, rfl, restHead⟩ := ended
      exact (stringPart_refuses verbatim depth restHead).many
  | escape c later inductionHypothesis =>
      simp only [List.length_cons] at deep
      exact (stringEscape_reads c depth _).many (List.cons_ne_nil _ _)
        (inductionHypothesis (by omega) ended)
  | doubledQuote later inductionHypothesis =>
      simp only [List.length_cons] at deep
      exact (stringQuote_reads depth _).many (List.cons_ne_nil _ _)
        (inductionHypothesis (by omega) ended)
  | doubledBrace isBrace later inductionHypothesis =>
      simp only [List.length_cons] at deep
      exact (stringBrace_reads isBrace _ depth _).many (List.cons_ne_nil _ _)
        (inductionHypothesis (by omega) ended)
  | hole parts noGroup later insideRead laterRead =>
      rcases depth with - | depth
      · cases deep
      · simp only [List.length_cons, List.length_append] at deep
        exact reads_many_braced
          (stringHole_reads _ (insideRead (by omega) ⟨_, rfl⟩) noGroup)
          (laterRead (by omega) ended)
  | stringPlain other later inductionHypothesis =>
      simp only [List.length_cons] at deep
      exact (stringPlain_reads other depth _).many (List.cons_ne_nil _ _)
        (inductionHypothesis (by omega) ended)
  | holeEnd behindLiteral =>
      obtain ⟨behind, rfl⟩ := ended
      exact (holePart_refuses depth behind).many
  | nested literal later literalRead laterRead =>
      rw [List.length_append] at deep
      obtain ⟨c, behind, rfl, _⟩ := literal.exists_mark
      have literalPart : (holePart depth).Reads (c :: behind) _ :=
        holeLiteral_reads
          (literalRead (by omega) (later.noQuote_behind ended))
      exact literalPart.many (List.cons_ne_nil _ _)
        (laterRead (by omega) ended)
  | group parts later insideRead laterRead =>
      rcases depth with - | depth
      · cases deep
      · simp only [List.length_cons, List.length_append] at deep
        exact reads_many_braced
          (holeGroup_reads (insideRead (by omega) ⟨_, rfl⟩))
          (laterRead (by omega) ended)
  | holePlain other later inductionHypothesis =>
      simp only [List.length_cons] at deep
      exact (holePlain_reads other depth _).many (List.cons_ne_nil _ _)
        (inductionHypothesis (by omega) ended)

/-! ## One token -/

theorem readLexeme_literal (wellFormed : IsLiteral text) :
    (readLexeme tokenForms (text ++ [])).found? =
      some ⟨.literal (String.ofList text), ⟨text, []⟩⟩ := by
  have read : (literalWithin text.length).Reads text [] :=
    wellFormed.readsWithin (Nat.le_refl _) (by simp [Region.EndsBefore])
  have accepted : (quotedLiteral.run (text ++ [])).portion? =
      some ⟨text, []⟩ := by
    rw [run_quotedLiteral, List.append_nil]
    rw [Reads, List.append_nil] at read
    exact read
  simp only [tokenForms, readLexeme, accepted]

theorem beginsLexeme_of_mem_literalMarks {c : Char}
    (mark : c ∈ literalMarks) (rest : List Char) :
    BeginsLexeme (c :: rest) := by
  have noTrivia : ∀ c ∈ literalMarks,
      Text.isSpacing c = false ∧ c ≠ '/' ∧ c ≠ '#' := by
    rw [← List.forall_iff_forall_mem]
    decide
  exact ⟨c, rest, rfl, noTrivia c mark⟩

theorem beginsLexeme_literal (wellFormed : IsLiteral text)
    (rest : List Char) : BeginsLexeme (text ++ rest) := by
  obtain ⟨c, behind, rfl, mark⟩ := wellFormed.exists_mark
  exact beginsLexeme_of_mem_literalMarks mark (behind ++ rest)

/-- A literal of the grammar, nested as deeply as it may be, is one token
that covers all of its text. -/
theorem tokenize_literal {text : String}
    (wellFormed : IsLiteral text.toList) :
    ∃ source, tokenize text = .ok source ∧
      source.tokens.map Token.lexeme = [.literal text] ∧
      source.spans = [(0, text.utf8ByteSize)] := by
  have something : text.toList ≠ [] := by
    obtain ⟨c, behind, equal, _⟩ := wellFormed.exists_mark
    rw [equal]
    exact List.cons_ne_nil c behind
  have cut : tokenizeFrom ([] ++ (text.toList ++ [])) = .ok _ :=
    tokenizeFrom_cons (List.forall_mem_nil _)
      (beginsLexeme_literal wellFormed []) something
      (readLexeme_literal wellFormed) Spelled.done.tokenizeFrom_eq
  rw [List.nil_append, List.append_nil, String.ofList_toList] at cut
  refine ⟨⟨[⟨"", .literal text⟩], ""⟩, ?_, rfl, ?_⟩
  · rw [tokenize, cut]
    rfl
  · simp [Tokenized.spans, Token.spans, Lexeme.text]

/-- A verbatim string with both escapes and a hole; in the hole stand a
string that has a hole with a character literal, and a group with a verbatim
string. -/
def nestedLiteral : List Char :=
  ['$', '@', '"', 'a', '"', '"', '{', '{', '{', 'f', '(', '$', '"', '\\',
    '"', '{', '\'', '}', '\'', '}', '"', ',', '{', '@', '"', '}', '"', '"',
    '"', '}', ')', '}', '"']

theorem nestedLiteral_is_one_token :
    IsLiteral (String.ofList nestedLiteral).toList ∧
      ∃ source, tokenize (String.ofList nestedLiteral) = .ok source ∧
        source.tokens.map Token.lexeme =
          [.literal (String.ofList nestedLiteral)] ∧
        source.spans =
          [(0, (String.ofList nestedLiteral).utf8ByteSize)] := by
  have character : IsLiteral ['\'', '}', '\''] :=
    .character (.more (.plain (c := '}') (by decide)) .none)
  have verbatim : IsLiteral ['@', '"', '}', '"', '"', '"'] :=
    .verbatim (.more (.plain (c := '}') (by decide)) (.more .quote .none))
  have inner : IsLiteral
      ['$', '"', '\\', '"', '{', '\'', '}', '\'', '}', '"'] :=
    .interpolated (.escape '"' (.hole (.nested character (.holeEnd true))
      (by decide) (.stringEnd false)))
  have hole : WellFormed (.hole false) ['f', '(', '$', '"', '\\', '"', '{',
      '\'', '}', '\'', '}', '"', ',', '{', '@', '"', '}', '"', '"', '"', '}',
      ')'] :=
    .holePlain (by decide) (.holePlain (by decide) (.nested inner
      (.holePlain (by decide) (.group (.nested verbatim (.holeEnd true))
        (.holePlain (by decide) (.holeEnd false))))))
  have wellFormed : IsLiteral (String.ofList nestedLiteral).toList := by
    rw [String.toList_ofList]
    exact .interpolatedVerbatim (.inl rfl) (.stringPlain (by decide)
      (.doubledQuote (.doubledBrace (.inl rfl)
        (.hole hole (by decide) (.stringEnd true)))))
  exact ⟨wellFormed, tokenize_literal wellFormed⟩

end ClassDiagram.Source
