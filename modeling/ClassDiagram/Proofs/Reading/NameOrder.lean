import ClassDiagram.Proofs.Reading.NamedOutlines
import ClassDiagram.Proofs.Source.Tiling
import ClassDiagram.Proofs.Text.BrokenLines

/-!
# The order of names

The names in an outline are read once each and in the order in which they are
written: every name is a word of the source, no word is used for two names,
and a name that comes first in the outline comes first in the source.
-/

namespace ClassDiagram

open Source (Token Lexeme Tokenized)

/-! ## Names of an outline -/

def nameParts (name : String) : List String :=
  (Text.dotSegments name.toList).map String.ofList

namespace Declaration

mutual

/-- The names in a declaration, those around others first: a dotted name by
its parts, a type before its members, an enumeration before its values and a
method before its parameters. -/
def names : Declaration → List String
  | .scope name members => nameParts name ++ namesOfAll members
  | .type header members => header.name :: namesOfAll members
  | .enumeration declared => declared.name :: declared.variants
  | .method declared =>
      declared.name :: declared.parameters.map Parameter.name

def namesOfAll : List Declaration → List String
  | [] => []
  | first :: others => first.names ++ namesOfAll others

end

theorem namesOfAll_append (left right : List Declaration) :
    namesOfAll (left ++ right) = namesOfAll left ++ namesOfAll right := by
  induction left with
  | nil =>
      rfl
  | cons first others inductionHypothesis =>
      rw [List.cons_append, namesOfAll, namesOfAll, inductionHypothesis,
        List.append_assoc]

/-- What is read next comes behind everything that was read before. -/
theorem namesOfAll_reverse_cons (latest : Declaration)
    (earlier : List Declaration) :
    namesOfAll (latest :: earlier).reverse =
      namesOfAll earlier.reverse ++ latest.names := by
  rw [List.reverse_cons, namesOfAll_append, namesOfAll, namesOfAll,
    List.append_nil]

end Declaration

theorem nameParts_of_no_dot {name : String} (noDot : '.' ∉ name.toList) :
    nameParts name = [name] := by
  rw [nameParts, Text.dotSegments, Text.segments_of_not_mem noDot,
    List.map_singleton, String.ofList_toList]

theorem nameParts_append_dot (name : String) {part : String}
    (noDot : '.' ∉ part.toList) :
    nameParts (name ++ "." ++ part) = nameParts name ++ [part] := by
  have cut : (name ++ "." ++ part).toList =
      name.toList ++ '.' :: part.toList := by
    simp
  rw [nameParts, Text.dotSegments, cut, Text.segments_append_mark,
    List.map_append]
  exact congrArg (nameParts name ++ ·) (nameParts_of_no_dot noDot)

/-! ## Words -/

namespace Source

def WordsAreUndotted (tokens : List Token) : Prop :=
  ∀ token ∈ tokens, ∀ text, Reading.word? token = some text →
    '.' ∉ text.toList

theorem WordsAreUndotted.suffix {tokens rest : List Token}
    (undotted : WordsAreUndotted tokens) (suffix : rest <:+ tokens) :
    WordsAreUndotted rest :=
  fun token member => undotted token (suffix.subset member)

/-- A dot is a token of its own. -/
theorem wordsAreUndotted_of_tokenize {text : String} {source : Tokenized}
    (tokenized : tokenize text = .ok source) :
    WordsAreUndotted source.tokens := by
  have undotted := forall_words_of_tokenizeFrom
    (P := fun word => '.' ∉ word.toList) ?_
    (tokenizeFrom_of_tokenize tokenized)
  · intro token member word isWord
    exact undotted token member word (Reading.lexeme_eq_of_word? isWord)
  · intro text portion taken _
    rw [String.toList_ofList]
    exact avoids_identifier (by decide) (by decide) _ _ taken

end Source

open Source (words WordsAreUndotted)

namespace Reading

open Declaration (namesOfAll namesOfAll_reverse_cons)

/-! ## Namespaces -/

theorem readNameParts_yields {name dotted : String}
    {tokens rest : List Token} (undotted : WordsAreUndotted tokens)
    (read : readNameParts name tokens = .ok (dotted, rest)) :
    ∃ parts, nameParts dotted = nameParts name ++ parts ∧
      Yields parts tokens rest := by
  fun_induction readNameParts name tokens with
  | case1 | case3 | case6 =>
      cases read
      exact ⟨[], (List.append_nil _).symm, .nothing (List.suffix_refl _)⟩
  | case2 | case5 =>
      cases read
  | case4 name dot next rest isDot part isWord inductionHypothesis =>
      obtain ⟨parts, partsEq, yields⟩ := inductionHypothesis
        (undotted.suffix (List.suffix_append [dot, next] rest)) read
      have noDot := undotted next
        (List.mem_cons_of_mem dot List.mem_cons_self) part isWord
      refine ⟨part :: parts, ?_, (Yields.cons isWord yields).behind
        (List.suffix_cons dot (next :: rest))⟩
      rw [partsEq, nameParts_append_dot name noDot, List.append_assoc]
      rfl

theorem readDottedName_yields {name : String} {tokens rest : List Token}
    (undotted : WordsAreUndotted tokens)
    (read : readDottedName tokens = .ok (name, rest)) :
    Yields (nameParts name) tokens rest := by
  unfold readDottedName at read
  split at read
  · cases read
  · rename_i first others firstRead
    obtain ⟨token, rfl, isWord⟩ := exists_of_expectWord firstRead
    have behindFirst := undotted.suffix (List.suffix_cons token others)
    obtain ⟨parts, partsEq, yields⟩ := readNameParts_yields behindFirst read
    rw [partsEq, nameParts_of_no_dot
      (undotted token List.mem_cons_self first isWord)]
    exact .cons isWord yields

/-- The names of a declaration whose body is open, in front of its
members. -/
def Opening.names (opening : Opening) : List String :=
  (opening.close []).names

theorem Opening.close_names (opening : Opening)
    (members : List Declaration) :
    (opening.close members).names = opening.names ++ namesOfAll members := by
  cases opening <;> simp [Opening.names, Opening.close, Declaration.names,
    namesOfAll]

theorem readScopeOpening_yields {tokens rest : List Token}
    {opening : Opening} (undotted : WordsAreUndotted tokens)
    (read : readScopeOpening tokens = .ok (opening, rest)) :
    Yields opening.names tokens rest := by
  unfold readScopeOpening at read
  split at read
  · cases read
  · rename_i name behindName dotted
    have yields := readDottedName_yields undotted dotted
    have scopeNames : (Declaration.scope name []).names = nameParts name :=
      List.append_nil _
    split at read
    · cases read
      change Yields (Declaration.scope name []).names tokens _
      rw [scopeNames]
      exact yields.upTo (List.tail_suffix _)
    · obtain ⟨body, present, answer⟩ := exists_of_map_eq_ok read
      obtain ⟨opener, rfl, _⟩ := exists_of_expectMark present
      cases answer
      change Yields (Declaration.scope name []).names tokens _
      rw [scopeNames]
      exact yields.upTo (List.suffix_cons opener _)

/-! ## Members -/

/-- The names in what was read: none if it is left out, and the name alone
of a type whose body was opened. -/
def Member.names : Member → List String
  | .leftOut => []
  | .complete declaration => declaration.names
  | .opened header => [header.name]

theorem TypeOpening.member_names (opening : TypeOpening) :
    opening.member.names = [opening.header.name] := by
  unfold TypeOpening.member
  split <;> rfl

theorem readModified_yields {enclosing : Option String}
    {modifiers : List Modifier} {tokens rest : List Token} {member : Member}
    (other : ∀ token behind, tokens = token :: behind →
      token.isWord "enum" = false)
    (read : readModified enclosing modifiers tokens = .ok (member, rest)) :
    Yields member.names tokens rest := by
  obtain ⟨rfl, passed⟩ |
      ⟨token, behind, _, kind, opening, rfl, _, opened, rfl⟩ |
      ⟨declared, method, rfl⟩ := readModified_cases other read
  · exact .nothing passed.suffix
  · rw [TypeOpening.member_names]
    exact (readTypeOpening_yields opened).behind
      (List.suffix_cons token behind)
  · exact readMethod_yields method

theorem readMember_yields {enclosing : Option String}
    {tokens rest : List Token} {member : Member}
    (read : readMember enclosing tokens = .ok (member, rest)) :
    Yields member.names tokens rest := by
  cases found : enumerationNext? tokens with
  | some behind =>
      obtain ⟨declared, name, body, enumeration, rfl, rfl⟩ :=
        readMember_enumeration found read
      exact enumeration.yields
  | none =>
      obtain ⟨modifiers, modified, passed, notEnum, modifiedRead⟩ :=
        exists_of_readMember found read
      exact (readModified_yields notEnum modifiedRead).behind passed.suffix

/-! ## Steps -/

/-- The names that were read before the innermost open body, outermost
first. -/
def namesAround : Frames → List String
  | [] => []
  | ⟨opening, before⟩ :: outer =>
      namesAround outer ++ namesOfAll before.reverse ++ opening.names

/-- All names that were read so far, in the order of the outline. -/
def ReaderState.names (state : ReaderState) : List String :=
  namesAround state.frames ++ namesOfAll state.members.reverse

/-- A closed body has its names where they were when it was open. -/
theorem names_close (opening : Opening) (before : List Declaration)
    (outer : Frames) (members : List Declaration) :
    namesAround outer ++
        namesOfAll (opening.close members.reverse :: before).reverse =
      namesAround (⟨opening, before⟩ :: outer) ++
        namesOfAll members.reverse := by
  rw [namesOfAll_reverse_cons, Opening.close_names, namesAround,
    List.append_assoc, List.append_assoc]

/-- A step puts names behind those that were read, and takes their words. -/
theorem Step.yields {state next : ReaderState} (step : Step state next)
    (undotted : WordsAreUndotted state.tokens) :
    ∃ found, next.names = state.names ++ found ∧
      Yields found state.tokens next.tokens := by
  have suffix := Run.suffix (.single step)
  cases step with
  | @close opening before outer members token rest closing braced =>
      refine ⟨[], ?_, .nothing suffix⟩
      rw [List.append_nil]
      exact names_close opening before outer members
  | separate separator =>
      exact ⟨[], (List.append_nil _).symm, .nothing suffix⟩
  | @enter frames members token rest body opening scopeWord outside read =>
      have behindKeyword := undotted.suffix (List.suffix_cons token rest)
      refine ⟨opening.names, ?_,
        (readScopeOpening_yields behindKeyword read).behind
          (List.suffix_cons token rest)⟩
      exact List.append_nil _
  | @member frames members token rest behind member inside noSeparator
      noScope read =>
      refine ⟨member.names, ?_, ?_⟩
      · cases member with
        | leftOut =>
            exact (List.append_nil _).symm
        | complete declaration =>
            change namesAround frames ++
              namesOfAll (declaration :: members).reverse = _
            rw [namesOfAll_reverse_cons, ← List.append_assoc]
            rfl
        | opened header =>
            exact List.append_nil _
      · have yields := readMember_yields read
        cases member <;> exact yields

theorem Run.yields {state final : ReaderState} (run : Run state final)
    (undotted : WordsAreUndotted state.tokens) :
    ∃ found, final.names = state.names ++ found ∧
      Yields found state.tokens final.tokens := by
  induction run with
  | refl =>
      exact ⟨[], (List.append_nil _).symm, .nothing (List.suffix_refl _)⟩
  | tail run step inductionHypothesis =>
      obtain ⟨found, namesEq, yields⟩ := inductionHypothesis
      obtain ⟨further, furtherEq, furtherYields⟩ :=
        step.yields (undotted.suffix (Run.suffix run))
      refine ⟨found ++ further, ?_, yields.trans furtherYields⟩
      rw [furtherEq, namesEq, List.append_assoc]

theorem closeAll_names {frames : Frames} {members : List Declaration}
    {outline : Outline} (closed : closeAll frames members = .ok outline) :
    namesOfAll outline =
      namesAround frames ++ namesOfAll members.reverse := by
  fun_induction closeAll frames members with
  | case1 members =>
      cases closed
      rfl
  | case2 name before frames members inductionHypothesis =>
      rw [inductionHypothesis closed]
      exact names_close (.file name) before frames members
  | case3 | case4 =>
      cases closed

theorem readOutline_yields {tokens : List Token} {outline : Outline}
    (undotted : WordsAreUndotted tokens)
    (read : readOutline tokens = .ok outline) :
    (namesOfAll outline).Sublist (words tokens) := by
  obtain ⟨final, run, finished, closed⟩ :=
    exists_run_of_outline (.start tokens) read
  obtain ⟨found, namesEq, consumed, split, taken⟩ :=
    Run.yields run undotted
  rw [finished, List.append_nil] at split
  have outlineNames : namesOfAll outline = found :=
    (closeAll_names closed).trans namesEq
  change tokens = consumed at split
  rwa [outlineNames, split]

end Reading

/-! ## Places of names -/

namespace Source

def Tokenized.wordPlaces (source : Tokenized) :
    List (String × (Nat × Nat)) :=
  (source.tokens.zip source.spans).filterMap fun found =>
    (Reading.word? found.1).map fun text => (text, found.2)

variable {text : List Char} {source : Tokenized}

theorem Tiles.map_fst_wordPlaces (tiles : Tiles text source) :
    source.wordPlaces.map Prod.fst = words source.tokens := by
  have whole : (source.tokens.zip source.spans).map Prod.fst =
      source.tokens :=
    List.map_fst_zip (Nat.le_of_eq tiles.tokens_at.length_eq)
  conv_rhs => rw [words, ← whole, List.filterMap_map]
  rw [Tokenized.wordPlaces, List.map_filterMap]
  congr 1
  funext found
  simp [Function.comp_def]

/-- The text at the place of a word is the word. -/
theorem Tiles.slice?_of_mem_wordPlaces (tiles : Tiles text source)
    {found : String × (Nat × Nat)} (member : found ∈ source.wordPlaces) :
    Text.slice? text found.2.1 found.2.2 = some found.1.toList := by
  obtain ⟨⟨token, span⟩, inZip, made⟩ := List.mem_filterMap.1 member
  obtain ⟨word, isWord, rfl⟩ := Option.map_eq_some_iff.1 made
  have here := (List.forall₂_iff_zip.1 tiles.tokens_at).2 inZip
  have sliced := here.sliced
  rwa [Reading.lexeme_eq_of_word? isWord] at sliced

theorem Tiles.wordPlaces_in_order (tiles : Tiles text source) :
    source.wordPlaces.Pairwise fun left right =>
      left.2.1 < right.2.1 ∧ left.2.2 ≤ right.2.1 := by
  have whole : (source.tokens.zip source.spans).map Prod.snd =
      source.spans :=
    List.map_snd_zip (Nat.le_of_eq tiles.tokens_at.length_eq.symm)
  have inOrder := tiles.in_order
  rw [← whole, List.pairwise_map] at inOrder
  refine List.Pairwise.filterMap _ ?_ inOrder
  intro left right order leftWord leftMade rightWord rightMade
  obtain ⟨_, _, rfl⟩ := Option.map_eq_some_iff.1 leftMade
  obtain ⟨_, _, rfl⟩ := Option.map_eq_some_iff.1 rightMade
  exact order

end Source

open Declaration (namesOfAll)

/-- The names are words of a text, each with a place of its own that it is
written at, and the places lie one behind another. -/
def WrittenInOrder (names : List String) (text : List Char)
    (source : Tokenized) : Prop :=
  ∃ named : List (String × (Nat × Nat)),
    named.Sublist source.wordPlaces ∧
      named.map Prod.fst = names ∧
      (∀ found ∈ named,
        Text.slice? text found.2.1 found.2.2 = some found.1.toList) ∧
      named.Pairwise fun left right =>
        left.2.1 < right.2.1 ∧ left.2.2 ≤ right.2.1

theorem writtenInOrder_of_sublist {names : List String} {text : List Char}
    {source : Tokenized} (tiles : Source.Tiles text source)
    (inOrder : names.Sublist (words source.tokens)) :
    WrittenInOrder names text source := by
  rw [← tiles.map_fst_wordPlaces, List.sublist_map_iff] at inOrder
  obtain ⟨named, placed, namesEq⟩ := inOrder
  exact ⟨named, placed, namesEq.symm,
    fun found member =>
      tiles.slice?_of_mem_wordPlaces (placed.subset member),
    tiles.wordPlaces_in_order.sublist placed⟩

/-- The names of an outline, those around others first, are a subsequence of
the words of its source with the branches that are not read blanked.  So each
name has a word of its own there, behind the words of all names before it. -/
theorem readSource_names_in_order {text : String} {outline : Outline}
    (read : readSource text = .ok outline) :
    ∃ source,
      Source.tokenize (Source.firstBranches text) = .ok source ∧
        (namesOfAll outline).Sublist (words source.tokens) ∧
        WrittenInOrder (namesOfAll outline)
          (Source.firstBranches text).toList source := by
  obtain ⟨source, tokenized, outlineRead⟩ := readSource_ok_iff.1 read
  have inOrder := Reading.readOutline_yields
    (Source.wordsAreUndotted_of_tokenize tokenized) outlineRead
  exact ⟨source, tokenized, inOrder, writtenInOrder_of_sublist
    (Source.tokenize_tiles tokenized) inOrder⟩

/-- Words that are looked at and read again: a constructor, and the interface
and its type argument in front of a method. -/
def revisitedWords : String :=
  "namespace A.B \x7b class C \x7b C() \x7b \x7d int I<T>.F(int k); \x7d" ++
    " enum E \x7b V \x7d \x7d"

def revisitedOutline : Outline :=
  [.scope "A.B"
    [.type ⟨.classWord, "C", none, []⟩
        [.method ⟨"F", "int", [⟨"k", "int"⟩], []⟩],
      .enumeration ⟨"E", [], ["V"]⟩]]

theorem revisitedWords_in_order :
    readSource revisitedWords = .ok revisitedOutline ∧
      ∃ source,
        Source.tokenize (Source.firstBranches revisitedWords) =
            .ok source ∧
          ["A", "B", "C", "F", "k", "E", "V"].Sublist
            (words source.tokens) ∧
          WrittenInOrder ["A", "B", "C", "F", "k", "E", "V"]
            (Source.firstBranches revisitedWords).toList source := by
  have read : readSource revisitedWords = .ok revisitedOutline := by
    decide +kernel
  have inOrder := readSource_names_in_order read
  have names : namesOfAll revisitedOutline =
      ["A", "B", "C", "F", "k", "E", "V"] := by
    decide
  rw [names] at inOrder
  exact ⟨read, inOrder⟩

end ClassDiagram
