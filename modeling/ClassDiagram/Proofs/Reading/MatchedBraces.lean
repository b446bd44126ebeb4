import ClassDiagram.Proofs.Reading.MatchedBodies
import ClassDiagram.Reading.Source

/-!
# Braces of a source

A run of the reader takes as many opening and closing braces as its steps do.
So the braces of an accepted source are balanced exactly if no step overlooks
one, and then the brace at which a body is closed is the partner of the brace
at which it was opened.
-/

namespace ClassDiagram

namespace Reading

open Source (Token Lexeme)
open Text (Brackets)

/-! ## Counting -/

/-- The opening and closing braces between two states of the reader make up
its depths, some opening braces missing. -/
def Counted (missing : Nat) (state next : ReaderState) : Prop :=
  ∃ consumed, state.tokens = consumed ++ next.tokens ∧
    depth state.frames + consumed.countP braces.opens + missing =
      depth next.frames + consumed.countP braces.closes

theorem Counted.trans {first second : Nat}
    {state between next : ReaderState}
    (left : Counted first state between)
    (right : Counted second between next) :
    Counted (first + second) state next := by
  obtain ⟨consumed, split, counted⟩ := left
  obtain ⟨others, splitAgain, countedAgain⟩ := right
  refine ⟨consumed ++ others, ?_, ?_⟩
  · rw [split, splitAgain, List.append_assoc]
  · rw [List.countP_append, List.countP_append]
    omega

theorem Crossed.counted {before behind : Nat} {tokens rest : List Token}
    (crossed : Crossed before behind tokens rest) :
    ∃ consumed, tokens = consumed ++ rest ∧
      before + consumed.countP braces.opens =
        behind + consumed.countP braces.closes := by
  obtain ⟨consumed, split, counted⟩ := crossed
  exact ⟨consumed, split, Brackets.countP_of_depthBehind? counted⟩

theorem EnumerationRead.counted {tokens : List Token}
    {declared : Enumeration} {name : Token} {body : Body}
    (read : EnumerationRead tokens declared name body) :
    ∃ consumed, tokens = consumed ++ skipMark ';' body.after ∧
      consumed.countP braces.opens + (overlookedBraces tokens).length =
        consumed.countP braces.closes := by
  obtain ⟨front, rfl, frontBalanced⟩ :=
    (enumerationNext?_passed read.next).trans
      (.next (isNeutral_of_word? read.named))
  have closed : Passed body.opened (skipMark ';' body.after) :=
    read.matched.passed.trans (skipMark_passed (by decide) body.after)
  obtain ⟨behind, split, behindBalanced⟩ := closed
  refine ⟨front ++ (body.header ++ behind), ?_, ?_⟩
  · rw [split, List.append_assoc, List.append_assoc]
  · have opensNothing : body.header.countP braces.opens = 0 :=
      List.countP_eq_zero.2 fun token member =>
        Bool.eq_false_iff.1 (read.header_not_opening token member)
    have overlooked : (overlookedBraces _).length =
        body.header.countP braces.closes :=
      (congrArg List.length read.overlookedBraces_eq).trans
        List.countP_eq_length_filter.symm
    have frontCounted := frontBalanced.countP_eq
    have behindCounted := behindBalanced.countP_eq
    simp only [List.countP_append]
    omega

/-- The step over an enumeration. -/
theorem Step.enumeration {state next : ReaderState} (step : Step state next)
    {keyword : List Token}
    (found : enumerationNext? state.tokens = some keyword) :
    ∃ declared name body,
      EnumerationRead state.tokens declared name body ∧
        next = ⟨state.frames, .enumeration declared :: state.members,
          skipMark ';' body.after⟩ := by
  cases step with
  | close closing braced =>
      rw [enumerationNext?_mark closing (by decide)] at found
      cases found
  | separate separator =>
      rw [enumerationNext?_mark separator (by decide)] at found
      cases found
  | enter scopeWord outside read =>
      rw [enumerationNext?_namespace scopeWord] at found
      cases found
  | member inside noSeparator noScope read =>
      obtain ⟨declared, name, body, enumeration, rfl, rfl⟩ :=
        readMember_enumeration found read
      exact ⟨declared, name, body, enumeration, rfl⟩

/-- A step misses as many opening braces as it overlooks closing ones. -/
theorem Step.counted {state next : ReaderState} (step : Step state next) :
    Counted (overlookedBraces state.tokens).length state next := by
  cases found : enumerationNext? state.tokens with
  | none =>
      have kept : overlookedBraces state.tokens = [] := by
        rw [overlookedBraces, found]
      obtain ⟨consumed, split, counted⟩ :=
        (step.crossed kept (Nat.zero_le _) (Nat.zero_le _)).counted
      rw [kept]
      exact ⟨consumed, split, counted⟩
  | some keyword =>
      obtain ⟨declared, name, body, enumeration, rfl⟩ :=
        step.enumeration found
      obtain ⟨consumed, split, counted⟩ := enumeration.counted
      exact ⟨consumed, split, by rw [Nat.add_assoc, counted]⟩

theorem Run.counted {state final : ReaderState} (run : Run state final) :
    ∃ missing, Counted missing state final := by
  induction run with
  | refl =>
      exact ⟨0, [], rfl, rfl⟩
  | tail _ step inductionHypothesis =>
      obtain ⟨missing, counted⟩ := inductionHypothesis
      exact ⟨_, counted.trans step.counted⟩

theorem Run.suffix {state final : ReaderState} (run : Run state final) :
    final.tokens <:+ state.tokens := by
  obtain ⟨missing, consumed, split, counted⟩ := Run.counted run
  exact ⟨consumed, split.symm⟩

/-! ## Inside a body -/

/-- Any number of steps that leave these bodies open. -/
abbrev RunInside (frames : Frames) : ReaderState → ReaderState → Prop :=
  Relation.ReflTransGen fun state next =>
    Step state next ∧ frames <:+ next.frames

theorem RunInside.run {frames : Frames} {state final : ReaderState}
    (run : RunInside frames state final) : Run state final :=
  Relation.ReflTransGen.mono (fun _ _ both => both.1) _ _ run

theorem Run.inside_nothing {state final : ReaderState}
    (run : Run state final) : RunInside [] state final :=
  Relation.ReflTransGen.mono
    (fun _ _ step => ⟨step, List.nil_suffix⟩) _ _ run

theorem depth_le_of_suffix {outer frames : Frames}
    (suffix : outer <:+ frames) : depth outer ≤ depth frames :=
  suffix.sublist.countP_le

/-- No state of a run that leaves these bodies open overlooks a brace. -/
def KeepsBraces (frames : Frames) (state : ReaderState) : Prop :=
  ∀ reached, RunInside frames state reached →
    overlookedBraces reached.tokens = []

theorem RunInside.crossed {frames : Frames} {state final : ReaderState}
    (run : RunInside frames state final) (inside : frames <:+ state.frames)
    (kept : KeepsBraces frames state) :
    frames <:+ final.frames ∧
      Crossed (depth state.frames - depth frames)
        (depth final.frames - depth frames) state.tokens final.tokens := by
  induction run with
  | refl =>
      exact ⟨inside, Passed.crossed (.refl _) _⟩
  | @tail between next earlier step inductionHypothesis =>
      obtain ⟨betweenInside, crossed⟩ := inductionHypothesis
      exact ⟨step.2, crossed.trans (step.1.crossed
        (kept between earlier)
        (depth_le_of_suffix betweenInside) (depth_le_of_suffix step.2))⟩

theorem closeAll_depth {frames : Frames} {members : List Declaration}
    {outline : Outline} (closed : closeAll frames members = .ok outline) :
    depth frames = 0 := by
  fun_induction closeAll frames members with
  | case1 =>
      rfl
  | case2 name before frames members inductionHypothesis =>
      rw [depth_cons]
      exact inductionHypothesis closed
  | case3 | case4 =>
      cases closed

/-- A step that leaves the innermost body closes it. -/
theorem Step.closes {state next : ReaderState} (step : Step state next)
    {frame : Frame} {outer : Frames}
    (inside : (frame :: outer) <:+ state.frames)
    (leaves : ¬ (frame :: outer) <:+ next.frames) :
    state.frames = frame :: outer ∧ next.frames = outer ∧
      ∃ closer after, state.tokens = closer :: after ∧
        closer.isMark '\x7d' = true ∧ next.tokens = skipMark ';' after := by
  cases step with
  | @close opening before frames members token rest closing braced =>
      rcases List.suffix_cons_iff.1 inside with same | deeper
      · cases same
        exact ⟨rfl, rfl, token, rest, rfl, closing, rfl⟩
      · exact absurd deeper leaves
  | separate separator =>
      exact absurd inside leaves
  | enter scopeWord outside read =>
      exact absurd (inside.trans (List.suffix_cons _ _)) leaves
  | @member frames members token rest behind member _ _ _ read =>
      cases member with
      | leftOut =>
          exact absurd inside leaves
      | complete declaration =>
          exact absurd inside leaves
      | opened header =>
          exact absurd (inside.trans (List.suffix_cons _ _)) leaves

/-- An open body in braces of an accepted source is closed. -/
theorem exists_closing_step (frame : Frame) (outer : Frames)
    {outline : Outline} (braced : frame.opening.isBraced = true)
    (state : ReaderState) (inside : (frame :: outer) <:+ state.frames)
    (read : state.outline = .ok outline) :
    ∃ closing next, RunInside (frame :: outer) state closing ∧
      closing.frames = frame :: outer ∧ Step closing next ∧
      next.frames = outer ∧
      ∃ closer after, closing.tokens = closer :: after ∧
        closer.isMark '\x7d' = true ∧ next.tokens = skipMark ';' after := by
  by_cases finished : state.tokens = []
  · have closed : closeAll state.frames state.members = .ok outline := by
      unfold ReaderState.outline at read
      rwa [finished, readFrom.eq_def] at read
    have stillOpen := depth_le_of_suffix inside
    rw [closeAll_depth closed, depth_cons, braced, if_pos rfl] at stillOpen
    omega
  -- Every step leaves fewer tokens, so one of them has to be the last inside.
  · obtain ⟨next, step⟩ := exists_step_of_outline finished read
    by_cases stays : (frame :: outer) <:+ next.frames
    · rw [step.outline_eq] at read
      obtain ⟨closing, behind, run, closed⟩ :=
        exists_closing_step frame outer braced next stays read
      exact ⟨closing, behind, .head ⟨step, stays⟩ run, closed⟩
    · obtain ⟨innermost, outside, closed⟩ := step.closes inside stays
      exact ⟨state, next, .refl, innermost, step, outside, closed⟩
termination_by state.tokens.length
decreasing_by
  exact step.tokens_length_lt

/-! ## Accepted sources -/

def ReaderState.start (tokens : List Token) : ReaderState :=
  ⟨[], [], tokens⟩

theorem overlookedBraces_nil : overlookedBraces [] = [] := by
  rw [overlookedBraces, enumerationNext?, skipAttributes_none rfl]
  rfl

theorem balanced_of_keepsBraces {tokens : List Token} {outline : Outline}
    (read : readOutline tokens = .ok outline)
    (kept : KeepsBraces [] (.start tokens)) : braces.Balanced tokens := by
  obtain ⟨final, run, finished, closed⟩ :=
    exists_run_of_outline (.start tokens) read
  obtain ⟨_, consumed, split, counted⟩ :=
    (Run.inside_nothing run).crossed List.nil_suffix kept
  rw [finished, List.append_nil] at split
  rw [closeAll_depth closed] at counted
  change tokens = consumed at split
  rw [split]
  exact counted

theorem keepsBraces_of_balanced {tokens : List Token} {outline : Outline}
    (read : readOutline tokens = .ok outline)
    (balanced : braces.Balanced tokens) : KeepsBraces [] (.start tokens) := by
  intro reached inside
  by_contra overlooked
  have run : Run (.start tokens) reached := RunInside.run inside
  have unread : reached.outline = .ok outline :=
    (Run.outline_eq run).symm.trans read
  have unfinished : reached.tokens ≠ [] := by
    intro finished
    rw [finished] at overlooked
    exact overlooked overlookedBraces_nil
  obtain ⟨next, step⟩ := exists_step_of_outline unfinished unread
  rw [step.outline_eq] at unread
  obtain ⟨final, behind, finished, closed⟩ :=
    exists_run_of_outline next unread
  obtain ⟨first, before⟩ := Run.counted run
  obtain ⟨second, after⟩ := Run.counted behind
  obtain ⟨consumed, split, counted⟩ :=
    before.trans (step.counted.trans after)
  rw [finished, List.append_nil] at split
  rw [closeAll_depth closed, ← split] at counted
  -- Later steps miss no fewer opening braces, so the numbers cannot be equal.
  have equal := balanced.countP_eq
  have positive := List.length_pos_iff.2 overlooked
  change 0 + tokens.countP _ + _ = 0 + tokens.countP _ at counted
  omega

/-- A step enters the body of a namespace in braces or of a type. -/
def OpensBody (before opened : ReaderState) : Prop :=
  ∃ opening, opening.isBraced = true ∧
    opened.frames = ⟨opening, before.members⟩ :: before.frames

/-- A body from the step that opens it to the step that closes it. -/
structure BodyRead (before opened closing closed : ReaderState)
    (body : Body) : Prop where
  header : before.tokens = body.header ++ body.opened
  start : opened.tokens = body.inner ++ body.closer :: body.after
  inside : RunInside opened.frames opened closing
  innermost : closing.frames = opened.frames
  stop : closing.tokens = body.closer :: body.after
  close : Step closing closed
  outside : closed.frames = before.frames
  opens : body.opener.isMark '\x7b' = true
  closes : body.closer.isMark '\x7d' = true

/-- The brace that opens a body is the last token of the step. -/
theorem Step.opened {before opened : ReaderState} (step : Step before opened)
    (opens : OpensBody before opened) :
    ∃ header opener, before.tokens = header ++ opener :: opened.tokens ∧
      opener.isMark '\x7b' = true := by
  obtain ⟨opening, braced, frames⟩ := opens
  cases step with
  | close closing wasBraced =>
      have lengths := congrArg List.length frames
      simp only [List.length_cons] at lengths
      omega
  | separate separator =>
      exact absurd frames (List.cons_ne_self _ _).symm
  | @enter _ _ token _ _ _ scopeWord outside read =>
      cases frames
      have entered := readScopeOpening_entered read
      rw [braced] at entered
      obtain ⟨opener, isOpener, header, split, _⟩ := entered
      exact ⟨token :: header, opener, congrArg (token :: ·) split, isOpener⟩
  | @member _ _ token rest _ member inside noSeparator noScope read =>
      cases member with
      | opened header =>
          cases enumeration : enumerationNext? (token :: rest) with
          | none =>
              obtain ⟨opener, isOpener, front, split, _⟩ :=
                readMember_entered enumeration read
              exact ⟨front, opener, split, isOpener⟩
          | some keyword =>
              obtain ⟨_, _, _, _, answer, _⟩ :=
                readMember_enumeration enumeration read
              cases answer
      | _ =>
          exact absurd frames (List.cons_ne_self _ _).symm

/-- A body that is opened is closed, and by the partner of its opening brace
if no brace is overlooked inside it. -/
theorem exists_bodyRead {before opened : ReaderState} {outline : Outline}
    (read : before.outline = .ok outline) (step : Step before opened)
    (opens : OpensBody before opened) :
    ∃ closing closed body, BodyRead before opened closing closed body ∧
      (KeepsBraces opened.frames opened → body.Matched) := by
  obtain ⟨header, opener, split, isOpener⟩ := step.opened opens
  obtain ⟨opening, braced, frames⟩ := opens
  rw [step.outline_eq] at read
  obtain ⟨closing, closed, run, innermost, closingStep, outside, closer,
    after, stop, isCloser, _⟩ :=
    exists_closing_step ⟨opening, before.members⟩ before.frames braced opened
      (frames ▸ List.suffix_rfl) read
  rw [← frames] at run innermost
  obtain ⟨_, inner, counted⟩ := Run.counted (RunInside.run run)
  refine ⟨closing, closed, ⟨header, opener, inner, closer, after⟩,
    ⟨?_, ?_, run, innermost, stop, closingStep, outside, isOpener,
      isCloser⟩, fun kept => ⟨isOpener, isCloser, ?_⟩⟩
  · rw [split, counted.1, stop]
    rfl
  · rw [counted.1, stop]
  · obtain ⟨_, consumed, again, crossed⟩ :=
      run.crossed List.suffix_rfl kept
    rw [innermost, Nat.sub_self] at crossed
    rw [counted.1] at again
    rwa [← List.append_cancel_right again] at crossed

end Reading

open Reading

/-- The braces of an accepted source are balanced exactly if the reader never
overlooks one on its way to the body of an enumeration.  Every body of a
namespace or a type that is opened is closed later, and it is in matching
braces if none is overlooked inside it; the body of an enumeration always
is. -/
theorem readSource_braces {text : String} {source : Source.Tokenized}
    {outline : Outline}
    (tokenized : Source.tokenize (Source.firstBranches text) = .ok source)
    (read : readSource text = .ok outline) :
    (braces.Balanced source.tokens ↔
        KeepsBraces [] (.start source.tokens)) ∧
      (∀ before opened, Run (.start source.tokens) before →
        Step before opened → OpensBody before opened →
          ∃ closing closed body, BodyRead before opened closing closed body ∧
            body.opened <:+ source.tokens ∧
            (KeepsBraces opened.frames opened → body.Matched) ∧
            (KeepsBraces [] (.start source.tokens) → body.Matched)) ∧
      (∀ state next keyword, Run (.start source.tokens) state →
        Step state next → enumerationNext? state.tokens = some keyword →
          ∃ declared name body,
            EnumerationRead state.tokens declared name body ∧
              body.opened <:+ source.tokens ∧ body.Matched ∧
              next = ⟨state.frames, .enumeration declared :: state.members,
                skipMark ';' body.after⟩) := by
  obtain ⟨found, foundTokenized, outlineRead⟩ := readSource_ok_iff.1 read
  rw [tokenized] at foundTokenized
  cases foundTokenized
  refine ⟨⟨keepsBraces_of_balanced outlineRead,
    balanced_of_keepsBraces outlineRead⟩, ?_, ?_⟩
  · intro before opened run step opens
    have unread : before.outline = .ok outline :=
      (Run.outline_eq run).symm.trans outlineRead
    obtain ⟨closing, closed, body, bodyRead, matched⟩ :=
      exists_bodyRead unread step opens
    have place : body.opened <:+ before.tokens :=
      ⟨body.header, bodyRead.header.symm⟩
    refine ⟨closing, closed, body, bodyRead, place.trans (Run.suffix run),
      matched, fun kept => matched fun reached inside => ?_⟩
    exact kept reached (Run.inside_nothing ((run.tail step).trans
      (RunInside.run inside)))
  · intro state next keyword run step found
    obtain ⟨declared, name, body, enumeration, behind⟩ :=
      step.enumeration found
    have place : body.opened <:+ keyword := by
      have keywordEq := enumeration.next
      rw [found] at keywordEq
      cases keywordEq
      exact ⟨name :: body.header, rfl⟩
    exact ⟨declared, name, body, enumeration,
      place.trans ((enumerationNext?_passed found).suffix.trans
        (Run.suffix run)), enumeration.matched, behind⟩

def nestedBodies : String :=
  "namespace N \x7b class C \x7b enum E : int \x7b X \x7d \x7d \x7d"

def nestedBodiesTokens : List Source.Token :=
  [⟨"", .word "namespace"⟩, ⟨" ", .word "N"⟩, ⟨" ", .mark '{'⟩,
    ⟨" ", .word "class"⟩, ⟨" ", .word "C"⟩, ⟨" ", .mark '{'⟩,
    ⟨" ", .word "enum"⟩, ⟨" ", .word "E"⟩, ⟨" ", .mark ':'⟩,
    ⟨" ", .word "int"⟩, ⟨" ", .mark '{'⟩, ⟨" ", .word "X"⟩,
    ⟨" ", .mark '}'⟩, ⟨" ", .mark '}'⟩, ⟨" ", .mark '}'⟩]

/-- No brace is overlooked, and the namespace is in matching braces. -/
theorem nestedBodies_matched :
    readSource nestedBodies =
        .ok [.scope "N" [.type ⟨.classWord, "C", none, []⟩
          [.enumeration ⟨"E", [], ["X"]⟩]]] ∧
      KeepsBraces [] (.start nestedBodiesTokens) ∧
      ∃ closing closed body,
        BodyRead (.start nestedBodiesTokens)
          ⟨[⟨.block "N", []⟩], [], nestedBodiesTokens.drop 3⟩ closing closed
          body ∧ body.Matched := by
  have tokenized : Source.tokenize (Source.firstBranches nestedBodies) =
      .ok ⟨nestedBodiesTokens, ""⟩ := by
    decide +kernel
  have read : readSource nestedBodies =
      .ok [.scope "N" [.type ⟨.classWord, "C", none, []⟩
        [.enumeration ⟨"E", [], ["X"]⟩]]] :=
    readSource_ok_iff.2 ⟨_, tokenized, by decide +kernel⟩
  have balanced : braces.Balanced nestedBodiesTokens := by
    decide +kernel
  obtain ⟨whole, bodies, _⟩ := readSource_braces tokenized read
  have kept := whole.1 balanced
  have opens : Step (.start nestedBodiesTokens)
      ⟨[⟨.block "N", []⟩], [], nestedBodiesTokens.drop 3⟩ :=
    .enter rfl rfl (by decide +kernel)
  obtain ⟨closing, closed, body, bodyRead, _, _, matched⟩ :=
    bodies _ _ .refl opens ⟨.block "N", rfl, rfl⟩
  exact ⟨read, kept, closing, closed, body, bodyRead, matched kept⟩

/-- The brace that should close the class stands where the body of an
enumeration is looked for. -/
def overlookedBrace : String :=
  "class A \x7b enum B \x7d enum C \x7b X \x7d \x7d"

theorem overlookedBrace_accepted :
    readSource overlookedBrace =
        .ok [.type ⟨.classWord, "A", none, []⟩
          [.enumeration ⟨"B", [], ["X"]⟩]] ∧
      ∀ source,
        Source.tokenize (Source.firstBranches overlookedBrace) = .ok source →
          ¬ braces.Balanced source.tokens := by
  have tokenized : Source.tokenize (Source.firstBranches overlookedBrace) =
      .ok ⟨[⟨"", .word "class"⟩, ⟨" ", .word "A"⟩, ⟨" ", .mark '{'⟩,
        ⟨" ", .word "enum"⟩, ⟨" ", .word "B"⟩, ⟨" ", .mark '}'⟩,
        ⟨" ", .word "enum"⟩, ⟨" ", .word "C"⟩, ⟨" ", .mark '{'⟩,
        ⟨" ", .word "X"⟩, ⟨" ", .mark '}'⟩, ⟨" ", .mark '}'⟩], ""⟩ := by
    decide +kernel
  refine ⟨readSource_ok_iff.2 ⟨_, tokenized, by decide +kernel⟩, ?_⟩
  intro source found
  rw [tokenized] at found
  cases found
  decide +kernel

end ClassDiagram
