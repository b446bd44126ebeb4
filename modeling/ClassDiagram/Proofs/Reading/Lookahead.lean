import ClassDiagram.Proofs.Reading.Angles
import ClassDiagram.Proofs.Reading.Nesting

/-!
# How far readers look ahead

A reader of tokens decides by what it takes and by a few tokens behind that.
Only type arguments are looked for over any distance, and the search ends at
the first semicolon, brace or arrow.  Two lists that agree through the first
such token therefore look the same in front of their ends.

A routine is local if it takes the same tokens in front of every list that
looks the same as what it left.
-/

namespace ClassDiagram.Reading

open Source (Token Lexeme)

def atEnd (tokens : List Token) : Bool :=
  tokens.head?.all fun token => token.isMark '\x7d'

/-- The lists agree through the first token that ends type arguments, or up
to where both end. -/
inductive SameStop : List Token → List Token → Prop
  | ended {left right : List Token}
      (leftEnded : atEnd left = true) (rightEnded : atEnd right = true) :
      SameStop left right
  | stopped {token : Token} (left right : List Token)
      (ending : endsTypeArguments token = true) :
      SameStop (token :: left) (token :: right)
  | shared {token : Token} {left right : List Token}
      (later : SameStop left right) :
      SameStop (token :: left) (token :: right)

theorem SameStop.append {left right : List Token}
    (same : SameStop left right) (consumed : List Token) :
    SameStop (consumed ++ left) (consumed ++ right) := by
  induction consumed with
  | nil =>
      exact same
  | cons token rest inductionHypothesis =>
      exact .shared inductionHypothesis

/-! ## What is next -/

theorem endsTypeArguments_of_isMark {token : Token} {c : Char}
    (isMark : token.isMark c = true)
    (ending : c = ';' ∨ c = '\x7b' ∨ c = '\x7d') :
    endsTypeArguments token = true := by
  rcases ending with rfl | rfl | rfl <;>
    simp [endsTypeArguments, isMark]

theorem atMark_of_atEnd {tokens : List Token} (ended : atEnd tokens = true)
    {c : Char} (other : c ≠ '\x7d') : atMark c tokens = false := by
  cases tokens with
  | nil =>
      rfl
  | cons token rest =>
      have closing : token.isMark '\x7d' = true := ended
      simp only [Token.isMark, beq_iff_eq] at closing
      simpa [atMark, Token.isMark, closing] using Ne.symm other

theorem isMark_eq_false_of_isAnyWord {token : Token}
    (isWord : token.isAnyWord = true) (c : Char) :
    token.isMark c = false := by
  obtain ⟨lead, lexeme⟩ := token
  cases lexeme with
  | word text =>
      rfl
  | _ =>
      cases isWord

theorem isAnyWord_of_word? {token : Token} {text : String}
    (named : word? token = some text) : token.isAnyWord = true := by
  obtain ⟨lead, lexeme⟩ := token
  cases lexeme with
  | word found =>
      rfl
  | _ =>
      cases named

theorem word?_of_isWord {token : Token} {text : String}
    (isWord : token.isWord text = true) : word? token = some text := by
  simp only [Token.isWord, beq_iff_eq] at isWord
  rw [word?, isWord]

theorem word?_of_isMark {token : Token} {c : Char}
    (isMark : token.isMark c = true) : word? token = none := by
  simp only [Token.isMark, beq_iff_eq] at isMark
  rw [word?, isMark]

theorem isWord_of_noWord {token : Token} (noWord : word? token = none)
    (text : String) : token.isWord text = false := by
  obtain ⟨lead, lexeme⟩ := token
  cases lexeme with
  | word found =>
      cases noWord
  | _ =>
      rfl

theorem isWord_eq {token : Token} {text : String}
    (isText : word? token = some text) (other : String) :
    token.isWord other = (text == other) := by
  obtain ⟨lead, lexeme⟩ := token
  cases lexeme with
  | word found =>
      cases isText
      simp [Token.isWord]
  | _ => cases isText

def atWord (text : String) (tokens : List Token) : Bool :=
  tokens.head?.any fun token => token.isWord text

theorem lexeme_of_atEnd {token : Token} {rest : List Token}
    (ended : atEnd (token :: rest) = true) :
    token.lexeme = .mark '\x7d' := by
  have closing : token.isMark '\x7d' = true := ended
  simpa [Token.isMark] using closing

theorem atAnyWord_of_atEnd {tokens : List Token}
    (ended : atEnd tokens = true) : atAnyWord tokens = false := by
  cases tokens with
  | nil =>
      rfl
  | cons token rest =>
      simp [atAnyWord, Token.isAnyWord, lexeme_of_atEnd ended]

theorem SameStop.atEnd_eq {left right : List Token}
    (same : SameStop left right) : atEnd left = atEnd right := by
  cases same with
  | ended leftEnded rightEnded =>
      rw [leftEnded, rightEnded]
  | stopped | shared =>
      rfl

/-- Whatever is the same at every end, and at a token if the lists look the
same behind it, is the same for lists that look the same. -/
theorem SameStop.look_eq {β : Type} {look : List Token → β} {nothing : β}
    {left right : List Token} (same : SameStop left right)
    (onNothing : look [] = nothing)
    (onClosing : ∀ token rest, token.lexeme = .mark '\x7d' →
      look (token :: rest) = nothing)
    (onStop : ∀ token left right, endsTypeArguments token = true →
      look (token :: left) = look (token :: right))
    (onShared : ∀ token left right, SameStop left right →
      look (token :: left) = look (token :: right)) :
    look left = look right := by
  have ended : ∀ tokens, atEnd tokens = true → look tokens = nothing := by
    intro tokens ended
    cases tokens with
    | nil =>
        exact onNothing
    | cons token rest =>
        exact onClosing token rest (lexeme_of_atEnd ended)
  cases same with
  | ended leftEnded rightEnded =>
      rw [ended _ leftEnded, ended _ rightEnded]
  | stopped left right ending =>
      exact onStop _ left right ending
  | shared later =>
      exact onShared _ _ _ later

theorem SameStop.atMark_eq {left right : List Token}
    (same : SameStop left right) {c : Char} (other : c ≠ '\x7d') :
    atMark c left = atMark c right := by
  refine same.look_eq rfl ?_ (fun _ _ _ _ => rfl) fun _ _ _ _ => rfl
  intro token rest closing
  simpa [atMark, Token.isMark, closing] using Ne.symm other

theorem SameStop.atWord_eq {left right : List Token}
    (same : SameStop left right) (text : String) :
    atWord text left = atWord text right := by
  refine same.look_eq rfl ?_ (fun _ _ _ _ => rfl) fun _ _ _ _ => rfl
  intro token rest closing
  simp [atWord, Token.isWord, closing]

theorem SameStop.atAnyWord_eq {left right : List Token}
    (same : SameStop left right) : atAnyWord left = atAnyWord right := by
  refine same.look_eq rfl ?_ (fun _ _ _ _ => rfl) fun _ _ _ _ => rfl
  intro token rest closing
  simp [atAnyWord, Token.isAnyWord, closing]

/-- Behind a token that ends nothing, the lists still look the same. -/
theorem SameStop.of_cons {token : Token} {left right : List Token}
    (same : SameStop (token :: left) right)
    (notEnding : endsTypeArguments token = false) :
    ∃ behind, right = token :: behind ∧ SameStop left behind := by
  cases same with
  | ended leftEnded _ =>
      have closing : token.isMark '\x7d' = true := leftEnded
      rw [endsTypeArguments_of_isMark closing (by simp)] at notEnding
      cases notEnding
  | stopped _ right ending =>
      rw [ending] at notEnding
      cases notEnding
  | shared later =>
      exact ⟨_, rfl, later⟩

/-! ## Angle brackets -/

theorem afterAngles?_of_atEnd {tokens : List Token}
    (ended : atEnd tokens = true) (depth : Nat) :
    afterAngles? depth tokens = none := by
  cases tokens with
  | nil =>
      rfl
  | cons token rest =>
      have closing : token.isMark '\x7d' = true := ended
      exact afterAngles?_ending depth rest
        (endsTypeArguments_of_isMark closing (by simp))

/-- Type arguments close in both lists or in none. -/
theorem SameStop.afterAngles? {left right : List Token}
    (same : SameStop left right) (depth : Nat) :
    (Reading.afterAngles? depth left = none ∧
      Reading.afterAngles? depth right = none) ∨
    ∃ leftRest rightRest, Reading.afterAngles? depth left = some leftRest ∧
      Reading.afterAngles? depth right = some rightRest ∧
      SameStop leftRest rightRest := by
  -- the depth changes along the search, so the induction is for all of them
  induction same generalizing depth with
  | ended leftEnded rightEnded =>
      exact .inl ⟨afterAngles?_of_atEnd leftEnded depth,
        afterAngles?_of_atEnd rightEnded depth⟩
  | stopped left right ending =>
      exact .inl ⟨afterAngles?_ending depth left ending,
        afterAngles?_ending depth right ending⟩
  | @shared token left right later inductionHypothesis =>
      by_cases opening : token.isMark '<' = true
      · rw [afterAngles?_opening depth left opening,
          afterAngles?_opening depth right opening]
        exact inductionHypothesis (depth + 1)
      · by_cases closing : token.isMark '>' = true
        · cases depth with
          | zero =>
              rw [afterAngles?_closing_zero left closing,
                afterAngles?_closing_zero right closing]
              exact .inr ⟨left, right, rfl, rfl, later⟩
          | succ depth =>
              rw [afterAngles?_closing_succ depth left closing,
                afterAngles?_closing_succ depth right closing]
              exact inductionHypothesis depth
        · by_cases ending : endsTypeArguments token = true
          · rw [afterAngles?_ending depth left ending,
              afterAngles?_ending depth right ending]
            exact .inl ⟨rfl, rfl⟩
          · rw [Bool.not_eq_true] at opening closing ending
            rw [afterAngles?_inner depth left opening closing ending,
              afterAngles?_inner depth right opening closing ending]
            exact inductionHypothesis depth

/-- Type arguments that close are closed whatever follows. -/
theorem afterAngles?_local {depth : Nat} {tokens rest : List Token}
    (closed : afterAngles? depth tokens = some rest) :
    ∃ consumed, tokens = consumed ++ rest ∧
      ∀ other, afterAngles? depth (consumed ++ other) = some other := by
  induction tokens generalizing depth with
  | nil =>
      cases closed
  | cons token tokens inductionHypothesis =>
      by_cases opening : token.isMark '<' = true
      · rw [afterAngles?_opening depth tokens opening] at closed
        obtain ⟨consumed, rfl, again⟩ := inductionHypothesis closed
        refine ⟨token :: consumed, rfl, fun other => ?_⟩
        rw [List.cons_append, afterAngles?_opening depth _ opening]
        exact again other
      · by_cases closing : token.isMark '>' = true
        · cases depth with
          | zero =>
              rw [afterAngles?_closing_zero tokens closing] at closed
              cases closed
              exact ⟨[token], rfl, fun other =>
                afterAngles?_closing_zero other closing⟩
          | succ depth =>
              rw [afterAngles?_closing_succ depth tokens closing] at closed
              obtain ⟨consumed, rfl, again⟩ := inductionHypothesis closed
              refine ⟨token :: consumed, rfl, fun other => ?_⟩
              rw [List.cons_append,
                afterAngles?_closing_succ depth _ closing]
              exact again other
        · by_cases ending : endsTypeArguments token = true
          · rw [afterAngles?_ending depth tokens ending] at closed
            cases closed
          · rw [Bool.not_eq_true] at opening closing ending
            rw [afterAngles?_inner depth tokens opening closing ending]
              at closed
            obtain ⟨consumed, rfl, again⟩ := inductionHypothesis closed
            refine ⟨token :: consumed, rfl, fun other => ?_⟩
            rw [List.cons_append,
              afterAngles?_inner depth _ opening closing ending]
            exact again other

/-! ## Local routines -/

/-- The routine takes the same tokens in front of everything that relates to
what it left, and its answer differs only in what is left.  The tokens it
takes keep the lists looking the same. -/
def Local {β : Type} (alike : List Token → List Token → Prop)
    (routine answer : List Token → β) (tokens rest : List Token) : Prop :=
  ∃ consumed, tokens = consumed ++ rest ∧
    ∀ other, alike rest other →
      SameStop tokens (consumed ++ other) ∧
        routine (consumed ++ other) = answer other

/-- A routine that goes on with another one is local if both are. -/
theorem Local.followedBy {β γ δ : Type}
    {alike : List Token → List Token → Prop}
    {first firstAnswer : List Token → β}
    {second secondAnswer : List Token → γ}
    {whole answer : List Token → δ} {tokens middle rest : List Token}
    (firstLocal : Local SameStop first firstAnswer tokens middle)
    (secondLocal : Local alike second secondAnswer middle rest)
    (composed : ∀ consumed between behind : List Token,
      tokens = consumed ++ middle →
      SameStop tokens (consumed ++ between) →
      first (consumed ++ between) = firstAnswer between →
      second between = secondAnswer behind →
      whole (consumed ++ between) = answer behind) :
    Local alike whole answer tokens rest := by
  obtain ⟨consumed, rfl, firstAgain⟩ := firstLocal
  obtain ⟨further, rfl, secondAgain⟩ := secondLocal
  refine ⟨consumed ++ further, (List.append_assoc _ _ _).symm, ?_⟩
  intro other related
  obtain ⟨sameMiddle, secondEq⟩ := secondAgain other related
  obtain ⟨sameTokens, firstEq⟩ := firstAgain (further ++ other) sameMiddle
  rw [List.append_assoc]
  exact ⟨sameTokens,
    composed consumed (further ++ other) other rfl sameTokens firstEq
      secondEq⟩

/-- A routine that takes some tokens in any case and goes on with a local
routine is local. -/
theorem Local.behind {γ δ : Type}
    {alike : List Token → List Token → Prop} (first : List Token)
    {second secondAnswer : List Token → γ}
    {whole answer : List Token → δ} {middle rest : List Token}
    (secondLocal : Local alike second secondAnswer middle rest)
    (composed : ∀ between behind : List Token, SameStop middle between →
      second between = secondAnswer behind →
      whole (first ++ between) = answer behind) :
    Local alike whole answer (first ++ middle) rest := by
  obtain ⟨further, rfl, secondAgain⟩ := secondLocal
  refine ⟨first ++ further, (List.append_assoc _ _ _).symm, ?_⟩
  intro other related
  obtain ⟨sameMiddle, secondEq⟩ := secondAgain other related
  rw [List.append_assoc]
  exact ⟨sameMiddle.append first,
    composed (further ++ other) other sameMiddle secondEq⟩

/-- A routine whose answer follows from that of a local one is local. -/
theorem Local.determines {β γ : Type}
    {alike : List Token → List Token → Prop}
    {routine answer : List Token → β} {whole wholeAnswer : List Token → γ}
    {tokens rest : List Token}
    (isLocal : Local alike routine answer tokens rest)
    (follows : ∀ consumed other : List Token, tokens = consumed ++ rest →
      SameStop tokens (consumed ++ other) →
      routine (consumed ++ other) = answer other →
      whole (consumed ++ other) = wholeAnswer other) :
    Local alike whole wholeAnswer tokens rest := by
  obtain ⟨consumed, rfl, again⟩ := isLocal
  refine ⟨consumed, rfl, fun other related => ?_⟩
  obtain ⟨same, routineEq⟩ := again other related
  exact ⟨same, follows consumed other rfl same routineEq⟩

theorem Local.map {β γ : Type} {alike : List Token → List Token → Prop}
    {routine answer : List Token → β} {tokens rest : List Token}
    (convert : β → γ) (isLocal : Local alike routine answer tokens rest) :
    Local alike (convert ∘ routine) (convert ∘ answer) tokens rest :=
  isLocal.determines fun _ _ _ _ routineEq => congrArg convert routineEq

/-- A routine that agrees with a local one wherever the tokens look the same
is local. -/
theorem Local.congr {β : Type} {alike : List Token → List Token → Prop}
    {routine whole answer : List Token → β} {tokens rest : List Token}
    (isLocal : Local alike routine answer tokens rest)
    (agree : ∀ other, SameStop tokens other → whole other = routine other) :
    Local alike whole answer tokens rest :=
  isLocal.determines fun _ _ _ same routineEq =>
    (agree _ same).trans routineEq

/-- A routine that goes on as another one does takes what that one takes. -/
theorem Local.trans {β : Type} {alike : List Token → List Token → Prop}
    {whole second answer : List Token → β} {tokens middle rest : List Token}
    (goesOn : Local SameStop whole second tokens middle)
    (isLocal : Local alike second answer middle rest) :
    Local alike whole answer tokens rest := by
  refine goesOn.followedBy isLocal ?_
  intro consumed between behind _ _ wholeEq secondEq
  exact wholeEq.trans secondEq

/-- What matters less is local as well. -/
theorem Local.mono {β : Type} {alike closer : List Token → List Token → Prop}
    {routine answer : List Token → β} {tokens rest : List Token}
    (isLocal : Local alike routine answer tokens rest)
    (weaker : ∀ other, closer rest other → alike rest other) :
    Local closer routine answer tokens rest := by
  obtain ⟨consumed, tokensEq, again⟩ := isLocal
  exact ⟨consumed, tokensEq, fun other related =>
    again other (weaker other related)⟩

/-- A routine that takes nothing is local if its answer depends only on what
looks the same. -/
theorem local_of_nothing {β : Type} {routine answer : List Token → β}
    {rest : List Token}
    (again : ∀ other, SameStop rest other →
      routine other = answer other) :
    Local SameStop routine answer rest rest :=
  ⟨[], rfl, fun other same => ⟨same, again other same⟩⟩

end ClassDiagram.Reading
