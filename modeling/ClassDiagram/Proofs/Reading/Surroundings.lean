import ClassDiagram.Proofs.Reading.Steps

/-!
# What lies around open bodies

A step of the reader looks at the innermost open body only.  What is open
around the bodies that a run opens itself, and what was read there before the
run, can be put in place of other surroundings, as long as the run cannot
close what was open at its start.
-/

namespace ClassDiagram.Reading

open Source (Token Lexeme)

/-! ## Bodies inside other bodies -/

/-- Open bodies inside outer ones, and the members of the innermost body.
Earlier members were read in the innermost of the outer bodies, latest
first. -/
def surround (outer : Frames) (earlier : List Declaration) :
    Frames → List Declaration → Frames × List Declaration
  | [], members => (outer, members ++ earlier)
  | ⟨opening, before⟩ :: frames, members =>
      let around := surround outer earlier frames before
      (⟨opening, around.2⟩ :: around.1, members)

variable {outer other frames : Frames}
  {earlier otherEarlier members : List Declaration}

theorem surround_nothing (frames : Frames) (members : List Declaration) :
    surround [] [] frames members = (frames, members) := by
  induction frames generalizing members with
  | nil =>
      rw [surround, List.append_nil]
  | cons frame frames inductionHypothesis =>
      simp only [surround, inductionHypothesis]

/-- A further member joins the innermost body. -/
theorem surround_cons (declaration : Declaration) :
    surround outer earlier frames (declaration :: members) =
      ((surround outer earlier frames members).1,
        declaration :: (surround outer earlier frames members).2) := by
  cases frames <;> rfl

theorem enclosingType_surround (noType : enclosingType outer = none) :
    enclosingType (surround outer earlier frames members).1 =
      enclosingType frames := by
  cases frames with
  | nil =>
      exact noType
  | cons frame frames =>
      obtain ⟨opening, before⟩ := frame
      cases opening <;> rfl

theorem insideType_surround (noType : enclosingType outer = none) :
    insideType (surround outer earlier frames members).1 =
      insideType frames := by
  rw [insideType, insideType, enclosingType_surround noType]

/-- What was read before in a whole source stands in front of the rest. -/
theorem closeAll_surround {outline : Outline}
    (closed : closeAll frames members = .ok outline) :
    closeAll (surround [] earlier frames members).1
        (surround [] earlier frames members).2 =
      .ok (earlier.reverse ++ outline) := by
  fun_induction closeAll frames members with
  | case1 members =>
      cases closed
      rw [surround, closeAll, List.reverse_append]
  | case2 name before frames members inductionHypothesis =>
      have inner := inductionHypothesis closed
      rw [surround_cons] at inner
      exact inner
  | case3 | case4 =>
      cases closed

namespace ReaderState

def within (state : ReaderState) (outer : Frames)
    (earlier : List Declaration) : ReaderState :=
  let around := surround outer earlier state.frames state.members
  ⟨around.1, around.2, state.tokens⟩

theorem within_nothing (state : ReaderState) :
    state.within [] [] = state := by
  rw [within, surround_nothing]

theorem within_cons (declaration : Declaration) (tokens : List Token) :
    within ⟨frames, declaration :: members, tokens⟩ outer earlier =
      ⟨(surround outer earlier frames members).1,
        declaration :: (surround outer earlier frames members).2,
        tokens⟩ := by
  rw [within, surround_cons]

theorem within_behindMember (state : ReaderState) (member : Member) :
    (state.behindMember member).within outer earlier =
      (state.within outer earlier).behindMember member := by
  cases member with
  | leftOut =>
      rfl
  | complete declaration =>
      exact within_cons declaration state.tokens
  | opened header =>
      rfl

end ReaderState

/-! ## Steps and runs in other surroundings -/

/-- A closing brace closes the innermost of these bodies. -/
def mayClose : Frames → Bool
  | [] => false
  | frame :: _ => frame.opening.isBraced

/-- A step inside bodies that it cannot close is a step inside any others
that are no types either. -/
theorem Step.moved {state next : ReaderState}
    (noType : enclosingType outer = none)
    (otherNoType : enclosingType other = none)
    (stays : mayClose outer = false)
    (step : Step (state.within outer earlier) next) :
    ∃ above : ReaderState, next = above.within outer earlier ∧
      Step (state.within other otherEarlier)
        (above.within other otherEarlier) := by
  obtain ⟨frames, members, tokens⟩ := state
  generalize surrounded : ReaderState.within ⟨frames, members, tokens⟩ outer
    earlier = start at step
  cases step with
  | @close opening before around inner token rest closing braced =>
      obtain ⟨framesEq, membersEq, rfl⟩ := ReaderState.mk.inj surrounded
      cases frames with
      | nil =>
          -- The brace would close the surroundings.
          simp only [surround] at framesEq
          rw [framesEq, mayClose, braced] at stays
          cases stays
      | cons frame frames =>
          obtain ⟨innermost, earlierMembers⟩ := frame
          simp only [surround, List.cons.injEq, Frame.mk.injEq]
            at framesEq membersEq
          obtain ⟨⟨rfl, rfl⟩, rfl⟩ := framesEq
          subst membersEq
          refine ⟨⟨frames, innermost.close members.reverse ::
            earlierMembers, skipMark ';' rest⟩, ?_, ?_⟩
          · rw [ReaderState.within_cons]
          · rw [ReaderState.within_cons]
            exact .close closing braced
  | @separate around inner token rest separator =>
      obtain ⟨rfl, rfl, rfl⟩ := ReaderState.mk.inj surrounded
      exact ⟨⟨frames, members, rest⟩, rfl, .separate separator⟩
  | @enter around inner token rest body opening scopeWord outside read =>
      obtain ⟨rfl, rfl, rfl⟩ := ReaderState.mk.inj surrounded
      rw [insideType_surround noType,
        ← insideType_surround otherNoType] at outside
      exact ⟨⟨⟨opening, members⟩ :: frames, [], body⟩, rfl,
        .enter scopeWord outside read⟩
  | @member around inner token rest behind member inside noSeparator noScope
      read =>
      obtain ⟨rfl, rfl, rfl⟩ := ReaderState.mk.inj surrounded
      rw [insideType_surround noType,
        ← insideType_surround otherNoType] at noScope
      rw [enclosingType_surround noType,
        ← enclosingType_surround otherNoType] at read
      refine ⟨ReaderState.behindMember ⟨frames, members, behind⟩ member,
        ?_, ?_⟩
      · rw [ReaderState.within_behindMember]
        rfl
      · rw [ReaderState.within_behindMember]
        exact .member inside noSeparator noScope read

/-- A run inside bodies that it cannot close is a run inside any others that
are no types either. -/
theorem Run.moved {state final : ReaderState}
    (noType : enclosingType outer = none)
    (otherNoType : enclosingType other = none)
    (stays : mayClose outer = false)
    (run : Run (state.within outer earlier) final) :
    ∃ above : ReaderState, final = above.within outer earlier ∧
      Run (state.within other otherEarlier)
        (above.within other otherEarlier) := by
  induction run with
  | refl =>
      exact ⟨state, rfl, .refl⟩
  | tail _ step inductionHypothesis =>
      obtain ⟨between, rfl, moved⟩ := inductionHypothesis
      obtain ⟨above, rfl, movedStep⟩ :=
        step.moved noType otherNoType stays
      exact ⟨above, rfl, moved.tail movedStep⟩

/-- A run of a whole source is a run inside outer bodies. -/
theorem Run.within {state final : ReaderState} (run : Run state final)
    (outer : Frames) (earlier : List Declaration)
    (noType : enclosingType outer = none) :
    Run (state.within outer earlier) (final.within outer earlier) := by
  rw [← state.within_nothing] at run
  obtain ⟨above, rfl, moved⟩ := Run.moved rfl noType rfl run
  rwa [above.within_nothing]

end ClassDiagram.Reading
