/-!
# Scanners

A scanner reads an initial part of a text.  Choice is ordered, repetition is
greedy, and neither is ever revised by what follows.

Every attempt also reports its reach: how far from its start the furthest
failed comparison lies.  A text that cannot be read is reported at the
furthest place any alternative got to, not at the start of the one that was
tried last, so the reach is kept on success too.

Two laws are part of the type.  What a scanner takes and what it leaves make
up the text it was given, and the reach lies inside that text.
-/

namespace ClassDiagram.Source

/-- A text cut in two: the part that was read and the part that is left. -/
structure Portion where
  taken : List Char
  rest : List Char
  deriving DecidableEq, Repr

/-- The outcome of a scanner: a portion if it accepts, and how far its
furthest failed comparison lies from the start. -/
structure Attempt where
  portion? : Option Portion
  reach : Nat
  deriving DecidableEq, Repr

/-- A reader of initial parts of texts. -/
structure Scanner where
  run : List Char → Attempt
  /-- Nothing is lost, added or reordered. -/
  keeps : ∀ {text : List Char} {portion : Portion},
    (run text).portion? = some portion →
      portion.taken ++ portion.rest = text
  /-- No comparison is made behind the end of the text. -/
  bounded : ∀ text : List Char, (run text).reach ≤ text.length

/-- Continue an attempt with what a further scanner makes of the rest. -/
def Attempt.followedBy (attempt : Attempt) (next : Scanner) : Attempt :=
  match attempt.portion? with
  | none => attempt
  | some portion =>
      let later := next.run portion.rest
      ⟨later.portion?.map fun further =>
          ⟨portion.taken ++ further.taken, further.rest⟩,
        max attempt.reach (portion.taken.length + later.reach)⟩

/-- Replace a failed attempt by what another scanner makes of the text. -/
def Attempt.orElse
    (attempt : Attempt) (other : Scanner) (text : List Char) : Attempt :=
  match attempt.portion? with
  | some _ => attempt
  | none =>
      let later := other.run text
      ⟨later.portion?, max attempt.reach later.reach⟩

namespace Scanner

def acceptsWhole (scanner : Scanner) (text : List Char) : Bool :=
  match (scanner.run text).portion? with
  | some portion => portion.rest.isEmpty
  | none => false

def done : Scanner where
  run text := ⟨some ⟨[], text⟩, 0⟩
  keeps := by
    rintro text portion accepted
    cases accepted
    rfl
  bounded _ := Nat.zero_le _

def refuse : Scanner where
  run _ := ⟨none, 0⟩
  keeps := by
    rintro text portion accepted
    cases accepted
  bounded _ := Nat.zero_le _

def runOne (accepts : Char → Bool) : List Char → Attempt
  | [] => ⟨none, 0⟩
  | c :: rest => if accepts c then ⟨some ⟨[c], rest⟩, 0⟩ else ⟨none, 0⟩

def one (accepts : Char → Bool) : Scanner where
  run := runOne accepts
  keeps := by
    rintro text portion accepted
    cases text with
    | nil =>
        cases accepted
    | cons c rest =>
        simp only [runOne] at accepted
        split at accepted
        · cases accepted
          rfl
        · cases accepted
  bounded text := by
    cases text with
    | nil =>
        exact Nat.le_refl 0
    | cons c rest =>
        simp only [runOne]
        split <;> exact Nat.zero_le _

def char (wanted : Char) : Scanner :=
  one (· == wanted)

/-- Read one character that is none of these. -/
def noneOf (excluded : List Char) : Scanner :=
  one fun c => !excluded.contains c

def andThen (first next : Scanner) : Scanner where
  run text := (first.run text).followedBy next
  keeps := by
    rintro text portion accepted
    unfold Attempt.followedBy at accepted
    split at accepted
    · rename_i refused
      rw [refused] at accepted
      cases accepted
    · rename_i initial initialRead
      simp only [Option.map_eq_some_iff] at accepted
      obtain ⟨further, furtherRead, rfl⟩ := accepted
      rw [List.append_assoc, next.keeps furtherRead, first.keeps initialRead]
  bounded text := by
    unfold Attempt.followedBy
    split
    · exact first.bounded text
    · rename_i initial initialRead
      have firstBound := first.bounded text
      have nextBound := next.bounded initial.rest
      have lengths := congrArg List.length (first.keeps initialRead)
      rw [List.length_append] at lengths
      simp only
      omega

/-- Read by the first scanner if it accepts and by the other one if not. -/
def either (first other : Scanner) : Scanner where
  run text := (first.run text).orElse other text
  keeps := by
    rintro text portion accepted
    unfold Attempt.orElse at accepted
    split at accepted
    · exact first.keeps accepted
    · exact other.keeps accepted
  bounded text := by
    have firstBound := first.bounded text
    have otherBound := other.bounded text
    unfold Attempt.orElse
    split
    · exact firstBound
    · simp only
      omega

/-- Read by the first of several scanners that accepts. -/
def oneOf (alternatives : List Scanner) : Scanner :=
  alternatives.foldr either refuse

def inOrder (parts : List Scanner) : Scanner :=
  parts.foldr andThen done

/-- Read exactly this word; a text that departs from it fails at the first
character that differs. -/
def word (letters : List Char) : Scanner :=
  inOrder (letters.map char)

/-- Read one character, provided the word does not begin here.  Looking
ahead for the word is not a comparison that can fail. -/
def oneBefore (letters : List Char) : Scanner where
  run text :=
    if letters.isPrefixOf text then
      ⟨none, 0⟩
    else
      runOne (fun _ => true) text
  keeps := by
    rintro text portion accepted
    split at accepted
    · cases accepted
    · exact (one fun _ => true).keeps accepted
  bounded text := by
    split
    · exact Nat.zero_le _
    · exact (one fun _ => true).bounded text

/-! ## Repetition -/

/-- What a repetition reads, which may be nothing, and its reach. -/
structure Run where
  portion : Portion
  reach : Nat
  deriving DecidableEq, Repr

/-- A scanner that takes something leaves less than it was given. -/
theorem rest_length_lt (scanner : Scanner)
    {text : List Char} {portion : Portion}
    (accepted : (scanner.run text).portion? = some portion)
    (something : ¬ portion.taken = []) :
    portion.rest.length < text.length := by
  have lengths := congrArg List.length (scanner.keeps accepted)
  have positive := List.length_pos_iff.2 something
  rw [List.length_append] at lengths
  omega

/-- Read items for as long as one can be read and takes something. -/
def repeated (item : Scanner) (text : List Char) : Run :=
  match _ : (item.run text).portion? with
  | none => ⟨⟨[], text⟩, (item.run text).reach⟩
  | some portion =>
      if _ : portion.taken = [] then
        ⟨⟨[], text⟩, (item.run text).reach⟩
      else
        let later := repeated item portion.rest
        ⟨⟨portion.taken ++ later.portion.taken, later.portion.rest⟩,
          max (item.run text).reach (portion.taken.length + later.reach)⟩
termination_by text.length
decreasing_by
  exact item.rest_length_lt ‹_› ‹_›

theorem repeated_keeps (item : Scanner) (text : List Char) :
    (repeated item text).portion.taken ++
      (repeated item text).portion.rest = text := by
  fun_induction repeated item text with
  | case1 text refused =>
      rfl
  | case2 text portion accepted nothing =>
      rfl
  | case3 text portion accepted something later inductionHypothesis =>
      rw [List.append_assoc, inductionHypothesis]
      exact item.keeps accepted

theorem repeated_bounded (item : Scanner) (text : List Char) :
    (repeated item text).reach ≤ text.length := by
  fun_induction repeated item text with
  | case1 text refused =>
      exact item.bounded text
  | case2 text portion accepted nothing =>
      exact item.bounded text
  | case3 text portion accepted something later inductionHypothesis =>
      have itemBound := item.bounded text
      have lengths := congrArg List.length (item.keeps accepted)
      rw [List.length_append] at lengths
      exact Nat.max_le.2 ⟨itemBound, by
        simp only [later]
        omega⟩

def many (item : Scanner) : Scanner where
  run text := ⟨some (repeated item text).portion, (repeated item text).reach⟩
  keeps := by
    rintro text portion accepted
    cases accepted
    exact repeated_keeps item text
  bounded text := repeated_bounded item text

def atLeastOne (item : Scanner) : Scanner :=
  item.andThen item.many

def optional (item : Scanner) : Scanner :=
  item.either done

/-- A scanner that is put together only when a text is read. -/
def delayed (scanner : Unit → Scanner) : Scanner where
  run text := (scanner ()).run text
  keeps accepted := (scanner ()).keeps accepted
  bounded text := (scanner ()).bounded text

@[simp]
theorem run_delayed (scanner : Unit → Scanner) (text : List Char) :
    (delayed scanner).run text = (scanner ()).run text :=
  rfl

/-! ## Refusals at the first character -/

def RefusesAtOnce (scanner : Scanner) (text : List Char) : Prop :=
  scanner.run text = ⟨none, 0⟩

theorem refusesAtOnce_refuse (text : List Char) :
    refuse.RefusesAtOnce text :=
  rfl

theorem refusesAtOnce_one {accepts : Char → Bool} {c : Char}
    (refused : accepts c = false) (rest : List Char) :
    (one accepts).RefusesAtOnce (c :: rest) := by
  simp [RefusesAtOnce, one, runOne, refused]

/-- A row of parts refuses what its first part refuses. -/
theorem RefusesAtOnce.andThen {first : Scanner} {text : List Char}
    (refused : first.RefusesAtOnce text) (next : Scanner) :
    (first.andThen next).RefusesAtOnce text := by
  unfold RefusesAtOnce at refused ⊢
  simp [Scanner.andThen, Attempt.followedBy, refused]

/-- A choice refuses what both sides refuse. -/
theorem RefusesAtOnce.either {first other : Scanner} {text : List Char}
    (firstRefused : first.RefusesAtOnce text)
    (otherRefused : other.RefusesAtOnce text) :
    (first.either other).RefusesAtOnce text := by
  unfold RefusesAtOnce at firstRefused otherRefused ⊢
  simp [Scanner.either, Attempt.orElse, firstRefused, otherRefused]

theorem RefusesAtOnce.inOrder {first : Scanner} {text : List Char}
    (refused : first.RefusesAtOnce text) (others : List Scanner) :
    (inOrder (first :: others)).RefusesAtOnce text :=
  refused.andThen (Scanner.inOrder others)

theorem refusesAtOnce_oneOf {alternatives : List Scanner} {text : List Char}
    (refused : ∀ scanner ∈ alternatives, scanner.RefusesAtOnce text) :
    (oneOf alternatives).RefusesAtOnce text := by
  induction alternatives with
  | nil =>
      exact refusesAtOnce_refuse text
  | cons first others inductionHypothesis =>
      exact
        (refused first List.mem_cons_self).either
          (inductionHypothesis fun scanner member =>
            refused scanner (List.mem_cons_of_mem first member))

/-- What cannot be read once is read no time at all, and a part behind it
meets the same text. -/
theorem RefusesAtOnce.many_andThen {item next : Scanner} {text : List Char}
    (itemRefused : item.RefusesAtOnce text)
    (nextRefused : next.RefusesAtOnce text) :
    (item.many.andThen next).RefusesAtOnce text := by
  unfold RefusesAtOnce at itemRefused nextRefused ⊢
  have nothingRead : repeated item text = ⟨⟨[], text⟩, 0⟩ := by
    rw [repeated]
    split
    · simp [itemRefused]
    · rename_i portion accepted
      rw [itemRefused] at accepted
      cases accepted
  simp [Scanner.andThen, many, Attempt.followedBy, nothingRead, nextRefused]

end Scanner

end ClassDiagram.Source
