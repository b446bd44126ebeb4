import ClassDiagram.Proofs.Source.PlainText

/-!
# Reading exactly a part

What a scanner takes of a text may depend on what stands behind it.  Saying
which part is read in front of which rest makes readings compose: a row of
parts is read in front of a rest exactly if every part is read in front of
what follows it.

The forms of scanners are characterised one by one, so that a grammar can be
compared with its scanner without running either on a text.
-/

namespace ClassDiagram.Source.Scanner

variable {scanner first next other item : Scanner}
  {part further rest text letters : List Char} {accepts : Char → Bool}

/-- The scanner takes exactly this part in front of this rest. -/
def Reads (scanner : Scanner) (part rest : List Char) : Prop :=
  (scanner.run (part ++ rest)).portion? = some ⟨part, rest⟩

def Refuses (scanner : Scanner) (text : List Char) : Prop :=
  (scanner.run text).portion? = none

theorem RefusesAtOnce.refuses (refused : scanner.RefusesAtOnce text) :
    scanner.Refuses text :=
  refused.portion?

theorem reads_of_accepted {portion : Portion}
    (accepted : (scanner.run text).portion? = some portion) :
    scanner.Reads portion.taken portion.rest := by
  rw [Reads, scanner.keeps accepted]
  exact accepted

theorem reads_delayed_iff {built : Unit → Scanner} :
    (delayed built).Reads part rest ↔ (built ()).Reads part rest :=
  Iff.rfl

/-! ## One part behind another -/

theorem reads_done_iff : done.Reads part rest ↔ part = [] := by
  simp [Reads, done, eq_comm]

theorem reads_andThen_iff :
    (first.andThen next).Reads part rest ↔
      ∃ left right, part = left ++ right ∧
        first.Reads left (right ++ rest) ∧ next.Reads right rest := by
  constructor
  · intro reads
    rw [Reads, portion?_andThen] at reads
    obtain ⟨initial, initialRead, later⟩ := Option.bind_eq_some_iff.1 reads
    obtain ⟨following, followingRead, equal⟩ :=
      Option.map_eq_some_iff.1 later
    rw [Portion.mk.injEq] at equal
    obtain ⟨rfl, rfl⟩ := equal
    have kept := next.keeps followingRead
    refine ⟨initial.taken, following.taken, rfl, ?_, ?_⟩
    · rw [kept]
      exact reads_of_accepted initialRead
    · exact reads_of_accepted followingRead
  · rintro ⟨left, right, rfl, firstReads, nextReads⟩
    rw [Reads, portion?_andThen, List.append_assoc, firstReads]
    rw [Option.bind_some, nextReads]
    rfl

theorem Reads.andThen (firstReads : first.Reads part (further ++ rest))
    (nextReads : next.Reads further rest) :
    (first.andThen next).Reads (part ++ further) rest :=
  reads_andThen_iff.2 ⟨part, further, rfl, firstReads, nextReads⟩

theorem Refuses.andThen (refused : first.Refuses text) (next : Scanner) :
    (first.andThen next).Refuses text := by
  rw [Refuses, portion?_andThen, refused]
  rfl

/-- A row is refused where its second part is. -/
theorem Reads.andThen_refuses (firstReads : first.Reads part rest)
    (refused : next.Refuses rest) :
    (first.andThen next).Refuses (part ++ rest) := by
  rw [Refuses, portion?_andThen, firstReads, Option.bind_some, refused]
  rfl

/-! ## Alternatives -/

theorem reads_either_iff :
    (first.either other).Reads part rest ↔
      first.Reads part rest ∨
        first.Refuses (part ++ rest) ∧ other.Reads part rest := by
  rw [Reads, portion?_either, Option.or_eq_some_iff]
  rfl

theorem refuses_either_iff :
    (first.either other).Refuses text ↔
      first.Refuses text ∧ other.Refuses text := by
  rw [Refuses, portion?_either, Option.or_eq_none_iff]
  rfl

theorem refuses_refuse : refuse.Refuses text :=
  rfl

theorem refuses_oneOf {alternatives : List Scanner}
    (refused : alternatives.Forall fun scanner => scanner.Refuses text) :
    (oneOf alternatives).Refuses text := by
  rw [List.forall_iff_forall_mem] at refused
  induction alternatives with
  | nil =>
      exact refuses_refuse
  | cons first others inductionHypothesis =>
      obtain ⟨here, later⟩ := List.forall_mem_cons.1 refused
      exact refuses_either_iff.2 ⟨here, inductionHypothesis later⟩

/-- The first alternative that does not refuse a text reads it. -/
theorem reads_oneOf (before : List Scanner) {after : List Scanner}
    (refused : before.Forall fun other => other.Refuses (part ++ rest))
    (reads : scanner.Reads part rest) :
    (oneOf (before ++ scanner :: after)).Reads part rest := by
  rw [List.forall_iff_forall_mem] at refused
  induction before with
  | nil =>
      exact reads_either_iff.2 (.inl reads)
  | cons first others inductionHypothesis =>
      obtain ⟨here, later⟩ := List.forall_mem_cons.1 refused
      exact reads_either_iff.2 (.inr ⟨here, inductionHypothesis later⟩)

theorem exists_of_reads_oneOf {alternatives : List Scanner}
    (reads : (oneOf alternatives).Reads part rest) :
    ∃ scanner ∈ alternatives, scanner.Reads part rest := by
  induction alternatives with
  | nil =>
      cases reads
  | cons first others inductionHypothesis =>
      rcases reads_either_iff.1 reads with here | ⟨_, later⟩
      · exact ⟨first, List.mem_cons_self, here⟩
      · obtain ⟨scanner, member, found⟩ := inductionHypothesis later
        exact ⟨scanner, List.mem_cons_of_mem first member, found⟩

/-! ## Single characters and words -/

theorem reads_one_iff :
    (one accepts).Reads part rest ↔
      ∃ c, part = [c] ∧ accepts c = true := by
  constructor
  · intro reads
    rw [Reads] at reads
    rcases whole : part ++ rest with - | ⟨c, others⟩
    · rw [whole] at reads
      cases reads
    · rw [whole] at reads
      simp only [one, runOne] at reads
      split at reads
      · rename_i accepted
        cases reads
        exact ⟨c, rfl, accepted⟩
      · cases reads
  · rintro ⟨c, rfl, accepted⟩
    exact portion?_one_cons accepted rest

theorem reads_char (c : Char) (rest : List Char) :
    (char c).Reads [c] rest :=
  reads_one_iff.2 ⟨c, rfl, by simp⟩

theorem refuses_one_iff :
    (one accepts).Refuses text ↔ ∀ c ∈ text.head?, accepts c = false := by
  rcases text with - | ⟨c, others⟩
  · exact iff_of_true rfl nofun
  · by_cases accepted : accepts c = true <;>
      simp [Refuses, one, runOne, accepted]

theorem refuses_char {c : Char} (absent : text.head? ≠ some c) :
    (char c).Refuses text := by
  refine refuses_one_iff.2 fun d member => ?_
  rw [beq_eq_false_iff_ne]
  rintro rfl
  exact absent member

theorem reads_word (letters rest : List Char) :
    (word letters).Reads letters rest := by
  induction letters with
  | nil =>
      exact reads_done_iff.2 rfl
  | cons c others inductionHypothesis =>
      exact (reads_char c (others ++ rest)).andThen inductionHypothesis

theorem reads_word_iff : (word letters).Reads part rest ↔ part = letters := by
  refine ⟨fun reads => ?_, fun equal => equal ▸ reads_word letters rest⟩
  induction letters generalizing part with
  | nil =>
      exact reads_done_iff.1 reads
  | cons c others inductionHypothesis =>
      obtain ⟨left, right, rfl, leftRead, rightRead⟩ :=
        reads_andThen_iff.1 reads
      obtain ⟨d, rfl, same⟩ := reads_one_iff.1 leftRead
      rw [beq_iff_eq] at same
      rw [same, inductionHypothesis rightRead]
      rfl

/-- A word is refused wherever the text does not begin with it. -/
theorem refuses_word (absent : ¬ letters <+: text) :
    (word letters).Refuses text := by
  by_contra accepted
  rw [Refuses, ← ne_eq, Option.ne_none_iff_exists'] at accepted
  obtain ⟨portion, found⟩ := accepted
  have taken := reads_word_iff.1 (reads_of_accepted found)
  apply absent
  rw [← (word letters).keeps found, taken]
  exact List.prefix_append letters portion.rest

/-! ## Repetition -/

/-- A repetition goes no further in front of this text. -/
def Stops (item : Scanner) (text : List Char) : Prop :=
  ∀ portion, (item.run text).portion? = some portion → portion.taken = []

theorem Refuses.stops (refused : item.Refuses text) : item.Stops text := by
  intro portion accepted
  rw [refused] at accepted
  cases accepted

/-- The part is made of items, each read in front of what follows it, and
the last one stands where no further item is read. -/
inductive ReadsItems (item : Scanner) (rest : List Char) :
    List Char → Prop
  | done (stopped : item.Stops rest) : ReadsItems item rest []
  | more {part further : List Char}
      (itemReads : item.Reads part (further ++ rest))
      (something : part ≠ [])
      (later : ReadsItems item rest further) :
      ReadsItems item rest (part ++ further)

theorem readsItems_repeated (item : Scanner) (text : List Char) :
    ReadsItems item (repeated item text).portion.rest
      (repeated item text).portion.taken := by
  fun_induction repeated item text with
  | case1 text refused =>
      exact .done (Refuses.stops refused)
  | case2 text portion accepted nothing =>
      refine .done fun found foundAccepted => ?_
      rw [accepted] at foundAccepted
      cases foundAccepted
      exact nothing
  | case3 text portion accepted something later inductionHypothesis =>
      refine .more ?_ something inductionHypothesis
      rw [repeated_keeps]
      exact reads_of_accepted accepted

/-- A repetition reads what is made of items. -/
theorem reads_many_iff :
    item.many.Reads part rest ↔ ReadsItems item rest part := by
  constructor
  · intro reads
    have items := readsItems_repeated item (part ++ rest)
    have whole : (repeated item (part ++ rest)).portion = ⟨part, rest⟩ :=
      Option.some.inj reads
    rwa [whole] at items
  · intro items
    induction items with
    | done stopped =>
        cases accepted : (item.run rest).portion? with
        | none =>
            exact congrArg some (portion_repeated_of_refused accepted)
        | some portion =>
            have nothing := stopped portion accepted
            rw [Reads, portion?_many, repeated]
            split
            · rfl
            · rename_i found foundAccepted
              rw [List.nil_append, accepted] at foundAccepted
              cases foundAccepted
              simp [nothing]
    | @more part further itemReads something later inductionHypothesis =>
        have behind : (repeated item (further ++ rest)).portion =
            ⟨further, rest⟩ := Option.some.inj inductionHypothesis
        rw [Reads, portion?_many, List.append_assoc,
          portion_repeated_of_accepted itemReads something, behind]

theorem Refuses.many (refused : item.Refuses rest) :
    item.many.Reads [] rest :=
  reads_many_iff.2 (.done refused.stops)

theorem Reads.many (itemReads : item.Reads part (further ++ rest))
    (something : part ≠ []) (laterRead : item.many.Reads further rest) :
    item.many.Reads (part ++ further) rest :=
  reads_many_iff.2 (.more itemReads something (reads_many_iff.1 laterRead))

def TakesOne (scanner : Scanner) : Prop :=
  ∀ part rest, scanner.Reads part rest → ∃ c, part = [c]

theorem takesOne_one (accepts : Char → Bool) : (one accepts).TakesOne := by
  intro part rest reads
  obtain ⟨c, single, _⟩ := reads_one_iff.1 reads
  exact ⟨c, single⟩

/-- A repetition of single characters reads a text character by character. -/
theorem TakesOne.reads_many_cons_iff (single : item.TakesOne) {c : Char} :
    item.many.Reads (c :: part) rest ↔
      item.Reads [c] (part ++ rest) ∧ item.many.Reads part rest := by
  constructor
  · intro reads
    rw [reads_many_iff] at reads
    generalize whole : c :: part = read at reads
    cases reads with
    | done stopped =>
        cases whole
    | more itemReads something later =>
        obtain ⟨d, rfl⟩ := single _ _ itemReads
        cases whole
        exact ⟨itemReads, reads_many_iff.2 later⟩
  · rintro ⟨itemReads, laterRead⟩
    exact itemReads.many (List.cons_ne_nil c []) laterRead

theorem TakesOne.reads_many_nil_iff (single : item.TakesOne) :
    item.many.Reads [] rest ↔ item.Refuses rest := by
  refine ⟨fun reads => ?_, Refuses.many⟩
  rw [reads_many_iff] at reads
  generalize whole : [] = read at reads
  cases reads with
  | done stopped =>
      by_contra accepted
      rw [Refuses, ← ne_eq, Option.ne_none_iff_exists'] at accepted
      obtain ⟨portion, found⟩ := accepted
      obtain ⟨c, taken⟩ := single _ _ (reads_of_accepted found)
      rw [stopped portion found] at taken
      cases taken
  | more itemReads something later =>
      exact absurd (List.append_eq_nil_iff.1 whole.symm).1 something

theorem reads_many_one_iff :
    (many (one accepts)).Reads part rest ↔
      (∀ c ∈ part, accepts c = true) ∧
        ∀ c ∈ rest.head?, accepts c = false := by
  have single := takesOne_one accepts
  induction part with
  | nil =>
      rw [single.reads_many_nil_iff, refuses_one_iff]
      simp
  | cons c part inductionHypothesis =>
      rw [single.reads_many_cons_iff, reads_one_iff]
      simp [inductionHypothesis, and_assoc]

/-- Up to a word, a repetition reads all characters at which the word does
not begin. -/
theorem reads_many_oneBefore_iff :
    (many (oneBefore letters)).Reads part rest ↔
      (∀ after, after <:+ part → after ≠ [] →
        ¬ letters <+: after ++ rest) ∧
          (rest = [] ∨ letters <+: rest) := by
  have run_eq : ∀ text, (oneBefore letters).run text =
      if letters.isPrefixOf text then ⟨none, 0⟩
      else runOne (fun _ => true) text := fun _ => rfl
  have single : (oneBefore letters).TakesOne := by
    intro part rest reads
    rw [Reads, run_eq] at reads
    split at reads
    · cases reads
    · obtain ⟨c, taken, _⟩ :=
        reads_one_iff.1 (show (one fun _ => true).Reads part rest from reads)
      exact ⟨c, taken⟩
  induction part with
  | nil =>
      rw [single.reads_many_nil_iff, Refuses, run_eq]
      by_cases begun : letters <+: rest
      · simp [begun]
      · rcases rest with - | ⟨c, others⟩
        · simp [begun, runOne]
        · simp [begun, runOne]
  | cons c part inductionHypothesis =>
      rw [single.reads_many_cons_iff, Reads, run_eq]
      by_cases begun : letters <+: c :: (part ++ rest)
      · simp [inductionHypothesis, begun, List.suffix_cons_iff]
      · simp [inductionHypothesis, begun, runOne, List.suffix_cons_iff]

end ClassDiagram.Source.Scanner
