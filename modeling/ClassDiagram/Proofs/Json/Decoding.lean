import ClassDiagram.Proofs.Json.Grammar

/-!
# Decoding JSON texts

A decoder for the values that outlines are written in.  It reads every text
that the grammar gives a value, with any escapes and any blanks, back to that
value.  So a text is a text of at most one value.
-/

namespace ClassDiagram.Json

/-! ## The decoder -/

/-- Read the number behind a backslash and `u`, and the second half of the
character if it needs one. -/
def readUnit? : List Char → Option (Char × List Char)
  | first :: second :: third :: fourth :: behind => do
      let number ← unit? first second third fourth
      if isLeading number then
        match behind with
        | '\\' :: 'u' :: fifth :: sixth :: seventh :: eighth :: rest => do
            let trailing ← unit? fifth sixth seventh eighth
            if isTrailing trailing then
              some (joinHalves number trailing, rest)
            else
              none
        | _ => none
      else if isTrailing number then
        none
      else
        some (Char.ofNat number, behind)
  | _ => none

def readChar? : List Char → Option (Char × List Char)
  | '\\' :: 'u' :: behind => readUnit? behind
  | '\\' :: letter :: rest => (shortEscape? letter).map (·, rest)
  | c :: rest => if isPlain c then some (c, rest) else none
  | [] => none

def readChars? : Nat → List Char → Option (List Char × List Char)
  | 0, _ => none
  | _ + 1, '"' :: rest => some ([], rest)
  | fuel + 1, chars => do
      let (c, behind) ← readChar? chars
      let (others, rest) ← readChars? fuel behind
      some (c :: others, rest)

def dropSpaces (chars : List Char) : List Char :=
  chars.dropWhile isSpace

/-- Read the name of a field with the colon behind it. -/
def readLabel? (fuel : Nat) (chars : List Char) :
    Option (String × List Char) :=
  match dropSpaces chars with
  | '"' :: label => do
      let (name, behind) ← readChars? fuel label
      match dropSpaces behind with
      | ':' :: rest => some (String.ofList name, rest)
      | _ => none
  | _ => none

mutual

def readValue? : Nat → List Char → Option (Json × List Char)
  | 0, _ => none
  | fuel + 1, chars =>
      match dropSpaces chars with
      | 'n' :: 'u' :: 'l' :: 'l' :: rest => some (.null, dropSpaces rest)
      | '"' :: behind => do
          let (content, rest) ← readChars? fuel behind
          some (.text (String.ofList content), dropSpaces rest)
      | '[' :: behind =>
          match dropSpaces behind with
          | ']' :: rest => some (.array [], dropSpaces rest)
          | _ => do
              let (items, rest) ← readItems? fuel behind
              some (.array items, dropSpaces rest)
      | '\x7b' :: behind =>
          match dropSpaces behind with
          | '\x7d' :: rest => some (.object [], dropSpaces rest)
          | _ => do
              let (fields, rest) ← readFields? fuel behind
              some (.object fields, dropSpaces rest)
      | _ => none

def readItems? : Nat → List Char → Option (List Json × List Char)
  | 0, _ => none
  | fuel + 1, chars => do
      let (item, behind) ← readValue? fuel chars
      match behind with
      | ',' :: further => do
          let (others, rest) ← readItems? fuel further
          some (item :: others, rest)
      | ']' :: rest => some ([item], rest)
      | _ => none

def readFields? : Nat → List Char → Option (List (String × Json) × List Char)
  | 0, _ => none
  | fuel + 1, chars => do
      let (name, behindLabel) ← readLabel? fuel chars
      let (value, behind) ← readValue? fuel behindLabel
      match behind with
      | ',' :: further => do
          let (others, rest) ← readFields? fuel further
          some ((name, value) :: others, rest)
      | '\x7d' :: rest => some ([(name, value)], rest)
      | _ => none

end

/-- The value that a text is a text of. -/
def decode? (written : String) : Option Json :=
  match readValue? written.toList.length written.toList with
  | some (value, []) => some value
  | _ => none

/-! ## Characters -/

/-- A form of a character is read back, whatever follows. -/
theorem readChar?_of_written {c : Char} {form : List Char}
    (written : WrittenChar c form) (rest : List Char) :
    readChar? (form ++ rest) = some (c, rest) := by
  cases written with
  | plain self =>
      have unescaped : c ≠ '\\' := by
        rintro rfl
        cases self
      simp [readChar?, unescaped, self]
  | @short letter _ escape =>
      rw [List.cons_append, List.cons_append, List.nil_append, readChar?,
        escape]
      · rfl
      · rintro rfl
        cases escape
  | unit digits whole =>
      simp [readChar?, readUnit?, digits, whole]
  | halves leadingDigits trailingDigits areHalves =>
      simp [readChar?, readUnit?, leadingDigits, trailingDigits, areHalves]

/-- A form of a character neither is empty nor begins with quotes. -/
theorem WrittenChar.exists_first {c : Char} {form : List Char}
    (written : WrittenChar c form) :
    ∃ first others, form = first :: others ∧ first ≠ '"' := by
  cases written with
  | plain self =>
      refine ⟨c, [], rfl, ?_⟩
      rintro rfl
      cases self
  | short escape => exact ⟨_, _, rfl, by decide⟩
  | unit digits whole => exact ⟨_, _, rfl, by decide⟩
  | halves leadingDigits trailingDigits areHalves =>
      exact ⟨_, _, rfl, by decide⟩

theorem WrittenChars.length_le {chars form : List Char}
    (written : WrittenChars chars form) : chars.length ≤ form.length := by
  induction written with
  | nil => exact Nat.le_refl 0
  | cons first others inductionHypothesis =>
      obtain ⟨start, behind, rfl, _⟩ := first.exists_first
      rw [List.length_cons, List.cons_append, List.length_cons,
        List.length_append]
      omega

/-- Characters are read back up to the quotes behind them. -/
theorem readChars?_of_written {chars form : List Char}
    (written : WrittenChars chars form) (rest : List Char) :
    ∀ {fuel : Nat}, chars.length < fuel →
      readChars? fuel (form ++ '"' :: rest) = some (chars, rest) := by
  induction written with
  | nil =>
      intro fuel enough
      obtain ⟨fuel, rfl⟩ := Nat.exists_eq_add_one_of_ne_zero
        (Nat.ne_zero_of_lt enough)
      rfl
  | @cons c chars form forms first others inductionHypothesis =>
      intro fuel enough
      obtain ⟨fuel, rfl⟩ := Nat.exists_eq_add_one_of_ne_zero
        (Nat.ne_zero_of_lt enough)
      have firstRead := readChar?_of_written first (forms ++ '"' :: rest)
      have othersRead := inductionHypothesis (Nat.lt_of_succ_lt_succ enough)
      obtain ⟨start, behind, rfl, notQuotes⟩ := first.exists_first
      rw [List.append_assoc]
      rw [List.cons_append] at firstRead ⊢
      simp [readChars?, notQuotes, firstRead, othersRead]

/-- A text in quotes is read back behind the quotes that open it. -/
theorem exists_readChars?_of_isQuoted {content : String} {form : List Char}
    (isQuoted : IsQuoted content form) :
    ∃ inner, form = '"' :: inner ∧ ∀ {fuel : Nat}, inner.length ≤ fuel →
      ∀ rest,
        readChars? fuel (inner ++ rest) = some (content.toList, rest) := by
  obtain ⟨inner, written, rfl⟩ := isQuoted
  refine ⟨inner ++ ['"'], rfl, fun {fuel} enough rest => ?_⟩
  rw [List.append_assoc]
  apply readChars?_of_written written rest
  have shorter := written.length_le
  rw [List.length_append, List.length_singleton] at enough
  omega

/-! ## Blanks -/

theorem dropSpaces_append {spaces : List Char} (blank : AreSpaces spaces)
    (rest : List Char) : dropSpaces (spaces ++ rest) = dropSpaces rest :=
  List.dropWhile_append_of_pos blank

theorem dropSpaces_cons {c : Char} (notSpace : isSpace c = false)
    (rest : List Char) : dropSpaces (c :: rest) = c :: rest :=
  List.dropWhile_cons_of_neg (by simp [notSpace])

/-- A name with a colon behind it is read back. -/
theorem readLabel?_of_isQuoted {name : String} {label : List Char}
    (isQuoted : IsQuoted name label) {fuel : Nat} (enough : label.length ≤ fuel)
    {lead front : List Char} (blankLead : AreSpaces lead)
    (blankFront : AreSpaces front) (rest : List Char) :
    readLabel? fuel (lead ++ (label ++ (front ++ ':' :: rest))) =
      some (name, rest) := by
  obtain ⟨inner, rfl, read⟩ := exists_readChars?_of_isQuoted isQuoted
  have nameRead := read (Nat.le_of_succ_le enough) (front ++ ':' :: rest)
  rw [List.cons_append, readLabel?, dropSpaces_append blankLead,
    dropSpaces_cons rfl]
  simp [nameRead, dropSpaces_append blankFront, dropSpaces_cons, isSpace]

/-- Of parts between commas, the first begins behind the blanks. -/
theorem exists_dropSpaces_of_separated {first : Char} {others : List Char}
    {parts : List (List Char)} {inner : List Char}
    (separated : Separated ((first :: others) :: parts) inner)
    (notSpace : isSpace first = false) :
    ∃ behind, ∀ rest,
      dropSpaces (inner ++ rest) = first :: (behind ++ rest) := by
  cases separated with
  | @last front _ back blankFront blankBack =>
      refine ⟨others ++ back, fun rest => ?_⟩
      rw [List.append_assoc, List.append_assoc, dropSpaces_append blankFront,
        List.cons_append, dropSpaces_cons notSpace, List.append_assoc]
  | @more front _ back inner _ blankFront blankBack further separated =>
      refine ⟨others ++ (back ++ ',' :: inner), fun rest => ?_⟩
      simp only [List.append_assoc]
      rw [dropSpaces_append blankFront, List.cons_append,
        dropSpaces_cons notSpace]

/-! ## Values -/

/-- The first character of a form is no blank and closes no array. -/
theorem exists_first_of_written {value : Json} {form : List Char}
    (written : Written value form) :
    ∃ first others, form = first :: others ∧ isSpace first = false ∧
      first ≠ ']' := by
  cases value with
  | null =>
      rw [Written] at written
      exact ⟨_, _, written, rfl, by decide⟩
  | text content =>
      rw [Written] at written
      obtain ⟨inner, _, rfl⟩ := written
      exact ⟨_, _, rfl, rfl, by decide⟩
  | array items =>
      rw [Written] at written
      obtain ⟨parts, inner, _, _, rfl⟩ := written
      exact ⟨_, _, rfl, rfl, by decide⟩
  | object fields =>
      rw [Written] at written
      obtain ⟨parts, inner, _, _, rfl⟩ := written
      exact ⟨_, _, rfl, rfl, by decide⟩

section

variable {fuel : Nat} {front back rest : List Char}

theorem readValue?_emptyArray (blankFront : AreSpaces front)
    {inner : List Char} (blankInner : AreSpaces inner)
    (blankBack : AreSpaces back) (stop : dropSpaces rest = rest) :
    readValue? (fuel + 1) (front ++ '[' :: (inner ++ ']' :: (back ++ rest))) =
      some (.array [], rest) := by
  simp [readValue?, dropSpaces_append blankFront, dropSpaces_cons,
    dropSpaces_append blankInner, dropSpaces_append blankBack, stop, isSpace]

/-- An array is read if its items are. -/
theorem readValue?_array (blankFront : AreSpaces front)
    (blankBack : AreSpaces back) (stop : dropSpaces rest = rest)
    {behind further : List Char} {first : Char} {items : List Json}
    (begins : dropSpaces behind = first :: further) (notEnd : first ≠ ']')
    (itemsRead : readItems? fuel behind = some (items, back ++ rest)) :
    readValue? (fuel + 1) (front ++ '[' :: behind) =
      some (.array items, rest) := by
  simp [readValue?, dropSpaces_append blankFront, dropSpaces_cons, begins,
    notEnd, itemsRead, dropSpaces_append blankBack, stop, isSpace]

theorem readValue?_emptyObject (blankFront : AreSpaces front)
    {inner : List Char} (blankInner : AreSpaces inner)
    (blankBack : AreSpaces back) (stop : dropSpaces rest = rest) :
    readValue? (fuel + 1)
        (front ++ '\x7b' :: (inner ++ '\x7d' :: (back ++ rest))) =
      some (.object [], rest) := by
  simp [readValue?, dropSpaces_append blankFront, dropSpaces_cons,
    dropSpaces_append blankInner, dropSpaces_append blankBack, stop, isSpace]

/-- An object is read if its fields are. -/
theorem readValue?_object (blankFront : AreSpaces front)
    (blankBack : AreSpaces back) (stop : dropSpaces rest = rest)
    {behind further : List Char} {first : Char}
    {fields : List (String × Json)}
    (begins : dropSpaces behind = first :: further) (notEnd : first ≠ '\x7d')
    (fieldsRead : readFields? fuel behind = some (fields, back ++ rest)) :
    readValue? (fuel + 1) (front ++ '\x7b' :: behind) =
      some (.object fields, rest) := by
  simp [readValue?, dropSpaces_append blankFront, dropSpaces_cons, begins,
    notEnd, fieldsRead, dropSpaces_append blankBack, stop, isSpace]

end

section

variable {fuel : Nat} {chars further rest : List Char}

theorem readItems?_last {item : Json}
    (itemRead : readValue? fuel chars = some (item, ']' :: rest)) :
    readItems? (fuel + 1) chars = some ([item], rest) := by
  rw [readItems?, itemRead]
  rfl

theorem readItems?_more {item : Json} {others : List Json}
    (itemRead : readValue? fuel chars = some (item, ',' :: further))
    (othersRead : readItems? fuel further = some (others, rest)) :
    readItems? (fuel + 1) chars = some (item :: others, rest) := by
  rw [readItems?, itemRead]
  simp [othersRead]

theorem readFields?_last {name : String} {value : Json}
    (labelRead : readLabel? fuel chars = some (name, further))
    (valueRead : readValue? fuel further = some (value, '\x7d' :: rest)) :
    readFields? (fuel + 1) chars = some ([(name, value)], rest) := by
  simp [readFields?, labelRead, valueRead]

theorem readFields?_more {name : String} {value : Json}
    {others : List (String × Json)} {behind : List Char}
    (labelRead : readLabel? fuel chars = some (name, behind))
    (valueRead : readValue? fuel behind = some (value, ',' :: further))
    (othersRead : readFields? fuel further = some (others, rest)) :
    readFields? (fuel + 1) chars = some ((name, value) :: others, rest) := by
  simp [readFields?, labelRead, valueRead, othersRead]

end

/-- No parts have blanks between their brackets. -/
theorem areSpaces_of_separated {inner : List Char}
    (separated : Separated [] inner) : AreSpaces inner := by
  cases separated with
  | none blank => exact blank

theorem writtenItems_eq_nil_iff {items : List Json} {parts : List (List Char)}
    (written : WrittenItems items parts) : items = [] ↔ parts = [] := by
  cases items with
  | nil =>
      rw [WrittenItems] at written
      exact iff_of_true rfl written
  | cons item others =>
      rw [WrittenItems] at written
      obtain ⟨form, forms, _, _, rfl⟩ := written
      exact iff_of_false (List.cons_ne_nil _ _) (List.cons_ne_nil _ _)

theorem writtenFields_eq_nil_iff {fields : List (String × Json)}
    {parts : List (List Char)} (written : WrittenFields fields parts) :
    fields = [] ↔ parts = [] := by
  cases fields with
  | nil =>
      rw [WrittenFields] at written
      exact iff_of_true rfl written
  | cons field others =>
      rw [WrittenFields] at written
      obtain ⟨_, _, _, _, _, _, _, _, _, _, rfl⟩ := written
      exact iff_of_false (List.cons_ne_nil _ _) (List.cons_ne_nil _ _)

/-- Nonempty items begin with no bracket that closes them. -/
theorem exists_begins_of_writtenItems {items : List Json}
    {parts : List (List Char)} {inner : List Char}
    (written : WrittenItems items parts) (nonempty : items ≠ [])
    (separated : Separated parts inner) (rest : List Char) :
    ∃ first further, dropSpaces (inner ++ rest) = first :: further ∧
      first ≠ ']' := by
  cases items with
  | nil => exact absurd rfl nonempty
  | cons item others =>
      rw [WrittenItems] at written
      obtain ⟨form, forms, writtenItem, _, rfl⟩ := written
      obtain ⟨first, tail, rfl, notSpace, notEnd⟩ :=
        exists_first_of_written writtenItem
      obtain ⟨behind, begins⟩ :=
        exists_dropSpaces_of_separated separated notSpace
      exact ⟨first, behind ++ rest, begins rest, notEnd⟩

/-- Nonempty fields begin with quotes. -/
theorem exists_begins_of_writtenFields {fields : List (String × Json)}
    {parts : List (List Char)} {inner : List Char}
    (written : WrittenFields fields parts) (nonempty : fields ≠ [])
    (separated : Separated parts inner) (rest : List Char) :
    ∃ further, dropSpaces (inner ++ rest) = '"' :: further := by
  cases fields with
  | nil => exact absurd rfl nonempty
  | cons field others =>
      rw [WrittenFields] at written
      obtain ⟨label, before, after, form, forms, labelled, _, _, _, _, rfl⟩ :=
        written
      obtain ⟨quoted, _, rfl⟩ := labelled
      obtain ⟨behind, begins⟩ := exists_dropSpaces_of_separated separated rfl
      exact ⟨behind ++ rest, begins rest⟩

mutual

/-- A form of a value between blanks is read back, up to what follows. -/
theorem readValue?_of_written :
    ∀ (value : Json) {form : List Char}, Written value form →
      ∀ {fuel : Nat}, form.length ≤ fuel →
      ∀ {front back : List Char}, AreSpaces front → AreSpaces back →
      ∀ {rest : List Char}, dropSpaces rest = rest →
        readValue? fuel (front ++ form ++ back ++ rest) = some (value, rest)
  | .null, form, written, fuel, enough, front, back, blankFront, blankBack,
      rest, stop => by
      rw [Written] at written
      subst written
      obtain ⟨fuel, rfl⟩ := Nat.exists_eq_add_of_le' enough
      simp only [List.append_assoc]
      simp [readValue?, dropSpaces_append blankFront, dropSpaces_cons,
        dropSpaces_append blankBack, stop, isSpace]
  | .text content, form, written, fuel, enough, front, back, blankFront,
      blankBack, rest, stop => by
      rw [Written] at written
      obtain ⟨inner, rfl, read⟩ := exists_readChars?_of_isQuoted written
      obtain ⟨fuel, rfl⟩ := Nat.exists_eq_add_one_of_ne_zero
        (Nat.ne_zero_of_lt enough)
      have contentRead := read (Nat.le_of_succ_le_succ enough) (back ++ rest)
      simp only [List.append_assoc]
      simp [readValue?, dropSpaces_append blankFront, dropSpaces_cons,
        dropSpaces_append blankBack, stop, isSpace, contentRead]
  | .array items, form, written, fuel, enough, front, back, blankFront,
      blankBack, rest, stop => by
      rw [Written] at written
      obtain ⟨parts, inner, writtenItems, separated, rfl⟩ := written
      obtain ⟨fuel, rfl⟩ := Nat.exists_eq_add_one_of_ne_zero
        (Nat.ne_zero_of_lt enough)
      rw [List.length_cons, List.length_append, List.length_singleton]
        at enough
      simp only [List.append_assoc, List.cons_append, List.nil_append]
      by_cases empty : items = []
      · have noParts := (writtenItems_eq_nil_iff writtenItems).1 empty
        subst empty noParts
        exact readValue?_emptyArray blankFront
          (areSpaces_of_separated separated) blankBack stop
      · have innerFits : inner.length < fuel := by omega
        obtain ⟨first, further, begins, notEnd⟩ :=
          exists_begins_of_writtenItems writtenItems empty separated
            (']' :: (back ++ rest))
        exact readValue?_array blankFront blankBack stop begins notEnd
          (readItems?_of_written items writtenItems empty separated innerFits
            (back ++ rest))
  | .object fields, form, written, fuel, enough, front, back, blankFront,
      blankBack, rest, stop => by
      rw [Written] at written
      obtain ⟨parts, inner, writtenFields, separated, rfl⟩ := written
      obtain ⟨fuel, rfl⟩ := Nat.exists_eq_add_one_of_ne_zero
        (Nat.ne_zero_of_lt enough)
      rw [List.length_cons, List.length_append, List.length_singleton]
        at enough
      simp only [List.append_assoc, List.cons_append, List.nil_append]
      by_cases empty : fields = []
      · have noParts := (writtenFields_eq_nil_iff writtenFields).1 empty
        subst empty noParts
        exact readValue?_emptyObject blankFront
          (areSpaces_of_separated separated) blankBack stop
      · have innerFits : inner.length < fuel := by omega
        obtain ⟨further, begins⟩ :=
          exists_begins_of_writtenFields writtenFields empty separated
            ('\x7d' :: (back ++ rest))
        exact readValue?_object blankFront blankBack stop begins (by decide)
          (readFields?_of_written fields writtenFields empty separated
            innerFits (back ++ rest))

theorem readItems?_of_written :
    ∀ (items : List Json) {parts : List (List Char)},
      WrittenItems items parts → items ≠ [] →
      ∀ {inner : List Char}, Separated parts inner →
      ∀ {fuel : Nat}, inner.length < fuel →
      ∀ rest, readItems? fuel (inner ++ ']' :: rest) = some (items, rest)
  | [], parts, written, nonempty, inner, separated, fuel, enough, rest =>
      absurd rfl nonempty
  | item :: others, parts, written, nonempty, inner, separated, fuel, enough,
      rest => by
      rw [WrittenItems] at written
      obtain ⟨form, forms, writtenItem, writtenOthers, rfl⟩ := written
      obtain ⟨fuel, rfl⟩ := Nat.exists_eq_add_one_of_ne_zero
        (Nat.ne_zero_of_lt enough)
      cases separated with
      | last blankFront blankBack =>
          rw [List.length_append, List.length_append] at enough
          have itemFits : form.length ≤ fuel := by omega
          have noOthers := (writtenItems_eq_nil_iff writtenOthers).2 rfl
          subst noOthers
          exact readItems?_last (readValue?_of_written item writtenItem
            itemFits blankFront blankBack (dropSpaces_cons rfl rest))
      | @more _ _ _ inner _ blankFront blankBack further separatedOthers =>
          rw [List.length_append, List.length_append, List.length_append,
            List.length_cons] at enough
          have itemFits : form.length ≤ fuel := by omega
          have othersFit : inner.length < fuel := by omega
          have someOthers : others ≠ [] := fun none =>
            further ((writtenItems_eq_nil_iff writtenOthers).1 none)
          rw [List.append_assoc, List.cons_append]
          exact readItems?_more
            (readValue?_of_written item writtenItem itemFits blankFront
              blankBack (dropSpaces_cons rfl _))
            (readItems?_of_written others writtenOthers someOthers
              separatedOthers othersFit rest)

theorem readFields?_of_written :
    ∀ (fields : List (String × Json)) {parts : List (List Char)},
      WrittenFields fields parts → fields ≠ [] →
      ∀ {inner : List Char}, Separated parts inner →
      ∀ {fuel : Nat}, inner.length < fuel →
      ∀ rest, readFields? fuel (inner ++ '\x7d' :: rest) = some (fields, rest)
  | [], parts, written, nonempty, inner, separated, fuel, enough, rest =>
      absurd rfl nonempty
  | (name, value) :: others, parts, written, nonempty, inner, separated, fuel,
      enough, rest => by
      rw [WrittenFields] at written
      obtain ⟨label, front, back, form, forms, labelled, blankFront, blankBack,
        writtenValue, writtenOthers, rfl⟩ := written
      obtain ⟨fuel, rfl⟩ := Nat.exists_eq_add_one_of_ne_zero
        (Nat.ne_zero_of_lt enough)
      cases separated with
      | @last lead _ close blankLead blankClose =>
          simp only [List.length_append, List.length_cons] at enough
          have labelFits : label.length ≤ fuel := by omega
          have valueFits : form.length ≤ fuel := by omega
          have noOthers := (writtenFields_eq_nil_iff writtenOthers).2 rfl
          subst noOthers
          have labelRead := readLabel?_of_isQuoted labelled labelFits
            blankLead blankFront (back ++ form ++ close ++ '\x7d' :: rest)
          simp only [List.append_assoc, List.cons_append] at labelRead ⊢
          apply readFields?_last labelRead
          simpa only [List.append_assoc] using
            readValue?_of_written value writtenValue valueFits blankBack
              blankClose (dropSpaces_cons rfl rest)
      | @more lead _ close inner _ blankLead blankClose further
          separatedOthers =>
          simp only [List.length_append, List.length_cons] at enough
          have labelFits : label.length ≤ fuel := by omega
          have valueFits : form.length ≤ fuel := by omega
          have othersFit : inner.length < fuel := by omega
          have someOthers : others ≠ [] := fun none =>
            further ((writtenFields_eq_nil_iff writtenOthers).1 none)
          have labelRead := readLabel?_of_isQuoted labelled labelFits
            blankLead blankFront
            (back ++ form ++ close ++ ',' :: (inner ++ '\x7d' :: rest))
          have valueRead := readValue?_of_written value writtenValue valueFits
            blankBack blankClose
            (dropSpaces_cons (c := ',') rfl (inner ++ '\x7d' :: rest))
          simp only [List.append_assoc, List.cons_append]
            at labelRead valueRead ⊢
          exact readFields?_more labelRead valueRead
            (readFields?_of_written others writtenOthers someOthers
              separatedOthers othersFit rest)

end

/-- Every text of a value is decoded to it. -/
theorem decode?_of_isTextOf {written : String} {value : Json}
    (isText : IsTextOf written value) : decode? written = some value := by
  obtain ⟨front, form, back, blankFront, writtenValue, blankBack, spelled⟩ :=
    isText
  have enough : form.length ≤ written.toList.length := by
    simp only [spelled, List.length_append]
    omega
  have nothingBehind : dropSpaces [] = [] := rfl
  have read := readValue?_of_written value writtenValue enough blankFront
    blankBack nothingBehind
  rw [List.append_nil, ← spelled] at read
  rw [decode?, read]

/-- A text is a text of one value at most. -/
theorem IsTextOf.unique {written : String} {value other : Json}
    (isText : IsTextOf written value) (isOther : IsTextOf written other) :
    value = other := by
  have decoded := decode?_of_isTextOf isText
  rw [decode?_of_isTextOf isOther] at decoded
  exact (Option.some.inj decoded).symm

end ClassDiagram.Json
