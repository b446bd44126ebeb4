import ClassDiagram.Json
import Mathlib.Tactic.IntervalCases

/-!
# Grammar of JSON texts

What a value may be written as: every character of a text plain or escaped,
items and fields between commas, and blanks between any two parts.  The
grammar allows more than one text for a value, with other escapes and other
blanks.  Both texts that a value is given are among them.
-/

namespace ClassDiagram.Json

/-! ## Characters -/

def digitValue? (c : Char) : Option Nat :=
  if '0' ≤ c ∧ c ≤ '9' then some (c.toNat - '0'.toNat)
  else if 'a' ≤ c ∧ c ≤ 'f' then some (c.toNat - 'a'.toNat + 10)
  else if 'A' ≤ c ∧ c ≤ 'F' then some (c.toNat - 'A'.toNat + 10)
  else none

/-- The number that four hexadecimal digits write. -/
def unit? (first second third fourth : Char) : Option Nat := do
  let thousands ← digitValue? first
  let hundreds ← digitValue? second
  let tens ← digitValue? third
  let ones ← digitValue? fourth
  pure (((thousands * 16 + hundreds) * 16 + tens) * 16 + ones)

/-- The first half of a character that needs two numbers. -/
def isLeading (unit : Nat) : Bool :=
  0xD800 ≤ unit && unit < 0xDC00

/-- The second half of a character that needs two numbers. -/
def isTrailing (unit : Nat) : Bool :=
  0xDC00 ≤ unit && unit < 0xE000

/-- The character that two halves make. -/
def joinHalves (leading trailing : Nat) : Char :=
  Char.ofNat (0x10000 + (leading - 0xD800) * 0x400 + (trailing - 0xDC00))

/-- The character that a letter behind a backslash stands for. -/
def shortEscape? : Char → Option Char
  | '"' => some '"'
  | '\\' => some '\\'
  | '/' => some '/'
  | 'b' => some '\x08'
  | 'f' => some '\x0c'
  | 'n' => some '\n'
  | 'r' => some '\r'
  | 't' => some '\t'
  | _ => none

def isPlain (c : Char) : Bool :=
  32 ≤ c.toNat && c != '"' && c != '\\'

/-- A form of a character inside quotes. -/
inductive WrittenChar : Char → List Char → Prop
  | plain {c : Char} (self : isPlain c = true) : WrittenChar c [c]
  | short {letter c : Char} (escape : shortEscape? letter = some c) :
      WrittenChar c ['\\', letter]
  | unit {first second third fourth : Char} {number : Nat}
      (digits : unit? first second third fourth = some number)
      (whole : isLeading number = false ∧ isTrailing number = false) :
      WrittenChar (Char.ofNat number)
        ['\\', 'u', first, second, third, fourth]
  | halves {first second third fourth fifth sixth seventh eighth : Char}
      {leading trailing : Nat}
      (leadingDigits : unit? first second third fourth = some leading)
      (trailingDigits : unit? fifth sixth seventh eighth = some trailing)
      (areHalves : isLeading leading = true ∧ isTrailing trailing = true) :
      WrittenChar (joinHalves leading trailing)
        ['\\', 'u', first, second, third, fourth,
          '\\', 'u', fifth, sixth, seventh, eighth]

/-- The forms of characters one behind the other. -/
inductive WrittenChars : List Char → List Char → Prop
  | nil : WrittenChars [] []
  | cons {c : Char} {chars form forms : List Char}
      (first : WrittenChar c form) (others : WrittenChars chars forms) :
      WrittenChars (c :: chars) (form ++ forms)

def IsQuoted (content : String) (form : List Char) : Prop :=
  ∃ inner, WrittenChars content.toList inner ∧ form = '"' :: (inner ++ ['"'])

/-! ## Values -/

def isSpace (c : Char) : Bool :=
  c == ' ' || c == '\t' || c == '\n' || c == '\r'

def AreSpaces (chars : List Char) : Prop :=
  ∀ c ∈ chars, isSpace c = true

/-- Parts with commas between them and blanks around them. -/
inductive Separated : List (List Char) → List Char → Prop
  | none {spaces : List Char} (blank : AreSpaces spaces) :
      Separated [] spaces
  | last {front part back : List Char} (blankFront : AreSpaces front)
      (blankBack : AreSpaces back) :
      Separated [part] (front ++ part ++ back)
  | more {front part back inner : List Char} {parts : List (List Char)}
      (blankFront : AreSpaces front) (blankBack : AreSpaces back)
      (further : parts ≠ []) (others : Separated parts inner) :
      Separated (part :: parts) (front ++ part ++ back ++ ',' :: inner)

mutual

/-- A form of a value, without blanks around it. -/
def Written : Json → List Char → Prop
  | .null, form => form = ['n', 'u', 'l', 'l']
  | .text content, form => IsQuoted content form
  | .array items, form => ∃ parts inner, WrittenItems items parts ∧
      Separated parts inner ∧ form = '[' :: (inner ++ [']'])
  | .object fields, form => ∃ parts inner, WrittenFields fields parts ∧
      Separated parts inner ∧ form = '\x7b' :: (inner ++ ['\x7d'])

def WrittenItems : List Json → List (List Char) → Prop
  | [], parts => parts = []
  | item :: items, parts => ∃ form forms, Written item form ∧
      WrittenItems items forms ∧ parts = form :: forms

def WrittenFields : List (String × Json) → List (List Char) → Prop
  | [], parts => parts = []
  | (name, value) :: fields, parts => ∃ label front back form forms,
      IsQuoted name label ∧ AreSpaces front ∧ AreSpaces back ∧
      Written value form ∧ WrittenFields fields forms ∧
      parts = (label ++ front ++ ':' :: (back ++ form)) :: forms

end

/-- A text of a value, which may have blanks at both ends. -/
def IsTextOf (text : String) (value : Json) : Prop :=
  ∃ front form back, AreSpaces front ∧ Written value form ∧
    AreSpaces back ∧ text.toList = front ++ form ++ back

/-! ## Texts in quotes -/

/-- A control character is escaped. -/
theorem writtenChar_control {code : Nat} (control : code < 32) :
    WrittenChar (Char.ofNat code) (escapeChar (Char.ofNat code)) := by
  interval_cases code <;>
    first
    | exact .short rfl
    | exact .unit rfl (by decide)

/-- Every character is written as one of its forms. -/
theorem writtenChar_escapeChar (c : Char) : WrittenChar c (escapeChar c) := by
  by_cases control : c.toNat < 32
  · have written := writtenChar_control control
    rwa [Char.ofNat_toNat] at written
  by_cases quote : c = '"'
  · subst quote
    exact .short rfl
  by_cases backslash : c = '\\'
  · subst backslash
    exact .short rfl
  have self : isPlain c = true := by
    simp [isPlain, quote, backslash, Nat.not_lt.1 control]
  have unescaped : escapeChar c = [c] := by
    have above : ∀ other : Char, other.toNat < 32 → c ≠ other := by
      rintro other below rfl
      exact control below
    simp [escapeChar, quote, backslash, control, above]
  rw [unescaped]
  exact .plain self

theorem writtenChars_flatMap_escapeChar (chars : List Char) :
    WrittenChars chars (chars.flatMap escapeChar) := by
  induction chars with
  | nil => exact .nil
  | cons c others inductionHypothesis =>
      exact .cons (writtenChar_escapeChar c) inductionHypothesis

theorem isQuoted_quoted (content : String) :
    IsQuoted content (quoted content).toList := by
  refine ⟨_, writtenChars_flatMap_escapeChar content.toList, ?_⟩
  simp [quoted]

/-! ## Items between commas -/

theorem areSpaces_nil : AreSpaces [] :=
  nofun

theorem AreSpaces.append {front back : List Char} (blankFront : AreSpaces front)
    (blankBack : AreSpaces back) : AreSpaces (front ++ back) := by
  intro c member
  rcases List.mem_append.1 member with inFront | inBack
  · exact blankFront c inFront
  · exact blankBack c inBack

theorem areSpaces_indentation (depth : Nat) :
    AreSpaces (indentation depth).toList := by
  intro c member
  rw [indentation, String.toList_ofList] at member
  rw [List.eq_of_mem_replicate member]
  rfl

/-- Texts that share the blanks in front of them and the separator, which is
a comma with blanks behind it. -/
theorem separated_intercalate {lead behind close : List Char}
    (blankLead : AreSpaces lead) (blankClose : AreSpaces close)
    (blankBehind : AreSpaces behind) :
    ∀ {texts : List String}, texts ≠ [] →
      ∀ {front : List Char}, AreSpaces front →
        Separated (texts.map String.toList)
          (front ++ (String.intercalate (String.ofList (',' :: behind))
            (texts.map fun text => String.ofList lead ++ text)).toList ++
            close)
  | [], nonempty, _, _ => absurd rfl nonempty
  | [only], _, front, blankFront => by
      have separated : Separated [only.toList] _ :=
        .last (blankFront.append blankLead) blankClose
      simpa [List.append_assoc] using separated
  | first :: next :: others, _, front, blankFront => by
      have rest := separated_intercalate blankLead blankClose blankBehind
        (List.cons_ne_nil next others) blankBehind
      have separated : Separated (first.toList :: _) _ :=
        .more (blankFront.append blankLead) areSpaces_nil (by simp) rest
      simpa [List.append_assoc, String.intercalate_cons_cons] using separated

/-! ## The two texts of a value -/

theorem separated_comma (texts : List String) :
    Separated (texts.map String.toList)
      (String.intercalate "," texts).toList := by
  by_cases empty : texts = []
  · subst empty
    exact .none areSpaces_nil
  · have separated := separated_intercalate areSpaces_nil areSpaces_nil
      areSpaces_nil empty areSpaces_nil
    simpa using separated

/-- What stands between the brackets of items on lines of their own. -/
theorem exists_separated_bracketed (opening closing : Char) (depth : Nat)
    (texts : List String) :
    ∃ inner, Separated (texts.map String.toList) inner ∧
      (bracketed opening.toString closing.toString depth texts).toList =
        opening :: (inner ++ [closing]) := by
  by_cases empty : texts = []
  · subst empty
    refine ⟨[], .none areSpaces_nil, ?_⟩
    simp [bracketed]
  · have blankLine : AreSpaces ['\n'] := by
      simp [AreSpaces, isSpace]
    refine ⟨_, separated_intercalate (areSpaces_indentation (depth + 1))
      (blankLine.append (areSpaces_indentation depth)) blankLine empty
      blankLine, ?_⟩
    simp [bracketed, empty, List.append_assoc]

mutual

/-- The text on one line is one of the forms of a value. -/
theorem written_compact :
    ∀ value : Json, Written value (compact value).toList
  | .null => by
      rw [Written, compact]
      rfl
  | .text content => by
      rw [Written, compact]
      exact isQuoted_quoted content
  | .array items => by
      rw [Written, compact]
      exact ⟨_, _, writtenItems_compact items, separated_comma _, by simp⟩
  | .object fields => by
      rw [Written, compact]
      exact ⟨_, _, writtenFields_compact fields, separated_comma _, by simp⟩

theorem writtenItems_compact :
    ∀ items : List Json,
      WrittenItems items ((compactItems items).map String.toList)
  | [] => by
      rw [WrittenItems, compactItems]
      rfl
  | item :: others => by
      rw [WrittenItems, compactItems]
      exact ⟨_, _, written_compact item, writtenItems_compact others, rfl⟩

theorem writtenFields_compact :
    ∀ fields : List (String × Json),
      WrittenFields fields ((compactFields fields).map String.toList)
  | [] => by
      rw [WrittenFields, compactFields]
      rfl
  | (name, value) :: others => by
      rw [WrittenFields, compactFields]
      refine ⟨_, [], [], _, _, isQuoted_quoted name, areSpaces_nil,
        areSpaces_nil, written_compact value, writtenFields_compact others,
        ?_⟩
      simp

end

mutual

/-- The text with an item to a line is one of the forms of a value. -/
theorem written_prettyAt :
    ∀ (depth : Nat) (value : Json), Written value (prettyAt depth value).toList
  | depth, .null => by
      rw [Written, prettyAt]
      rfl
  | depth, .text content => by
      rw [Written, prettyAt]
      exact isQuoted_quoted content
  | depth, .array items => by
      rw [Written, prettyAt]
      obtain ⟨inner, separated, form⟩ := exists_separated_bracketed '[' ']'
        depth (prettyItems (depth + 1) items)
      exact ⟨_, inner, writtenItems_prettyItems (depth + 1) items, separated,
        form⟩
  | depth, .object fields => by
      rw [Written, prettyAt]
      obtain ⟨inner, separated, form⟩ := exists_separated_bracketed
        '\x7b' '\x7d' depth (prettyFields (depth + 1) fields)
      exact ⟨_, inner, writtenFields_prettyFields (depth + 1) fields,
        separated, form⟩

theorem writtenItems_prettyItems :
    ∀ (depth : Nat) (items : List Json),
      WrittenItems items ((prettyItems depth items).map String.toList)
  | depth, [] => by
      rw [WrittenItems, prettyItems]
      rfl
  | depth, item :: others => by
      rw [WrittenItems, prettyItems]
      exact ⟨_, _, written_prettyAt depth item,
        writtenItems_prettyItems depth others, rfl⟩

theorem writtenFields_prettyFields :
    ∀ (depth : Nat) (fields : List (String × Json)),
      WrittenFields fields ((prettyFields depth fields).map String.toList)
  | depth, [] => by
      rw [WrittenFields, prettyFields]
      rfl
  | depth, (name, value) :: others => by
      rw [WrittenFields, prettyFields]
      refine ⟨_, [], [' '], _, _, isQuoted_quoted name, areSpaces_nil,
        ?_, written_prettyAt depth value,
        writtenFields_prettyFields depth others, ?_⟩
      · simp [AreSpaces, isSpace]
      · simp

end

/-- A form of a value is a text of it. -/
theorem isTextOf_of_written {written : String} {value : Json}
    (form : Written value written.toList) : IsTextOf written value :=
  ⟨[], _, [], areSpaces_nil, form, areSpaces_nil, by simp⟩

theorem isTextOf_compact (value : Json) : IsTextOf (compact value) value :=
  isTextOf_of_written (written_compact value)

theorem isTextOf_pretty (value : Json) : IsTextOf (pretty value) value :=
  isTextOf_of_written (written_prettyAt 0 value)

end ClassDiagram.Json
