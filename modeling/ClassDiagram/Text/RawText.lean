/-!
# Raw texts

The names and paths of files are bytes, which need not be the UTF-8 form of a
text.  A raw text is shown with a replacement character for every byte, and
every broken-off beginning of a character, that belongs to no character.  It
is a text if it is the form of what is shown.
-/

namespace ClassDiagram

@[ext]
structure RawText where
  bytes : List UInt8
  deriving DecidableEq, Repr

namespace RawText

def ofText (text : String) : RawText :=
  ⟨text.toList.flatMap String.utf8EncodeChar⟩

instance : Coe String RawText :=
  ⟨ofText⟩

def dot : UInt8 :=
  '.'.toUInt8

def slash : UInt8 :=
  '/'.toUInt8

/-! ## Showing -/

/-- What is known of a character behind some of its bytes: their bits, how
many bytes are still owed, and the bounds of the next one. -/
structure Pending where
  value : Nat
  owed : Nat
  low : Nat := 0x80
  high : Nat := 0xBF
  deriving DecidableEq, Repr

/-- The beginning of a character of several bytes.  The bounds of the second
byte leave out forms that are too long, halves of surrogate pairs and what
lies behind the last code point. -/
def pending? (first : Nat) : Option Pending :=
  if first < 0xC2 then none
  else if first < 0xE0 then some { value := first % 32, owed := 1 }
  else if first < 0xF0 then
    some
      { value := first % 16
        owed := 2
        low := if first = 0xE0 then 0xA0 else 0x80
        high := if first = 0xED then 0x9F else 0xBF }
  else if first < 0xF5 then
    some
      { value := first % 8
        owed := 3
        low := if first = 0xF0 then 0x90 else 0x80
        high := if first = 0xF4 then 0x8F else 0xBF }
  else none

def replacement : Char :=
  '\uFFFD'

/-- What a byte at the beginning of a character shows and what it begins. -/
def shownFirst (first : Nat) : List Char × Option Pending :=
  if first < 0x80 then
    ([Char.ofNat first], none)
  else
    match pending? first with
    | none => ([replacement], none)
    | some pending => ([], some pending)

/-- The characters that bytes show.  A byte that does not go on with the
pending character begins another one. -/
def shownFrom : Option Pending → List UInt8 → List Char
  | none, [] => []
  | some _, [] => [replacement]
  | none, byte :: rest =>
      let (shown, next) := shownFirst byte.toNat
      shown ++ shownFrom next rest
  | some pending, byte :: rest =>
      if pending.low ≤ byte.toNat ∧ byte.toNat ≤ pending.high then
        let value := pending.value * 64 + byte.toNat % 64
        if pending.owed = 1 then
          Char.ofNat value :: shownFrom none rest
        else
          shownFrom (some { value, owed := pending.owed - 1 }) rest
      else
        let (shown, next) := shownFirst byte.toNat
        replacement :: (shown ++ shownFrom next rest)

def shown (raw : RawText) : String :=
  String.ofList (shownFrom none raw.bytes)

/-- The text that a raw text is, if it is one. -/
def text? (raw : RawText) : Option String :=
  if ofText raw.shown = raw then some raw.shown else none

end RawText

end ClassDiagram
