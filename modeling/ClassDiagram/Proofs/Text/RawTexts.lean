import ClassDiagram.Text.RawText
import Mathlib.Algebra.Group.Nat.Defs
import Mathlib.Data.List.Basic

/-!
# Raw texts that are texts

The first byte of a character tells how many bytes it has and holds its
highest bits, and each byte behind it holds six more.  The bounds of the second
byte shut out no character, so a text in its UTF-8 form is shown as itself, and
a raw text is a text just if it is the form of one.
-/

namespace ClassDiagram.RawText

/-! ## The bytes of a character -/

/-- The last groups of six bits of a number, each in a byte of its own. -/
def sixBits : Nat → Nat → List UInt8
  | 0, _ => []
  | count + 1, n => UInt8.ofNat (n / 64 ^ count % 64 + 128) :: sixBits count n

def furtherBytes (n : Nat) : Nat :=
  if n ≤ 127 then 0 else if n ≤ 2047 then 1 else if n ≤ 65535 then 2 else 3

def firstByte (n : Nat) : Nat :=
  if n ≤ 127 then n
  else if n ≤ 2047 then n / 64 % 32 + 192
  else if n ≤ 65535 then n / 4096 % 16 + 224
  else n / 262144 % 8 + 240

theorem utf8EncodeChar_eq (c : Char) :
    String.utf8EncodeChar c = UInt8.ofNat (firstByte c.val.toNat) ::
      sixBits (furtherBytes c.val.toNat) c.val.toNat := by
  unfold String.utf8EncodeChar firstByte furtherBytes
  simp only
  generalize c.val.toNat = n
  split_ifs <;> simp [sixBits]

theorem toNat_ofNat_firstByte (n : Nat) :
    (UInt8.ofNat (firstByte n)).toNat = firstByte n := by
  have small : firstByte n < 256 := by
    unfold firstByte
    split_ifs <;> omega
  exact UInt8.toNat_ofNat_of_lt' small

theorem toNat_ofNat_sixBits (n : Nat) :
    (UInt8.ofNat (n % 64 + 128)).toNat = n % 64 + 128 := by
  have small : n % 64 + 128 < 256 := by omega
  exact UInt8.toNat_ofNat_of_lt' small

/-! ## Showing a character -/

/-- A pending character is shown behind the bytes that it owes. -/
theorem shownFrom_sixBits {pending : Pending} {count n : Nat}
    (owedEq : pending.owed = count + 1)
    (valueEq : pending.value = n / 64 ^ (count + 1))
    (lower : pending.low ≤ n / 64 ^ count % 64 + 128)
    (upper : n / 64 ^ count % 64 + 128 ≤ pending.high) (rest : List UInt8) :
    shownFrom (some pending) (sixBits (count + 1) n ++ rest) =
      Char.ofNat n :: shownFrom none rest := by
  induction count generalizing pending with
  | zero =>
      have value : pending.value * 64 + (n / 64 ^ 0 % 64 + 128) % 64 = n := by
        rw [valueEq]
        omega
      rw [sixBits, List.cons_append, shownFrom, toNat_ofNat_sixBits,
        if_pos ⟨lower, upper⟩]
      simp only [value, owedEq, if_true, sixBits, List.nil_append]
  | succ count inductionHypothesis =>
      have value : pending.value * 64 +
          (n / 64 ^ (count + 1) % 64 + 128) % 64 = n / 64 ^ (count + 1) := by
        rw [valueEq, Nat.pow_succ 64 (count + 1), ← Nat.div_div_eq_div_mul]
        omega
      have more : ¬ pending.owed = 1 := by omega
      rw [sixBits, List.cons_append, shownFrom, toNat_ofNat_sixBits,
        if_pos ⟨lower, upper⟩]
      simp only [value, if_neg more]
      refine inductionHypothesis ?_ rfl ?_ ?_
      · simp only [owedEq, Nat.add_sub_cancel]
      · exact Nat.le_add_left _ _
      · dsimp only
        omega

/-- A byte that begins a character of several bytes shows nothing by itself. -/
theorem shownFirst_of_pending? (first : Nat) {pending : Pending}
    (isPending : pending? first = some pending) :
    shownFirst first = ([], some pending) := by
  have several : ¬ first < 0x80 := by
    intro alone
    rw [pending?, if_pos (Nat.lt_trans alone (by decide))] at isPending
    cases isPending
  rw [shownFirst, if_neg several, isPending]

/-- The first byte of a character of several bytes tells what it owes, and the
byte behind it lies in the bounds. -/
theorem exists_pending {n count : Nat} (valid : n.isValidChar)
    (further : furtherBytes n = count + 1) :
    ∃ pending, shownFirst (firstByte n) = ([], some pending) ∧
      pending.owed = count + 1 ∧ pending.value = n / 64 ^ (count + 1) ∧
      pending.low ≤ n / 64 ^ count % 64 + 128 ∧
      n / 64 ^ count % 64 + 128 ≤ pending.high := by
  unfold furtherBytes at further
  unfold firstByte
  unfold Nat.isValidChar at valid
  split_ifs at further ⊢
  · cases further
    have begins := shownFirst_of_pending? (n / 64 % 32 + 192) (by
      rw [pending?, if_neg (by omega), if_pos (by omega)])
    refine ⟨_, begins, rfl, ?_, ?_, ?_⟩ <;> dsimp only <;> omega
  · cases further
    have begins := shownFirst_of_pending? (n / 4096 % 16 + 224) (by
      rw [pending?, if_neg (by omega), if_neg (by omega),
        if_pos (by omega)])
    refine ⟨_, begins, rfl, ?_, ?_, ?_⟩
    · dsimp only
      omega
    · dsimp only
      split_ifs <;> omega
    · dsimp only
      split_ifs <;> omega
  · cases further
    have begins := shownFirst_of_pending? (n / 262144 % 8 + 240) (by
      rw [pending?, if_neg (by omega), if_neg (by omega), if_neg (by omega),
        if_pos (by omega)])
    refine ⟨_, begins, rfl, ?_, ?_, ?_⟩
    · dsimp only
      omega
    · dsimp only
      split_ifs <;> omega
    · dsimp only
      split_ifs <;> omega

/-- A character is shown from its bytes. -/
theorem shownFrom_utf8EncodeChar (c : Char) (rest : List UInt8) :
    shownFrom none (String.utf8EncodeChar c ++ rest) =
      c :: shownFrom none rest := by
  have same : Char.ofNat c.val.toNat = c := Char.ofNat_toNat c
  rw [utf8EncodeChar_eq, List.cons_append, shownFrom, toNat_ofNat_firstByte]
  cases further : furtherBytes c.val.toNat with
  | zero =>
      have small : c.val.toNat ≤ 127 := by
        unfold furtherBytes at further
        split_ifs at further
        assumption
      have alone : firstByte c.val.toNat = c.val.toNat := if_pos small
      rw [alone, shownFirst, if_pos (Nat.lt_succ_of_le small), same]
      rfl
  | succ count =>
      obtain ⟨pending, first, owedEq, valueEq, lower, upper⟩ :=
        exists_pending c.valid further
      simp only [first, List.nil_append]
      rw [shownFrom_sixBits owedEq valueEq lower upper, same]

/-! ## Texts -/

/-- A text is shown as itself. -/
@[simp]
theorem shown_ofText (text : String) : (ofText text).shown = text := by
  have shows (chars : List Char) :
      shownFrom none (chars.flatMap String.utf8EncodeChar) = chars := by
    induction chars with
    | nil => rfl
    | cons c others inductionHypothesis =>
        rw [List.flatMap_cons, shownFrom_utf8EncodeChar, inductionHypothesis]
  rw [shown, ofText, shows, String.ofList_toList]

theorem bytes_ofText_append (first second : String) :
    (ofText (first ++ second)).bytes =
      (ofText first).bytes ++ (ofText second).bytes := by
  rw [ofText, String.toList_append, List.flatMap_append]
  rfl

theorem text?_eq_some_iff {raw : RawText} {text : String} :
    raw.text? = some text ↔ raw = ofText text := by
  constructor
  · intro isText
    rw [text?] at isText
    split_ifs at isText with same
    cases isText
    exact same.symm
  · rintro rfl
    rw [text?, shown_ofText, if_pos rfl]

end ClassDiagram.RawText
