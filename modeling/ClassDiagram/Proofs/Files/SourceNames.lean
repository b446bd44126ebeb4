import ClassDiagram.Files.Discovery
import ClassDiagram.Proofs.Text.RawTexts
import Mathlib.Data.List.Basic
import Mathlib.Data.List.TakeWhile

/-!
# Names of sources

Names are looked at by their bytes, but just texts are hidden or name
directories of built files, and just a text is an extension.
-/

namespace ClassDiagram

open RawText (dot ofText)

/-! ## Names by what they are -/

/-- A text that begins with a dot.  Other bytes behind a dot hide nothing. -/
def IsHiddenName (name : RawText) : Prop :=
  ∃ rest : String, name = ofText ("." ++ rest)

/-- Behind the last dot of a name stands a text which is this extension, apart
from the dots that lead it and the case of its letters. -/
def EndsInExtension (extension : String) (name : RawText) : Prop :=
  ∃ (front : List UInt8) (text : String),
    name.bytes = front ++ dot :: (ofText text).bytes ∧
      dot ∉ (ofText text).bytes ∧
      text.toList.map Char.toLower =
        (extension.toList.dropWhile (· == '.')).map Char.toLower

theorem isHidden_iff {name : RawText} :
    isHidden name = true ↔ IsHiddenName name := by
  rw [isHidden, Option.any_eq_true]
  constructor
  · rintro ⟨text, isText, dotted⟩
    obtain ⟨rest, cut⟩ := List.head?_eq_some_iff.1 (of_decide_eq_true dotted)
    refine ⟨String.ofList rest, ?_⟩
    rw [RawText.text?_eq_some_iff.1 isText]
    congr 1
    rw [← String.toList_inj]
    simp [cut]
  · rintro ⟨rest, rfl⟩
    refine ⟨_, RawText.text?_eq_some_iff.2 rfl, ?_⟩
    rw [String.toList_append]
    rfl

instance (name : RawText) : Decidable (IsHiddenName name) :=
  decidable_of_iff _ isHidden_iff

theorem isBuilt_iff {name : RawText} :
    isBuilt name = true ↔ name = "bin" ∨ name = "obj" := by
  rw [isBuilt, Option.any_eq_true]
  simp only [RawText.text?_eq_some_iff, builtDirectories,
    List.contains_iff_mem, List.mem_cons, List.not_mem_nil, or_false]
  constructor
  · rintro ⟨text, rfl, rfl | rfl⟩
    · exact .inl rfl
    · exact .inr rfl
  · rintro (rfl | rfl)
    · exact ⟨_, rfl, .inl rfl⟩
    · exact ⟨_, rfl, .inr rfl⟩

/-- A directory of this name is neither hidden nor one of built files. -/
@[mk_iff]
structure IsOpenName (name : RawText) : Prop where
  notHidden : ¬ IsHiddenName name
  notBuilt : name ≠ "bin" ∧ name ≠ "obj"

theorem isSearched_iff {name : RawText} :
    isSearched name = true ↔ IsOpenName name := by
  rw [isSearched, Bool.and_eq_true, Bool.not_eq_true', Bool.not_eq_true',
    ← Bool.not_eq_true, ← Bool.not_eq_true, isHidden_iff, isBuilt_iff,
    not_or, isOpenName_iff]

theorem extension?_of_no_dot {name : RawText} (noDot : dot ∉ name.bytes) :
    extension? name = none := by
  have passed : name.bytes.reverse.dropWhile (· != dot) = [] := by
    rw [List.dropWhile_eq_nil_iff]
    intro byte member
    rw [List.mem_reverse] at member
    exact bne_iff_ne.2 (ne_of_mem_of_not_mem member noDot)
  rw [extension?]
  simp only [passed]

theorem extension?_of_dot {name : RawText} {front back : List UInt8}
    (cut : name.bytes = front ++ dot :: back) (noDot : dot ∉ back) :
    extension? name = if front = [] then none else some ⟨back⟩ := by
  have other : ∀ byte ∈ back.reverse, (byte != dot) = true := by
    intro byte member
    rw [List.mem_reverse] at member
    exact bne_iff_ne.2 (ne_of_mem_of_not_mem member noDot)
  have backward : name.bytes.reverse =
      back.reverse ++ dot :: front.reverse := by
    simp [cut]
  have dropped : name.bytes.reverse.dropWhile (· != dot) =
      dot :: front.reverse := by
    rw [backward, List.dropWhile_append_of_pos other]
    rfl
  have kept : name.bytes.reverse.takeWhile (· != dot) = back.reverse := by
    rw [backward, List.takeWhile_append_of_pos other]
    simp
  rw [extension?]
  simp only [dropped, kept, List.reverse_reverse]
  cases last : front.reverse with
  | nil => rw [if_pos (List.reverse_eq_nil_iff.1 last)]
  | cons byte others =>
      rw [if_neg]
      rintro rfl
      cases last

theorem sameButForCase_bareExtension_iff {text extension : String} :
    Text.sameButForCase text (bareExtension extension) = true ↔
      text.toList.map Char.toLower =
        (extension.toList.dropWhile (· == '.')).map Char.toLower := by
  simp [Text.sameButForCase, Text.lowered, bareExtension]

/-- The names of sources, said without the search for the last dot. -/
theorem isSourceName_iff {extension : String} {name : RawText} :
    isSourceName extension name = true ↔
      ¬ IsHiddenName name ∧ EndsInExtension extension name := by
  rw [isSourceName, Bool.and_eq_true, Bool.not_eq_true', ← Bool.not_eq_true,
    isHidden_iff]
  refine and_congr_right fun notHidden => ?_
  rw [hasExtension, Option.any_eq_true]
  simp only [sameButForCase_bareExtension_iff]
  constructor
  · rintro ⟨text, isText, same⟩
    obtain ⟨found, isExtension, isText⟩ := Option.bind_eq_some_iff.1 isText
    rw [RawText.text?_eq_some_iff] at isText
    subst isText
    by_cases dotted : dot ∈ name.bytes
    · obtain ⟨back, front, backward, noDot⟩ :=
        List.eq_append_cons_of_mem (List.mem_reverse.2 dotted)
      have cut : name.bytes = front.reverse ++ dot :: back.reverse := by
        rw [← List.reverse_reverse name.bytes, backward]
        simp
      rw [← List.mem_reverse] at noDot
      rw [extension?_of_dot cut noDot] at isExtension
      obtain ⟨-, isBack⟩ := Option.ite_none_left_eq_some.1 isExtension
      have sameBytes : back.reverse = (ofText text).bytes :=
        congrArg RawText.bytes (Option.some.inj isBack)
      rw [sameBytes] at cut noDot
      exact ⟨_, text, cut, noDot, same⟩
    · rw [extension?_of_no_dot dotted] at isExtension
      cases isExtension
  · rintro ⟨front, text, cut, noDot, same⟩
    have someFront : front ≠ [] := by
      rintro rfl
      refine notHidden ⟨text, RawText.ext ?_⟩
      rw [cut, RawText.bytes_ofText_append]
      rfl
    refine ⟨text, ?_, same⟩
    rw [extension?_of_dot cut noDot, if_neg someFront, Option.bind_some]
    exact RawText.text?_eq_some_iff.2 rfl

end ClassDiagram
