import Mathlib.Data.List.Basic

/-!
# Brackets

Some items of a list open something and some close what was opened last.  A
list is balanced if everything in it is closed in it and nothing else is.  The
items may be tokens or lines; only which of them are brackets matters.

The depth is counted from any number of open brackets, so that a part of a
balanced list has a depth too.
-/

namespace ClassDiagram.Text

/-- Which items open and which close. -/
structure Brackets (α : Type) where
  opens : α → Bool
  closes : α → Bool
  disjoint : ∀ item, opens item = true → closes item = false

namespace Brackets

variable {α : Type} (brackets : Brackets α)

/-- The number of open brackets behind an item, given the number in front of
it; none if the item closes nothing. -/
def depthAfter? (depth : Nat) (item : α) : Option Nat :=
  if brackets.opens item then
    some (depth + 1)
  else if brackets.closes item then
    if depth = 0 then none else some (depth - 1)
  else
    some depth

def depthBehind? : Nat → List α → Option Nat
  | depth, [] => some depth
  | depth, item :: rest =>
      (brackets.depthAfter? depth item).bind fun inner =>
        depthBehind? inner rest

/-- Every bracket is closed and closes one. -/
def Balanced (items : List α) : Prop :=
  brackets.depthBehind? 0 items = some 0

instance (items : List α) : Decidable (brackets.Balanced items) :=
  inferInstanceAs (Decidable (_ = _))

variable {brackets}

/-! ## One item -/

theorem depthAfter?_opening {item : α} (depth : Nat)
    (opens : brackets.opens item = true) :
    brackets.depthAfter? depth item = some (depth + 1) :=
  if_pos opens

theorem depthAfter?_closing {item : α} (depth : Nat)
    (closes : brackets.closes item = true) :
    brackets.depthAfter? (depth + 1) item = some depth := by
  have notOpening : ¬ brackets.opens item = true := by
    intro opens
    rw [brackets.disjoint item opens] at closes
    cases closes
  rw [depthAfter?, if_neg notOpening, if_pos closes,
    if_neg depth.succ_ne_zero]
  rfl

theorem depthAfter?_neutral {item : α} (depth : Nat)
    (notOpening : brackets.opens item = false)
    (notClosing : brackets.closes item = false) :
    brackets.depthAfter? depth item = some depth := by
  rw [depthAfter?, notOpening, notClosing, if_neg Bool.false_ne_true,
    if_neg Bool.false_ne_true]

/-- Brackets around an item are none of its business. -/
theorem depthAfter?_add {depth behind : Nat} {item : α} (outer : Nat)
    (counted : brackets.depthAfter? depth item = some behind) :
    brackets.depthAfter? (depth + outer) item = some (behind + outer) := by
  unfold depthAfter? at counted ⊢
  split at counted
  · rename_i opens
    cases counted
    rw [if_pos opens, Nat.add_right_comm]
  · rename_i notOpening
    rw [if_neg notOpening]
    split at counted
    · rename_i closes
      rw [if_pos closes]
      split at counted
      · cases counted
      · cases counted
        rw [if_neg (by omega)]
        congr 1
        omega
    · rename_i notClosing
      cases counted
      rw [if_neg notClosing]

/-- An item opens or closes as much as it changes the depth. -/
theorem countP_of_depthAfter? {depth behind : Nat} {item : α}
    (counted : brackets.depthAfter? depth item = some behind) :
    depth + [item].countP brackets.opens =
      behind + [item].countP brackets.closes := by
  unfold depthAfter? at counted
  split at counted
  · rename_i opens
    cases counted
    simp [opens, brackets.disjoint item opens]
  · rename_i notOpening
    split at counted
    · rename_i closes
      split at counted
      · cases counted
      · cases counted
        simp [notOpening, closes]
        omega
    · rename_i notClosing
      cases counted
      simp [notOpening, notClosing]

/-! ## Parts of a list -/

theorem depthBehind?_cons (depth : Nat) (item : α) (rest : List α) :
    brackets.depthBehind? depth (item :: rest) =
      (brackets.depthAfter? depth item).bind
        (brackets.depthBehind? · rest) :=
  rfl

theorem depthBehind?_append (depth : Nat) (left right : List α) :
    brackets.depthBehind? depth (left ++ right) =
      (brackets.depthBehind? depth left).bind
        (brackets.depthBehind? · right) := by
  induction left generalizing depth with
  | nil =>
      rfl
  | cons item left inductionHypothesis =>
      rw [List.cons_append, depthBehind?_cons, depthBehind?_cons,
        Option.bind_assoc]
      exact congrArg _ (funext inductionHypothesis)

/-- Brackets around a list are none of its business. -/
theorem depthBehind?_add {depth behind : Nat} {items : List α} (outer : Nat)
    (counted : brackets.depthBehind? depth items = some behind) :
    brackets.depthBehind? (depth + outer) items = some (behind + outer) := by
  induction items generalizing depth with
  | nil =>
      cases counted
      rfl
  | cons item items inductionHypothesis =>
      rw [depthBehind?_cons] at counted ⊢
      obtain ⟨inner, here, later⟩ := Option.bind_eq_some_iff.1 counted
      rw [depthAfter?_add outer here]
      exact inductionHypothesis later

/-- Openings and closings add up. -/
theorem countP_of_depthBehind? {depth behind : Nat} {items : List α}
    (counted : brackets.depthBehind? depth items = some behind) :
    depth + items.countP brackets.opens =
      behind + items.countP brackets.closes := by
  induction items generalizing depth with
  | nil =>
      cases counted
      rfl
  | cons item items inductionHypothesis =>
      rw [depthBehind?_cons] at counted
      obtain ⟨inner, here, later⟩ := Option.bind_eq_some_iff.1 counted
      have first := countP_of_depthAfter? here
      have others := inductionHypothesis later
      rw [← List.singleton_append, List.countP_append, List.countP_append]
      omega

/-! ## Balanced lists -/

theorem balanced_nil : brackets.Balanced [] :=
  rfl

/-- A balanced list changes no depth. -/
theorem Balanced.depthBehind?_eq {items : List α}
    (balanced : brackets.Balanced items) (depth : Nat) :
    brackets.depthBehind? depth items = some depth := by
  have shifted := depthBehind?_add depth balanced
  rwa [Nat.zero_add] at shifted

theorem Balanced.append {left right : List α}
    (leftBalanced : brackets.Balanced left)
    (rightBalanced : brackets.Balanced right) :
    brackets.Balanced (left ++ right) := by
  rw [Balanced, depthBehind?_append, leftBalanced]
  exact rightBalanced

theorem Balanced.cons_neutral {item : α} {items : List α}
    (notOpening : brackets.opens item = false)
    (notClosing : brackets.closes item = false)
    (balanced : brackets.Balanced items) :
    brackets.Balanced (item :: items) := by
  rw [Balanced, depthBehind?_cons,
    depthAfter?_neutral 0 notOpening notClosing]
  exact balanced

theorem balanced_of_neutral {items : List α}
    (neutral : ∀ item ∈ items,
      brackets.opens item = false ∧ brackets.closes item = false) :
    brackets.Balanced items := by
  induction items with
  | nil =>
      exact balanced_nil
  | cons item items inductionHypothesis =>
      obtain ⟨here, later⟩ := List.forall_mem_cons.1 neutral
      exact (inductionHypothesis later).cons_neutral here.1 here.2

/-- A balanced list in brackets is balanced. -/
theorem Balanced.enclosed {opener closer : α} {items : List α}
    (opens : brackets.opens opener = true)
    (closes : brackets.closes closer = true)
    (balanced : brackets.Balanced items) :
    brackets.Balanced (opener :: (items ++ [closer])) := by
  rw [Balanced, depthBehind?_cons, depthAfter?_opening 0 opens,
    Option.bind_some, depthBehind?_append, balanced.depthBehind?_eq,
    Option.bind_some, depthBehind?_cons, depthAfter?_closing 0 closes]
  rfl

theorem Balanced.countP_eq {items : List α}
    (balanced : brackets.Balanced items) :
    items.countP brackets.opens = items.countP brackets.closes := by
  have counted := countP_of_depthBehind? balanced
  omega

end Brackets

end ClassDiagram.Text
