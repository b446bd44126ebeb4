import ClassDiagram.Diagram.Sink
import Mathlib.Data.List.Basic

/-!
# Partial writes

A sink decides at every call how many bytes it takes, and may run out of room
at any of them.  However it does so, the bytes that arrive are the front of
the document, as long as its room, and nothing arrives if there is no
document.

What one call does is said once, by `takenAtCall_eq`.  The rest follows by
induction on the bytes that are left.
-/

namespace ClassDiagram

/-- How many of so many bytes fit into the room that is left. -/
def fitting (room : Option Nat) (count : Nat) : Nat :=
  match room with
  | none => count
  | some limit => min limit count

theorem fitting_le (room : Option Nat) (count : Nat) :
    fitting room count ≤ count := by
  cases room with
  | none =>
      exact Nat.le_refl count
  | some limit =>
      exact Nat.min_le_right limit count

theorem fitting_eq_iff {room : Option Nat} {count : Nat} :
    fitting room count = count ↔ ∀ limit ∈ room, count ≤ limit := by
  cases room with
  | none =>
      simp [fitting]
  | some limit =>
      simp only [fitting, Option.mem_some_iff, forall_eq']
      omega

/-- Behind some bytes that were taken fits what is left of what fitted. -/
theorem fitting_roomAfter {room : Option Nat} {taken count : Nat}
    (fits : taken ≤ fitting room count) :
    taken + fitting (roomAfter room taken) (count - taken) =
      fitting room count := by
  cases room with
  | none =>
      exact Nat.add_sub_cancel' fits
  | some limit =>
      simp only [fitting, roomAfter, Option.map_some] at fits ⊢
      omega

/-- A call takes a portion of what fits. -/
theorem takenAtCall_eq (sink : Sink) (calls : Nat) (room : Option Nat)
    (bytes : List UInt8) :
    takenAtCall sink calls room bytes =
      min (sink.portion calls + 1) (fitting room bytes.length) := by
  unfold takenAtCall
  cases room with
  | none =>
      rfl
  | some limit =>
      simp only [fitting]
      omega

/-- All bytes that fit are written, and there is a fault if some do not. -/
theorem writeAll_eq (sink : Sink) (calls : Nat) (room : Option Nat)
    (bytes : List UInt8) :
    writeAll sink calls room bytes =
      ⟨bytes.take (fitting room bytes.length),
        if fitting room bytes.length = bytes.length then none
        else some .full⟩ := by
  fun_induction writeAll sink calls room bytes with
  | case1 calls room =>
      have nothing : fitting room 0 = 0 :=
        Nat.le_zero.1 (fitting_le room 0)
      rw [List.length_nil, nothing, if_pos rfl, List.take_nil]
  | case2 calls bytes something =>
      have nothing : fitting (some 0) bytes.length = 0 := Nat.zero_min _
      have missing : ¬ 0 = bytes.length := fun empty =>
        something (List.length_eq_zero_iff.1 empty.symm)
      rw [nothing, if_neg missing, List.take_zero]
  | case3 calls room bytes something roomLeft count later
      inductionHypothesis =>
      have fits : count ≤ fitting room bytes.length := by
        change takenAtCall sink calls room bytes ≤ _
        rw [takenAtCall_eq]
        exact Nat.min_le_right _ _
      have whole := fitting_roomAfter fits
      have inBytes := fitting_le room bytes.length
      have sameEnd : fitting (roomAfter room count) (bytes.length - count) =
            bytes.length - count ↔
          fitting room bytes.length = bytes.length := by
        omega
      have laterEq : later = _ := inductionHypothesis
      rw [laterEq, List.length_drop, ← List.take_add, whole]
      simp only [sameEnd]

def Sink.HasRoomFor (sink : Sink) (count : Nat) : Prop :=
  ∀ limit ∈ sink.room, count ≤ limit

/-- The bytes that fit arrive.  There is no fault exactly if that is all of
them and they are passed on. -/
theorem deliver_spec (sink : Sink) (bytes : List UInt8) :
    (deliver sink bytes).arrived =
        bytes.take (fitting sink.room bytes.length) ∧
      ((deliver sink bytes).fault = none ↔
        sink.HasRoomFor bytes.length ∧ sink.refusesFlush = false) := by
  rw [Sink.HasRoomFor, ← fitting_eq_iff]
  unfold deliver
  rw [writeAll_eq]
  by_cases fits : fitting sink.room bytes.length = bytes.length
  · cases refuses : sink.refusesFlush <;> simp [fits]
  · simp [fits]

/-- If there is no document, the sink gets nothing and the error is that of
the document.  Otherwise it gets the first bytes of the document, as many as
it has room for, and there is no error exactly if these are all of them and
the sink passes them on; any error is then one of delivery. -/
theorem generate_delivers (settings : Settings) (sources : List String)
    (sink : Sink) :
    (∀ error, renderSources settings sources = .error error →
      generate settings sources sink = ⟨[], some error⟩) ∧
    ∀ document, renderSources settings sources = .ok document →
      let bytes := document.toUTF8.data.toList
      let generation := generate settings sources sink
      generation.arrived = bytes.take (fitting sink.room bytes.length) ∧
        (generation.error = none ↔
          sink.HasRoomFor bytes.length ∧ sink.refusesFlush = false) ∧
        (generation.error = none ∨
          ∃ fault, generation.error = some (.output fault)) := by
  constructor
  · intro error refused
    rw [generate, refused]
  · intro document rendered bytes generation
    have delivered : generation = ⟨(deliver sink bytes).arrived,
        (deliver sink bytes).fault.map .output⟩ := by
      change generate settings sources sink = _
      rw [generate, rendered]
    obtain ⟨arrived, faultless⟩ := deliver_spec sink bytes
    rw [delivered]
    refine ⟨arrived, ?_, ?_⟩
    · rw [Option.map_eq_none_iff]
      exact faultless
    · cases (deliver sink bytes).fault with
      | none =>
          exact .inl rfl
      | some fault =>
          exact .inr ⟨fault, rfl⟩

/-- A sink with little room that takes more bytes at every call. -/
def narrowSink : Sink where
  room := some 12
  portion := id

def wideSink : Sink where
  portion := fun _ => 0

theorem narrowSink_gets_front :
    renderSources {} ["class A \x7b \x7d"] =
        .ok "@startuml\nallow_mixing\nclass A \x7b\n\x7d\n@enduml\n" ∧
      (generate {} ["class A \x7b \x7d"] narrowSink).arrived =
        "@startuml\nal".toUTF8.data.toList ∧
      (∃ fault, (generate {} ["class A \x7b \x7d"] narrowSink).error =
        some (.output fault)) ∧
      renderSources {} ["class A \x7b"] = .error
        (.source (.unexpected (.missingTypeEnd "A") none) ⟨1, 10⟩) ∧
      generate {} ["class A \x7b"] wideSink = ⟨[], some
        (.source (.unexpected (.missingTypeEnd "A") none) ⟨1, 10⟩)⟩ := by
  have rendered : renderSources {} ["class A \x7b \x7d"] =
      .ok "@startuml\nallow_mixing\nclass A \x7b\n\x7d\n@enduml\n" := by
    decide +kernel
  have refused : renderSources {} ["class A \x7b"] = .error
      (.source (.unexpected (.missingTypeEnd "A") none) ⟨1, 10⟩) := by
    decide +kernel
  obtain ⟨front, faultless, fault⟩ :=
    (generate_delivers {} ["class A \x7b \x7d"] narrowSink).2 _ rendered
  refine ⟨rendered, ?_, ?_, refused,
    (generate_delivers {} ["class A \x7b"] wideSink).1 _ refused⟩
  · rw [front]
    decide +kernel
  · refine fault.resolve_left fun delivered => ?_
    have room := (faultless.1 delivered).1 12 rfl
    revert room
    decide +kernel

end ClassDiagram
