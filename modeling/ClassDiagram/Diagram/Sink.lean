import ClassDiagram.Diagram.Document

/-!
# Sinks

A sink takes bytes in portions until its room is used up, and passes on what
it took when it is flushed.  A document is written only after it is complete,
so a sink never holds a part of one for any other reason than its own room.
-/

namespace ClassDiagram

/-- Where a document is delivered. -/
structure Sink where
  /-- The bytes it takes in all, if there is a limit. -/
  room : Option Nat := none
  /-- One less than the bytes it takes at most at a call, by the number of
  calls before. -/
  portion : Nat → Nat
  /-- It cannot pass on what it took. -/
  refusesFlush : Bool := false

/-- The bytes that arrived, and the fault that ended the delivery. -/
structure Delivery where
  arrived : List UInt8
  fault : Option IoFault
  deriving DecidableEq, Repr

def roomAfter (room : Option Nat) (count : Nat) : Option Nat :=
  room.map (· - count)

def takenAtCall (sink : Sink) (calls : Nat) (room : Option Nat)
    (bytes : List UInt8) : Nat :=
  let wanted := min (sink.portion calls + 1) bytes.length
  match room with
  | some limit => min wanted limit
  | none => wanted

/-- Write bytes portion by portion until all are taken or no room is left. -/
def writeAll (sink : Sink) (calls : Nat) (room : Option Nat)
    (bytes : List UInt8) : Delivery :=
  if bytes = [] then
    ⟨[], none⟩
  else if room = some 0 then
    ⟨[], some .full⟩
  else
    let count := takenAtCall sink calls room bytes
    let later :=
      writeAll sink (calls + 1) (roomAfter room count) (bytes.drop count)
    ⟨bytes.take count ++ later.arrived, later.fault⟩
termination_by bytes.length
decreasing_by
  have positive := List.length_pos_iff.2 ‹¬ bytes = []›
  rename_i roomLeft
  have taken : 0 < takenAtCall sink calls room bytes := by
    unfold takenAtCall
    cases room with
    | none =>
        simp only
        omega
    | some limit =>
        have limitPositive : limit ≠ 0 := fun zero =>
          roomLeft (congrArg some zero)
        simp only
        omega
  rw [List.length_drop]
  omega

def deliver (sink : Sink) (bytes : List UInt8) : Delivery :=
  let written := writeAll sink 0 sink.room bytes
  match written.fault with
  | some _ => written
  | none =>
      if sink.refusesFlush then
        { written with fault := some .flushRefused }
      else
        written

/-- The bytes that reached a sink and the error that stopped the diagram. -/
structure Generation where
  arrived : List UInt8
  error : Option DiagramError
  deriving DecidableEq, Repr

/-- Make the document of some sources and deliver it. -/
def generate (settings : Settings) (sources : List String) (sink : Sink) :
    Generation :=
  match renderSources settings sources with
  | .error error => ⟨[], some error⟩
  | .ok document =>
      let delivery := deliver sink document.toUTF8.data.toList
      ⟨delivery.arrived, delivery.fault.map .output⟩

end ClassDiagram
