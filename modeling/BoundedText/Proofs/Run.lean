import BoundedText.Operation
import BoundedText.Proofs.Expansion

namespace BoundedText

namespace Operation

def appended (operation : Operation) : Bytes := operation.expand.bytes

def verdict (operation : Operation) : Except FormatError Unit := operation.expand.verdict

end Operation

namespace Buffer

def performAll (buffer : Buffer) (operations : List Operation) : Buffer :=
  operations.foldl (fun buffer operation => (buffer.perform operation).buffer) buffer

def results (buffer : Buffer) : List Operation → List (Except FormatError Nat)
  | [] => []
  | operation :: operations =>
    (buffer.perform operation).result :: (buffer.perform operation).buffer.results operations

theorem performAll_cons (buffer : Buffer) (operation : Operation) (operations : List Operation) :
    buffer.performAll (operation :: operations) = (buffer.perform operation).buffer.performAll operations := rfl

theorem text_openAt (slice : Bytes) (cursor : Nat) :
    (openAt slice cursor).text = slice.take (min cursor (slice.length - 1)) :=
  List.take_set_of_le (Nat.le_refl _)

theorem remaining_openAt (slice : Bytes) (cursor : Nat) :
    (openAt slice cursor).remaining = slice.length - 1 - min cursor (slice.length - 1) :=
  congrArg (· - 1 - _) List.length_set

theorem text_append_openAt (slice source : Bytes) :
    ((openAt slice 0).append source).text = source.take (slice.length - 1) := by
  rw [text_append, text_openAt, remaining_openAt, Nat.zero_min, List.take_zero, List.nil_append, Nat.sub_zero]

theorem buffer_perform (buffer : Buffer) (operation : Operation) :
    (buffer.perform operation).buffer = buffer.append operation.appended := by
  rw [perform_eq, Expansion.into_eq, Operation.appended]

theorem result_perform (buffer : Buffer) (operation : Operation) :
    (buffer.perform operation).result = operation.verdict.map fun _ => (buffer.perform operation).buffer.cursor := by
  rw [perform_eq, Expansion.into_eq, Operation.verdict]

/-- A run appends what its operations append, cut once and for all. -/
theorem performAll_eq (buffer : Buffer) (operations : List Operation) :
    buffer.performAll operations = buffer.append (operations.flatMap Operation.appended) := by
  induction operations generalizing buffer with
  | nil => exact buffer.append_nil.symm
  | cons operation operations ih =>
    rw [performAll_cons, ih, buffer_perform, append_append, List.flatMap_cons]

theorem results_eq (buffer : Buffer) (operations : List Operation) :
    buffer.results operations = operations.mapIdx fun index operation =>
      operation.verdict.map fun _ => (buffer.performAll (operations.take (index + 1))).cursor := by
  induction operations generalizing buffer with
  | nil => rfl
  | cons operation operations ih =>
    rw [results, ih, List.mapIdx_cons, result_perform]
    rfl

theorem verdicts_results (buffer : Buffer) (operations : List Operation) :
    (buffer.results operations).map (Except.map fun _ => ()) = operations.map Operation.verdict := by
  induction operations generalizing buffer with
  | nil => rfl
  | cons operation operations ih =>
    rw [results, List.map_cons, List.map_cons, ih, result_perform]
    cases operation.verdict <;> rfl

theorem text_performAll_openAt (slice : Bytes) (cursor : Nat) (operations : List Operation) :
    ((openAt slice cursor).performAll operations).text =
      slice.take (min cursor (slice.length - 1)) ++
        (operations.flatMap Operation.appended).take (slice.length - 1 - min cursor (slice.length - 1)) := by
  rw [performAll_eq, text_append, text_openAt, remaining_openAt]

/-- A run on a slice of any size is a run with room for everything, cut to the slice. What an operation appends
    and whether it fails depend on nothing but the operation, so the same ones fail on every slice. -/
theorem run_truncates (slice : Bytes) (cursor : Nat) (operations : List Operation) :
    let opened := openAt slice cursor
    let start := min cursor (slice.length - 1)
    let room := slice.length - 1 - start
    let textAfter (count : Nat) := slice.take start ++ ((operations.take count).flatMap Operation.appended).take room
    (∀ count, (opened.performAll (operations.take count)).text = textAfter count) ∧
    (opened.results operations = operations.mapIdx fun index operation =>
      operation.verdict.map fun _ => (textAfter (index + 1)).length) ∧
    ∀ (other : Bytes) (position : Nat),
      ((openAt other position).results operations).map (Except.map fun _ => ()) =
        (opened.results operations).map (Except.map fun _ => ()) := by
  refine ⟨fun count => text_performAll_openAt slice cursor (operations.take count), ?_, ?_⟩
  · simp only [results_eq, cursor_eq, text_performAll_openAt]
  · intro other position
    rw [verdicts_results, verdicts_results]

end Buffer

end BoundedText
