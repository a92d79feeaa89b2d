import BoundedText.Proofs.Run

namespace BoundedText

namespace Region

/-- What an operation does to a stored slice: one write after the other, for each span that it appends. -/
def perform (region : Region) (operation : Operation) : Region := region.write operation.expand.text

def answer (region : Region) (operation : Operation) : Except FormatError Nat :=
  operation.verdict.map fun _ => (region.perform operation).cursor

def performAll (region : Region) (operations : List Operation) : Region := operations.foldl perform region

def answers (region : Region) : List Operation → List (Except FormatError Nat)
  | [] => []
  | operation :: operations => region.answer operation :: (region.perform operation).answers operations

theorem performAll_cons (region : Region) (operation : Operation) (operations : List Operation) :
    region.performAll (operation :: operations) = (region.perform operation).performAll operations := rfl

theorem performAll_append (region : Region) (left right : List Operation) :
    region.performAll (left ++ right) = (region.performAll left).performAll right := List.foldl_append

theorem answers_append (region : Region) (left right : List Operation) :
    region.answers (left ++ right) = region.answers left ++ (region.performAll left).answers right := by
  induction left generalizing region with
  | nil => rfl
  | cons operation left ih => rw [List.cons_append, answers, answers, ih, performAll_cons, List.cons_append]

end Region

namespace Buffer

theorem region_write (buffer : Buffer) (text : Text) : (buffer.write text).region = buffer.region.write text := by
  induction text generalizing buffer with
  | nil => rfl
  | cons span text ih =>
    have stored : (buffer.put span).region = buffer.region.put span := by cases span <;> rfl
    rw [write, List.foldl_cons, ← write, ih, stored]
    rfl

theorem region_perform (buffer : Buffer) (operation : Operation) :
    (buffer.perform operation).buffer.region = buffer.region.perform operation := by
  rw [Region.perform, ← region_write, buffer_perform, write_eq]
  rfl

theorem result_perform_region (buffer : Buffer) (operation : Operation) :
    (buffer.perform operation).result = buffer.region.answer operation := by
  rw [result_perform, Region.answer, ← region_perform]
  rfl

/-- Whatever is written to a buffer is stored, and nothing else. -/
theorem region_performAll (buffer : Buffer) (operations : List Operation) :
    (buffer.performAll operations).region = buffer.region.performAll operations := by
  induction operations generalizing buffer with
  | nil => rfl
  | cons operation operations ih => rw [performAll_cons, ih, region_perform, Region.performAll_cons]

theorem results_region (buffer : Buffer) (operations : List Operation) :
    buffer.results operations = buffer.region.answers operations := by
  induction operations generalizing buffer with
  | nil => rfl
  | cons operation operations ih => rw [results, ih, result_perform_region, region_perform, Region.answers]

end Buffer

namespace Region.Sound

variable {region : Region} (sound : region.Sound)

include sound

theorem write_eq (text : Text) : region.write text = region.append text.toBytes := by
  have whole := congrArg Buffer.region (Buffer.write_eq ⟨region, sound⟩ text)
  rwa [Buffer.region_write] at whole

theorem perform_eq (operation : Operation) : region.perform operation = region.append operation.appended :=
  sound.write_eq operation.expand.text

theorem length_append (source : Bytes) : (region.append source).bytes.length = region.bytes.length :=
  Buffer.capacity_append ⟨region, sound⟩ source

theorem text_append (source : Bytes) : (region.append source).text = region.text ++ source.take region.remaining :=
  Buffer.text_append ⟨region, sound⟩ source

theorem take_bytes_append (source : Bytes) :
    (region.append source).bytes.take region.cursor = region.bytes.take region.cursor := by
  rcases sound.eq_laid with rfl | ⟨text, rest, rfl⟩
  · rw [append_empty]
  · rw [append_laid]
    simp only [laid, List.append_assoc, List.take_left]

theorem drop_bytes_append (source : Bytes) :
    (region.append source).bytes.drop ((region.append source).cursor + 1) =
      region.bytes.drop ((region.append source).cursor + 1) := by
  rcases sound.eq_laid with rfl | ⟨text, rest, rfl⟩
  · rw [append_empty]
  · have behind (front tail : Bytes) : (front ++ 0 :: tail).drop (front.length + 1) = tail := by
      rw [← List.drop_drop, List.drop_left, List.drop_one, List.tail_cons]
    rw [append_laid]
    simp only [laid]
    rw [behind, List.length_append, Nat.add_right_comm, ← List.drop_drop, behind]

theorem idxOf_zero (clean : 0 ∉ region.text) : region.bytes.idxOf 0 = region.cursor := by
  rcases sound.eq_laid with rfl | ⟨text, rest, rfl⟩
  · rfl
  · have absent : 0 ∉ text := by rwa [Region.text, laid, List.take_left] at clean
    rw [laid, List.idxOf_append, if_neg absent, List.idxOf_cons_self, Nat.zero_add]

theorem perform (operation : Operation) : (region.perform operation).Sound := sound.write operation.expand.text

theorem length_perform (operation : Operation) : (region.perform operation).bytes.length = region.bytes.length := by
  rw [sound.perform_eq, sound.length_append]

theorem zero_not_mem_perform (clean : 0 ∉ region.text) (operation : Operation) :
    0 ∉ (region.perform operation).text := by
  rw [sound.perform_eq, sound.text_append, List.mem_append, not_or]
  exact ⟨clean, fun member => operation.expand.zero_not_mem_bytes (List.mem_of_mem_take member)⟩

theorem performAll (operations : List Operation) : (region.performAll operations).Sound := by
  induction operations generalizing region with
  | nil => exact sound
  | cons operation operations ih => exact ih (sound.perform operation)

theorem length_performAll (operations : List Operation) :
    (region.performAll operations).bytes.length = region.bytes.length := by
  induction operations generalizing region with
  | nil => rfl
  | cons operation operations ih => exact (ih (sound.perform operation)).trans (sound.length_perform operation)

theorem zero_not_mem_performAll (clean : 0 ∉ region.text) (operations : List Operation) :
    0 ∉ (region.performAll operations).text := by
  induction operations generalizing region with
  | nil => exact clean
  | cons operation operations ih => exact ih (sound.perform operation) (sound.zero_not_mem_perform clean operation)

end Region.Sound

namespace Region

/-- Performs segment after segment. Behind each only the slice and the cursor are kept, and the slice is opened again
    there. -/
def performResuming (region : Region) : List (List Operation) → Region
  | [] => region
  | segment :: segments =>
    (openAt (region.performAll segment).bytes (region.performAll segment).cursor).performResuming segments

def answersResuming (region : Region) : List (List Operation) → List (Except FormatError Nat)
  | [] => []
  | segment :: segments =>
    region.answers segment ++
      (openAt (region.performAll segment).bytes (region.performAll segment).cursor).answersResuming segments

theorem Sound.performResuming_eq {region : Region} (sound : region.Sound) (segments : List (List Operation)) :
    region.performResuming segments = region.performAll segments.flatten := by
  induction segments generalizing region with
  | nil => rfl
  | cons segment segments ih =>
    have stays := sound.performAll segment
    rw [performResuming, stays.openAt_cursor, ih stays, List.flatten_cons, performAll_append]

theorem Sound.answersResuming_eq {region : Region} (sound : region.Sound) (segments : List (List Operation)) :
    region.answersResuming segments = region.answers segments.flatten := by
  induction segments generalizing region with
  | nil => rfl
  | cons segment segments ih =>
    have stays := sound.performAll segment
    rw [answersResuming, stays.openAt_cursor, ih stays, List.flatten_cons, answers_append]

end Region

/-- A slice that is opened at a cursor and dropped again, and what is done to it in between. -/
structure Opening where
  cursor : Nat
  operations : List Operation

def Opening.region (opening : Opening) (slice : Bytes) : Region :=
  (Region.openAt slice opening.cursor).performAll opening.operations

namespace Slice

def afterOpenings (slice : Bytes) (openings : List Opening) : Bytes :=
  openings.foldl (fun slice opening => (opening.region slice).bytes) slice

theorem length_region (slice : Bytes) (opening : Opening) : (opening.region slice).bytes.length = slice.length := by
  have same := (Region.sound_openAt slice opening.cursor).length_performAll opening.operations
  exact same.trans List.length_set

theorem length_afterOpenings (slice : Bytes) (openings : List Opening) :
    (afterOpenings slice openings).length = slice.length := by
  induction openings generalizing slice with
  | nil => rfl
  | cons opening openings ih => rw [afterOpenings, List.foldl_cons, ← afterOpenings, ih, length_region]

/-- Whatever has been done to a slice, what is opened on it stays within it and terminated, and an operation changes no
    bytes but those it appends and the NUL behind them. A text without NULs stays one, and then the first NUL of the
    slice is its end. Opening the slice again at the cursor makes no difference. -/
theorem openings_invariants (slice : Bytes) (earlier : List Opening) (opening : Opening) :
    let found := afterOpenings slice earlier
    let region := opening.region found
    let buffer := (Buffer.openAt found opening.cursor).performAll opening.operations
    (∀ operations, (buffer.performAll operations).region = region.performAll operations ∧
      buffer.results operations = region.answers operations) ∧
    (region.cursor ≤ slice.length - 1 ∧ region.bytes.length = slice.length ∧
      (slice = [] ∧ region.cursor = 0 ∨ region.bytes[region.cursor]? = some 0)) ∧
    (∀ operation,
      let after := region.perform operation
      region.cursor ≤ after.cursor ∧ after.bytes.take region.cursor = region.bytes.take region.cursor ∧
        after.bytes.drop (after.cursor + 1) = region.bytes.drop (after.cursor + 1)) ∧
    (0 ∉ found.take (min opening.cursor (slice.length - 1)) →
      0 ∉ region.text ∧ region.bytes.idxOf 0 = region.cursor) ∧
    Region.openAt region.bytes region.cursor = region ∧
    ∀ segments, region.performResuming segments = region.performAll segments.flatten ∧
      region.answersResuming segments = region.answers segments.flatten := by
  intro found region buffer
  have opened := Region.sound_openAt found opening.cursor
  have sound : region.Sound := opened.performAll opening.operations
  have stored : buffer.region = region := Buffer.region_performAll _ opening.operations
  have size : region.bytes.length = slice.length :=
    (length_region found opening).trans (length_afterOpenings slice earlier)
  refine ⟨fun operations => ?_, ⟨size ▸ sound.inside, size, ?_⟩, ?_, ?_, sound.openAt_cursor, ?_⟩
  · rw [Buffer.region_performAll, Buffer.results_region, stored]
    exact ⟨rfl, rfl⟩
  · cases slice with
    | nil =>
      have inside := sound.inside
      rw [size] at inside
      exact .inl ⟨rfl, Nat.le_zero.mp inside⟩
    | cons first others =>
      refine .inr (sound.ended fun nothing => ?_)
      rw [nothing] at size
      cases size
  · intro operation
    simp only [sound.perform_eq]
    exact ⟨Nat.le_add_right _ _, sound.take_bytes_append _, sound.drop_bytes_append _⟩
  · intro clean
    rw [← length_afterOpenings slice earlier] at clean
    have start : 0 ∉ (Region.openAt found opening.cursor).text := by
      rwa [Region.text, Region.openAt, Region.terminate, List.take_set_of_le (Nat.le_refl _)]
    have stays : 0 ∉ region.text := opened.zero_not_mem_performAll start opening.operations
    exact ⟨stays, sound.idxOf_zero stays⟩
  · exact fun segments => ⟨sound.performResuming_eq segments, sound.answersResuming_eq segments⟩

theorem openings_invariants_reopened :
    let slice : Bytes := [0x2e, 0x2e, 0x2e, 0x2e, 0x2e, 0x2e]
    let found := afterOpenings slice [⟨9, []⟩, ⟨0, [.copy [0x61, 0x62] none, .pushByte 0x63]⟩]
    let region := (Opening.mk 2 [.fill 0x2d 2, .copy [0x64, 0, 0x65] none]).region found
    0 ∉ found.take (min 2 (slice.length - 1)) ∧ 0 ∉ region.text ∧ region.bytes.idxOf 0 = region.cursor ∧
      region = ⟨[0x61, 0x62, 0x2d, 0x2d, 0x64, 0], 5⟩ := by
  intro slice found region
  have clean : 0 ∉ found.take (min 2 (slice.length - 1)) := by decide
  obtain ⟨-, -, -, ended, -⟩ := openings_invariants slice _ ⟨2, [.fill 0x2d 2, .copy [0x64, 0, 0x65] none]⟩
  obtain ⟨stays, first⟩ := ended clean
  exact ⟨clean, stays, first, by decide⟩

end Slice

end BoundedText
