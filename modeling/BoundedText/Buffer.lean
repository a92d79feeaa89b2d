import BoundedText.Region

namespace BoundedText

/-- A region that holds a terminated text. A slice of no bytes holds not even the NUL. -/
structure Buffer where
  region : Region
  sound : region.Sound
deriving DecidableEq, Repr

namespace Buffer

def openAt (slice : Bytes) (cursor : Nat) : Buffer := ⟨.openAt slice cursor, Region.sound_openAt slice cursor⟩

def bytes (buffer : Buffer) : Bytes := buffer.region.bytes

def text (buffer : Buffer) : Bytes := buffer.region.text

def cursor (buffer : Buffer) : Nat := buffer.region.cursor

def withTerminator (buffer : Buffer) : Bytes := buffer.bytes.take (buffer.cursor + 1)

def remaining (buffer : Buffer) : Nat := buffer.region.remaining

def capacity (buffer : Buffer) : Nat := buffer.bytes.length

def isFull (buffer : Buffer) : Bool := buffer.remaining == 0

def isEmpty (buffer : Buffer) : Bool := buffer.cursor == 0

def append (buffer : Buffer) (source : Bytes) : Buffer := ⟨buffer.region.append source, buffer.sound.append source⟩

def copy (buffer : Buffer) (source : Bytes) (limit : Option Nat) : Buffer :=
  ⟨buffer.region.copy source limit, buffer.sound.copy source limit⟩

def pushByte (buffer : Buffer) (byte : UInt8) : Buffer := buffer.copy [byte] (some 1)

def fill (buffer : Buffer) (byte : UInt8) (count : Nat) : Buffer :=
  ⟨buffer.region.fill byte count, buffer.sound.fill byte count⟩

def put (buffer : Buffer) : Span → Buffer
  | .bytes bytes => buffer.copy bytes none
  | .run byte count => buffer.fill byte count

def write (buffer : Buffer) (text : Text) : Buffer := text.foldl put buffer

def writeParts (buffer : Buffer) (parts : List Bytes) : Buffer :=
  parts.foldl (fun buffer part => buffer.copy part none) buffer

def void : Buffer := ⟨⟨[], 0⟩, Region.sound_openAt [] 0⟩

def terminated (text rest : Bytes) : Buffer := ⟨.laid text rest, Region.sound_laid text rest⟩

@[cases_eliminator, elab_as_elim]
theorem cases_laid {motive : Buffer → Prop} (void : motive void)
    (terminated : ∀ text rest, motive (terminated text rest)) (buffer : Buffer) : motive buffer := by
  obtain ⟨region, sound⟩ := buffer
  rcases sound.eq_laid with rfl | ⟨text, rest, rfl⟩
  · exact void
  · exact terminated text rest

section Laid

variable (text rest source : Bytes)

@[simp] theorem append_void : void.append source = void := by
  simp only [append, void, Region.append_empty]

@[simp] theorem append_terminated : (terminated text rest).append source =
    terminated (text ++ source.take rest.length) (rest.drop (source.take rest.length).length) := by
  simp only [append, terminated, Region.append_laid]

@[simp] theorem bytes_terminated : (terminated text rest).bytes = text ++ 0 :: rest := rfl

@[simp] theorem cursor_terminated : (terminated text rest).cursor = text.length := rfl

@[simp] theorem text_terminated : (terminated text rest).text = text := List.take_left

@[simp] theorem remaining_terminated : (terminated text rest).remaining = rest.length := by
  simp only [remaining, terminated, Region.remaining, Region.laid, List.length_append, List.length_cons]
  omega

end Laid

theorem cursor_eq (buffer : Buffer) : buffer.cursor = buffer.text.length := by
  cases buffer with
  | void => rfl
  | terminated text rest => rw [cursor_terminated, text_terminated]

theorem bytes_openAt_cursor (buffer : Buffer) : openAt buffer.bytes buffer.cursor = buffer := by
  simp only [openAt, bytes, cursor, buffer.sound.openAt_cursor]

theorem text_append (buffer : Buffer) (source : Bytes) :
    (buffer.append source).text = buffer.text ++ source.take buffer.remaining := by
  cases buffer with
  | void => rw [append_void]; exact (List.append_nil _).symm
  | terminated text rest => simp only [append_terminated, text_terminated, remaining_terminated]

theorem remaining_append (buffer : Buffer) (source : Bytes) :
    (buffer.append source).remaining = buffer.remaining - source.length := by
  cases buffer with
  | void => rw [append_void]; exact (Nat.zero_sub _).symm
  | terminated text rest =>
    simp only [append_terminated, remaining_terminated, List.length_drop, List.length_take]
    omega

theorem capacity_append (buffer : Buffer) (source : Bytes) : (buffer.append source).capacity = buffer.capacity := by
  cases buffer with
  | void => rw [append_void]
  | terminated text rest =>
    simp only [append_terminated, capacity, bytes_terminated, List.length_append, List.length_cons, List.length_drop,
      List.length_take]
    omega

theorem append_nil (buffer : Buffer) : buffer.append [] = buffer := by
  cases buffer with
  | void => exact append_void []
  | terminated text rest =>
    rw [append_terminated, List.take_nil, List.append_nil, List.length_nil, List.drop_zero]

theorem append_append (buffer : Buffer) (left right : Bytes) :
    (buffer.append left).append right = buffer.append (left ++ right) := by
  cases buffer with
  | void => rw [append_void, append_void, append_void]
  | terminated text rest =>
    simp only [append_terminated, List.length_drop, List.length_take, List.append_assoc, List.take_append,
      List.drop_drop, List.length_append]
    congr 1
    · congr 3
      omega
    · congr 1
      omega

theorem append_take (buffer : Buffer) (source : Bytes) (length : Nat) (room : buffer.remaining ≤ length) :
    buffer.append (source.take length) = buffer.append source := by
  cases buffer with
  | void => rw [append_void, append_void]
  | terminated text rest =>
    rw [remaining_terminated] at room
    simp only [append_terminated, List.take_take, Nat.min_eq_left room]

theorem put_eq (buffer : Buffer) (span : Span) : buffer.put span = buffer.append span.toBytes := by
  cases span with
  | bytes bytes => rfl
  | run byte count =>
    simp only [put, fill, Region.fill, Span.toBytes]
    split
    · exact buffer.append_nil.symm
    · have listed : List.replicate (min count buffer.remaining) byte =
          (List.replicate count byte).take buffer.remaining := by
        rw [List.take_replicate, Nat.min_comm]
      exact (congrArg buffer.append listed).trans (buffer.append_take _ _ (Nat.le_refl _))

theorem copy_none (buffer : Buffer) (source : Bytes) : buffer.copy source none = buffer.append source.upToNul := rfl

theorem pushByte_eq (buffer : Buffer) (byte : UInt8) : buffer.pushByte byte = buffer.write (.ofByte byte) := by
  have single : (Bytes.upToNul [byte]).take 1 = Bytes.upToNul [byte] :=
    List.take_of_length_le (Bytes.length_upToNul_le [byte])
  exact congrArg buffer.append single

theorem writeParts_eq (buffer : Buffer) (parts : List Bytes) :
    buffer.writeParts parts = buffer.write (parts.map .bytes) := by
  simp only [writeParts, write, List.foldl_map]
  rfl

theorem write_append (buffer : Buffer) (left right : Text) :
    buffer.write (left ++ right) = (buffer.write left).write right := List.foldl_append

theorem write_eq (buffer : Buffer) (text : Text) : buffer.write text = buffer.append text.toBytes := by
  induction text generalizing buffer with
  | nil => exact buffer.append_nil.symm
  | cons span text ih =>
    rw [write, List.foldl_cons, put_eq, ← write, ih, append_append, Text.toBytes_cons]

end Buffer

end BoundedText
