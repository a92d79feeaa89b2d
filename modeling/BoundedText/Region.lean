import BoundedText.Text

namespace BoundedText

/-- A slice and a cursor into it, as they are stored. The bytes before the cursor are the text, and the NUL that
    ends it is there only because every operation writes it anew. -/
structure Region where
  bytes : Bytes
  cursor : Nat
deriving DecidableEq, Repr

namespace Region

def terminate (region : Region) : Region := { region with bytes := region.bytes.set region.cursor 0 }

/-- Terminates the text at the cursor. A cursor past the last byte stands for the last byte. -/
def openAt (slice : Bytes) (cursor : Nat) : Region := terminate ⟨slice, min cursor (slice.length - 1)⟩

def text (region : Region) : Bytes := region.bytes.take region.cursor

def remaining (region : Region) : Nat := region.bytes.length - 1 - region.cursor

def overwrite (region : Region) (source : Bytes) : Region :=
  ⟨region.bytes.take region.cursor ++ source ++ region.bytes.drop (region.cursor + source.length),
    region.cursor + source.length⟩

def append (region : Region) (source : Bytes) : Region :=
  (region.overwrite (source.take region.remaining)).terminate

def copy (region : Region) (source : Bytes) (limit : Option Nat) : Region :=
  match limit with
  | none => region.append source.upToNul
  | some limit => region.append (source.upToNul.take limit)

def fill (region : Region) (byte : UInt8) (count : Nat) : Region :=
  if byte = 0 then region else region.append (List.replicate (min count region.remaining) byte)

def put (region : Region) : Span → Region
  | .bytes bytes => region.copy bytes none
  | .run byte count => region.fill byte count

def write (region : Region) (text : Text) : Region := text.foldl put region

/-- What every operation finds and leaves. A slice of no bytes has no place for the NUL. -/
structure Sound (region : Region) : Prop where
  inside : region.cursor ≤ region.bytes.length - 1
  ended : region.bytes ≠ [] → region.bytes[region.cursor]? = some 0

theorem sound_terminate {region : Region} (inside : region.cursor ≤ region.bytes.length - 1) :
    region.terminate.Sound := by
  constructor
  · simpa only [terminate, List.length_set] using inside
  · intro written
    simp only [terminate, ne_eq, List.set_eq_nil_iff] at written ⊢
    have room := List.length_pos_iff.mpr written
    exact List.getElem?_set_self (by omega)

theorem sound_openAt (slice : Bytes) (cursor : Nat) : (openAt slice cursor).Sound :=
  sound_terminate (Nat.min_le_right _ _)

theorem length_overwrite {region : Region} {source : Bytes}
    (room : region.cursor + source.length ≤ region.bytes.length) :
    (region.overwrite source).bytes.length = region.bytes.length := by
  simp only [overwrite, List.length_append, List.length_take, List.length_drop]
  omega

section Sound

variable {region : Region} (sound : region.Sound)

include sound

theorem Sound.append (source : Bytes) : (region.append source).Sound := by
  have inside := sound.inside
  have kept := List.length_take_le region.remaining source
  rw [remaining] at kept
  apply sound_terminate
  rw [length_overwrite (by rw [remaining]; omega)]
  simp only [overwrite, remaining]
  omega

theorem Sound.copy (source : Bytes) (limit : Option Nat) : (region.copy source limit).Sound := by
  cases limit <;> exact sound.append _

theorem Sound.fill (byte : UInt8) (count : Nat) : (region.fill byte count).Sound := by
  rw [Region.fill]
  split
  · exact sound
  · exact sound.append _

theorem Sound.put (span : Span) : (region.put span).Sound := by
  cases span with
  | bytes bytes => exact sound.copy bytes none
  | run byte count => exact sound.fill byte count

theorem Sound.write (text : Text) : (region.write text).Sound := by
  induction text generalizing region with
  | nil => exact sound
  | cons span text ih => exact ih (sound.put span)

end Sound

def laid (text rest : Bytes) : Region := ⟨text ++ 0 :: rest, text.length⟩

theorem sound_laid (text rest : Bytes) : (laid text rest).Sound := by
  constructor <;> simp [laid]

theorem Sound.eq_laid {region : Region} (sound : region.Sound) :
    region = ⟨[], 0⟩ ∨ ∃ text rest, region = laid text rest := by
  obtain ⟨bytes, cursor⟩ := region
  obtain ⟨inside, ended⟩ := sound
  cases bytes with
  | nil => exact .inl (congrArg _ (Nat.le_zero.mp inside))
  | cons first others =>
    obtain ⟨within, nul⟩ := List.getElem?_eq_some_iff.mp (ended (List.cons_ne_nil first others))
    refine .inr ⟨(first :: others).take cursor, (first :: others).drop (cursor + 1), ?_⟩
    rw [laid, ← nul, List.getElem_cons_drop, List.take_append_drop, List.length_take_of_le (Nat.le_of_lt within)]

theorem Sound.openAt_cursor {region : Region} (sound : region.Sound) : openAt region.bytes region.cursor = region := by
  rcases sound.eq_laid with rfl | ⟨text, rest, rfl⟩
  · rfl
  · have within : min text.length ((text ++ 0 :: rest).length - 1) = text.length := by
      rw [List.length_append, List.length_cons]
      omega
    simp only [openAt, terminate, laid, within, List.set_append_right _ _ (Nat.le_refl _), Nat.sub_self,
      List.set_cons_zero]

theorem append_empty (source : Bytes) : append ⟨[], 0⟩ source = ⟨[], 0⟩ := by
  simp only [append, remaining, List.length_nil, Nat.zero_sub, List.take_zero]
  rfl

theorem append_laid (text rest source : Bytes) :
    (laid text rest).append source =
      laid (text ++ source.take rest.length) (rest.drop (source.take rest.length).length) := by
  have room : (laid text rest).remaining = rest.length := by
    simp only [remaining, laid, List.length_append, List.length_cons]
    omega
  rw [append, room]
  have fits := List.length_take_le rest.length source
  generalize source.take rest.length = kept at fits ⊢
  have within : kept.length < (0 :: rest).length := Nat.lt_succ_of_le fits
  have behind : (text ++ 0 :: rest).drop (text.length + kept.length) =
      (0 :: rest)[kept.length] :: rest.drop kept.length := by
    rw [← List.drop_drop, List.drop_left, List.drop_eq_getElem_cons within, List.drop_succ_cons]
  simp only [overwrite, terminate, laid, List.take_left, behind]
  rw [← List.length_append, List.set_append_right _ _ (Nat.le_refl _), Nat.sub_self, List.set_cons_zero]

end Region

end BoundedText
