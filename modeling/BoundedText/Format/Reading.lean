import BoundedText.Fault
import BoundedText.Format.Conversion
import BoundedText.Text

namespace BoundedText.Conversion

def readFlags : Bytes → List Flag × Bytes
  | [] => ([], [])
  | byte :: rest =>
    match Flag.ofByte? byte with
    | some flag => (flag :: (readFlags rest).1, (readFlags rest).2)
    | none => ([], byte :: rest)

/-- The marks `, ; : _` may precede the width and mean nothing. -/
def isSeparator (byte : UInt8) : Bool := byte == 0x2c || byte == 0x3b || byte == 0x3a || byte == 0x5f

def readSeparator : Bytes → Option UInt8 × Bytes
  | [] => (none, [])
  | byte :: rest => if isSeparator byte then (some byte, rest) else (none, byte :: rest)

def countOfDigits (digits : Bytes) : Nat :=
  digits.foldl (fun value digit => min (10 * value + Ascii.digitValue digit) maxCount) 0

def readCount (bytes : Bytes) : Option Nat × Bytes :=
  match bytes.takeWhile Ascii.isDigit with
  | [] => (none, bytes)
  | digits@(_ :: _) => (some (countOfDigits digits), bytes.dropWhile Ascii.isDigit)

def readPrecision : Bytes → Option Nat × Bytes
  | Ascii.point :: rest => (some ((readCount rest).1.getD 0), (readCount rest).2)
  | bytes => (none, bytes)

def readLength : Bytes → Except Fault (Length × Bytes)
  | Ascii.h :: Ascii.h :: rest => .ok (.hh, rest)
  | Ascii.h :: rest => .ok (.h, rest)
  | Ascii.l :: Ascii.l :: rest => .ok (.ll, rest)
  | Ascii.l :: rest => .ok (.l, rest)
  | Ascii.j :: rest => .ok (.j, rest)
  | Ascii.t :: rest => .ok (.t, rest)
  | Ascii.z :: rest => .ok (.z, rest)
  | Ascii.q :: _ => .error (.unsupportedLength Ascii.q)
  | Ascii.capitalL :: _ => .error (.unsupportedLength Ascii.capitalL)
  | bytes => .ok (.plain, bytes)

def readLetter : Bytes → Except Fault (Letter × Bytes)
  | [] => .error .incompleteConversion
  | byte :: rest =>
    match Letter.ofByte? byte with
    | some letter => .ok (letter, rest)
    | none => .error (.unsupportedConversion byte)

/-- Reads a conversion behind its percent sign: flags, a separator, the width, the precision, the
    length and the letter. A dollar behind the width would select an argument by its position. -/
def read (bytes : Bytes) : Except Fault (Conversion × Bytes) := do
  let (flags, bytes) := readFlags bytes
  let (separator, bytes) := readSeparator bytes
  let (width, bytes) := readCount bytes
  if bytes.head? = some Ascii.dollar then
    throw .positionalArgument
  let (precision, bytes) := readPrecision bytes
  let (length, bytes) ← readLength bytes
  let (letter, bytes) ← readLetter bytes
  return (⟨flags, separator, width, precision, letter.ownLength?.getD length, letter⟩, bytes)

def readAt (format : Bytes) (start : Nat) : Except FormatError (Conversion × Nat) :=
  match read (format.drop (start + 1)) with
  | .ok (conversion, rest) => .ok (conversion, format.length - rest.length)
  | .error fault => .error ⟨fault, start⟩

theorem length_readFlags_le (bytes : Bytes) : (readFlags bytes).2.length ≤ bytes.length := by
  induction bytes with
  | nil => exact Nat.le_refl _
  | cons byte bytes ih =>
    simp only [readFlags]
    split
    · exact Nat.le_succ_of_le ih
    · exact Nat.le_refl _

theorem length_readSeparator_le (bytes : Bytes) : (readSeparator bytes).2.length ≤ bytes.length := by
  cases bytes with
  | nil => exact Nat.le_refl _
  | cons byte bytes => simp only [readSeparator]; split <;> simp

theorem length_readCount_le (bytes : Bytes) : (readCount bytes).2.length ≤ bytes.length := by
  simp only [readCount]
  split
  · exact Nat.le_refl _
  · exact (List.dropWhile_sublist _).length_le

theorem length_readPrecision_le (bytes : Bytes) : (readPrecision bytes).2.length ≤ bytes.length := by
  unfold readPrecision
  split
  · have shorter := length_readCount_le ‹Bytes›
    simp only [List.length_cons]
    omega
  · exact Nat.le_refl _

theorem length_readLength_le {bytes rest : Bytes} {length : Length} (reading : readLength bytes = .ok (length, rest)) :
    rest.length ≤ bytes.length := by
  unfold readLength at reading
  split at reading <;> cases reading <;> simp +arith

theorem length_readLetter_lt {bytes rest : Bytes} {letter : Letter} (reading : readLetter bytes = .ok (letter, rest)) :
    rest.length < bytes.length := by
  unfold readLetter at reading
  split at reading
  · cases reading
  · split at reading <;> cases reading
    simp

theorem length_read_lt {bytes rest : Bytes} {conversion : Conversion} (reading : read bytes = .ok (conversion, rest)) :
    rest.length < bytes.length := by
  simp only [read, Bind.bind, Except.bind, Pure.pure, Except.pure, throw, throwThe, MonadExceptOf.throw] at reading
  have flags := length_readFlags_le bytes
  have separator := length_readSeparator_le (readFlags bytes).2
  have width := length_readCount_le (readSeparator (readFlags bytes).2).2
  have precision := length_readPrecision_le (readCount (readSeparator (readFlags bytes).2).2).2
  split at reading
  · cases reading
  · cases lengthReading : readLength (readPrecision (readCount (readSeparator (readFlags bytes).2).2).2).2 with
    | error fault => simp [lengthReading] at reading
    | ok pair =>
      obtain ⟨length, afterLength⟩ := pair
      have lengthBound := length_readLength_le lengthReading
      cases letterReading : readLetter afterLength with
      | error fault => simp [lengthReading, letterReading] at reading
      | ok pair =>
        obtain ⟨letter, afterLetter⟩ := pair
        have letterBound := length_readLetter_lt letterReading
        simp only [lengthReading, letterReading, Except.ok.injEq, Prod.mk.injEq] at reading
        rw [← reading.2]
        omega

end BoundedText.Conversion
