import Mathlib.Algebra.Group.Nat.Defs
import BoundedText.Proofs.Log.Logging

namespace BoundedText

structure Request where
  mode : RealMode
  format : Bytes
  arguments : List Argument

namespace Word

theorem narrow_plain (word : Word) : word.narrow .plain = word := by
  obtain ⟨width, bits⟩ := word
  exact congrArg (Word.mk width) (BitVec.setWidth_eq bits)

theorem signed_ofInt (value : Int32) : (ofInt 32 value.toInt).signed = value.toInt := by
  rw [signed, ofInt, ← Int32.toInt_toBitVec, BitVec.ofInt_toInt]

theorem unsigned_ofInt {width value : Nat} (fits : value < 2 ^ width) : (ofInt width value).unsigned = value := by
  rw [unsigned, ofInt, BitVec.ofInt_natCast, BitVec.toNat_ofNat, Nat.mod_eq_of_lt fits]

end Word

namespace Conversion

variable {conversion : Conversion} (length : conversion.length = .plain)

include length

theorem signedField_ofInt (value : Int32) :
    conversion.signedField (.ofInt 32 value.toInt) = .ofInt value.toInt conversion.otherSign := by
  rw [signedField, length, Word.narrow_plain, Word.signed_ofInt]

theorem unsignedField_ofInt (letter : conversion.letter = .u) {width value : Nat} (fits : value < 2 ^ width) :
    conversion.unsignedField (.ofInt width value) = .ofNat .decimal [] value := by
  rw [unsignedField, length, Word.narrow_plain, Word.unsigned_ofInt fits, letter]
  exact congrArg (Field.ofNat .decimal · value) (ite_self _)

end Conversion

theorem Expansion.splits_ofText (text : Text) : (ofText text).Splits text.toBytes .finished :=
  ⟨(List.append_nil _).symm, rfl⟩

theorem Expansion.Splits.into_eq {first second : Expansion} (same : first.Splits [] second) (buffer : Buffer) :
    first.into buffer = second.into buffer := by
  rw [Expansion.into_eq, Expansion.into_eq, same.1, same.2, List.nil_append]

namespace Entry

/-- The one conversion that shows a key, and the argument it takes. Moments are shown by their digits whatever is to
    become of other real numbers, and the message is a format of its own. -/
def request (entry : Entry) (mode : RealMode) : Key → Request
  | .name => ⟨mode, Bytes.ofString "%s", [.text entry.name]⟩
  | .levelNumber => ⟨mode, Bytes.ofString "%d", [.word (.ofInt 32 entry.levelNumber.toInt)]⟩
  | .levelName => ⟨mode, Bytes.ofString "%s", [.text entry.levelName]⟩
  | .path => ⟨mode, Bytes.ofString "%s", [.text entry.path]⟩
  | .fileName => ⟨mode, Bytes.ofString "%s", [.text entry.fileName]⟩
  | .function => ⟨mode, Bytes.ofString "%s", [.text entry.function]⟩
  | .lineNumber => ⟨mode, Bytes.ofString "%d", [.word (.ofInt 32 entry.lineNumber.toInt)]⟩
  | .created => ⟨.digits, Bytes.ofString "%f", [.real entry.created]⟩
  | .timestamp => ⟨mode, Bytes.ofString "%s", [.text entry.timestamp]⟩
  | .milliseconds => ⟨mode, Bytes.ofString "%03u", [.word (.ofInt 32 entry.milliseconds.toNat)]⟩
  | .threadId => ⟨mode, Bytes.ofString "%u", [.word (.ofInt 64 entry.threadId.toNat)]⟩
  | .threadName => ⟨mode, Bytes.ofString "%s", [.text entry.threadName]⟩
  | .processId => ⟨mode, Bytes.ofString "%d", [.word (.ofInt 32 entry.processId.toInt)]⟩
  | .message => ⟨mode, entry.message, entry.arguments⟩
  | .sinceStart => ⟨.digits, Bytes.ofString "%f", [.real entry.sinceStart]⟩

end Entry

namespace Format

section Single

variable (mode : RealMode)

theorem expand_single (spelling : Spelling) {argument : Argument}
    (fits : spelling.letter.family? = some argument.family) :
    (expand mode (Ascii.percent :: spelling.bytes) [argument]).Splits (spelling.conversion.field mode argument)
      .finished := by
  obtain ⟨success, shown⟩ := expand_conversion spelling fits mode
  exact ⟨shown.trans (List.append_nil _).symm, success⟩

theorem expand_signed (value : Int32) :
    (expand mode (Bytes.ofString "%d") [.word (.ofInt 32 value.toInt)]).Splits (Entry.signedNumber value).toBytes
      .finished := by
  let spelling : Spelling := { letter := .d }
  have field : spelling.conversion.signedField (.ofInt 32 value.toInt) = .ofInt value.toInt .none :=
    Conversion.signedField_ofInt rfl value
  rw [Entry.signedNumber, ← field]
  exact expand_single mode spelling rfl

theorem expand_unsigned {width value : Nat} (fits : value < 2 ^ width) :
    (expand mode (Bytes.ofString "%u") [.word (.ofInt width value)]).Splits
      (Text.ofBytes (Radix.decimal.numeral value)).toBytes .finished := by
  let spelling : Spelling := { letter := .u }
  have field : spelling.conversion.unsignedField (.ofInt width value) = .ofNat .decimal [] value :=
    Conversion.unsignedField_ofInt rfl rfl fits
  have plain : (Text.ofBytes (Radix.decimal.numeral value)).toBytes =
      (Layout.plain.place (.ofNat .decimal [] value)).toBytes := by
    rw [Layout.toBytes_plain, Field.ofNat, Body.toBytes_text_ofBytes, Text.toBytes_ofBytes]
    rfl
  rw [plain, ← field]
  exact expand_single mode spelling rfl

theorem expand_zeroPadded {width value : Nat} (fits : value < 2 ^ width) :
    (expand mode (Bytes.ofString "%03u") [.word (.ofInt width value)]).Splits
      ((Layout.zeroPadded 3).place (.ofNat .decimal [] value)).toBytes .finished := by
  let spelling : Spelling :=
    { flags := [.zero], width := [0x33], letter := .u, width_digits := List.forall_mem_singleton.mpr rfl }
  have field : spelling.conversion.unsignedField (.ofInt width value) = .ofNat .decimal [] value :=
    Conversion.unsignedField_ofInt rfl rfl fits
  rw [← field]
  exact expand_single mode spelling rfl

theorem expand_seconds (number : Binary64) :
    (expand .digits (Bytes.ofString "%f") [.real number]).Splits (Entry.seconds number).toBytes .finished :=
  expand_single .digits { letter := .f } rfl

end Single

end Format

namespace Entry

theorem expand_request (entry : Entry) (mode : RealMode) (key : Key) :
    let request := entry.request mode key
    (entry.expand mode key).Splits [] (Format.expand request.mode request.format request.arguments) := by
  cases key with
  | name | levelName | path | fileName | function | timestamp | threadName =>
    apply (Expansion.splits_ofText _).unite
    rw [Text.toBytes_ofBytes]
    exact Format.expand_text mode _
  | levelNumber | lineNumber | processId => exact (Expansion.splits_ofText _).unite (Format.expand_signed mode _)
  | created | sinceStart => exact (Expansion.splits_ofText _).unite (Format.expand_seconds _)
  | milliseconds => exact (Expansion.splits_ofText _).unite (Format.expand_zeroPadded mode entry.milliseconds.toNat_lt)
  | threadId => exact (Expansion.splits_ofText _).unite (Format.expand_unsigned mode entry.threadId.toNat_lt)
  | message => exact .refl _

end Entry

/-- All that an entry shows is written as if a format of one conversion had been asked for it. -/
theorem Buffer.writeKey_eq_format (buffer : Buffer) (mode : RealMode) (entry : Entry) (key : Key) :
    let request := entry.request mode key
    buffer.writeKey mode entry key = buffer.format request.mode request.format request.arguments := by
  intro request
  rw [writeKey_eq, format_eq]
  exact (entry.expand_request mode key).into_eq buffer

end BoundedText
