import BoundedText.Proofs.Format.Spelling
import BoundedText.Proofs.Numeral

namespace BoundedText

theorem Ascii.getElem?_alphabet {byte : UInt8} (digit : isDigit byte = true) :
    Radix.decimal.alphabet[digitValue byte]? = some byte := by
  have listed : ∀ place < 10, Radix.decimal.alphabet[place]? = some (UInt8.ofNat (place + 48)) := by decide
  simp only [isDigit, Bool.and_eq_true, decide_eq_true_eq, UInt8.le_iff_toNat_le] at digit
  have lower : 48 ≤ byte.toNat := digit.1
  have upper : byte.toNat ≤ 57 := digit.2
  have value : digitValue byte = byte.toNat - 48 := rfl
  rw [value, listed _ (by omega), Nat.sub_add_cancel lower, UInt8.ofNat_toNat]

namespace Conversion

theorem countOfDigits_eq {digits : Bytes} (clean : ∀ byte ∈ digits, Ascii.isDigit byte = true) :
    countOfDigits digits = min (Radix.decimal.read digits) maxCount := by
  have values : digits.reverse.map Ascii.digitValue = digits.reverse.map Radix.decimal.alphabet.idxOf := by
    apply List.map_congr_left
    intro byte member
    have place := Ascii.getElem?_alphabet (clean byte (List.mem_reverse.mp member))
    exact (Radix.idxOf_alphabet Radix.nodup_decimal place).symm
  have capped := DigitRun.foldl_min Ascii.digitValue maxCount 0 digits
  rw [DigitRun.foldl_eq_ofDigits, values] at capped
  exact capped

end Conversion

def Kind.letters : Kind → String
  | signed => "diD"
  | unsigned => "uU"
  | octal => "oO"
  | lowerHex => "x"
  | upperHex => "X"
  | pointer => "p"
  | char => "c"
  | text => "s"
  | real => "aAeEfFgG"
  | percent => "%"

theorem Letter.kind_eq_iff (letter : Letter) (kind : Kind) :
    letter.kind = kind ↔ letter.byte ∈ Bytes.ofString kind.letters := by
  cases letter <;> cases kind <;> decide

namespace Spelling

/-- What the parts say. A numeral past the largest count stands for that count. -/
structure Decodes (spelling : Spelling) (conversion : Conversion) : Prop where
  flags : ∀ flag, conversion.has flag = true ↔ flag ∈ spelling.flags
  separator : conversion.separator = spelling.separator
  width : conversion.width =
    if spelling.width = [] then none else some (min (Radix.decimal.read spelling.width) maxCount)
  precision : conversion.precision =
    spelling.precision.map fun digits => min (Radix.decimal.read digits) maxCount
  length : conversion.length = if spelling.letter ∈ [.D, .O, .U] then .l else spelling.length
  letter : conversion.letter = spelling.letter
  kind : ∀ kind, conversion.letter.kind = kind ↔ spelling.letter.byte ∈ Bytes.ofString kind.letters

theorem width_conversion (spelling : Spelling) : spelling.conversion.width =
    if spelling.width = [] then none else some (min (Radix.decimal.read spelling.width) maxCount) := by
  rw [conversion, count?, Conversion.countOfDigits_eq spelling.width_digits]

theorem precision_conversion (spelling : Spelling) : spelling.conversion.precision =
    spelling.precision.map fun digits => min (Radix.decimal.read digits) maxCount := by
  apply Option.map_congr
  intro digits written
  exact Conversion.countOfDigits_eq (spelling.precision_digits digits written)

theorem decodes_conversion (spelling : Spelling) : spelling.Decodes spelling.conversion where
  flags _ := decide_eq_true_iff
  separator := rfl
  width := spelling.width_conversion
  precision := spelling.precision_conversion
  length := by
    rw [conversion]
    cases spelling.letter <;> rfl
  letter := rfl
  kind := spelling.letter.kind_eq_iff

end Spelling

namespace Conversion

theorem readAt_append (before : Bytes) (spelling : Spelling) (behind : Bytes) :
    readAt (before ++ Ascii.percent :: (spelling.bytes ++ behind)) before.length =
      .ok (spelling.conversion, before.length + (spelling.bytes.length + 1)) := by
  have standing : (before ++ Ascii.percent :: (spelling.bytes ++ behind)).drop (before.length + 1) =
      spelling.bytes ++ behind := by
    rw [← List.drop_drop, List.drop_left, List.drop_one, List.tail_cons]
  have next : (before ++ Ascii.percent :: (spelling.bytes ++ behind)).length - behind.length =
      before.length + (spelling.bytes.length + 1) := by
    simp only [List.length_append, List.length_cons]
    omega
  simp only [readAt, standing, read_append, next]

theorem exists_spelling_of_readAt {format : Bytes} {start next : Nat} {conversion : Conversion}
    (percent : format[start]? = some Ascii.percent) (reading : readAt format start = .ok (conversion, next)) :
    ∃ (before : Bytes) (spelling : Spelling) (behind : Bytes),
      format = before ++ Ascii.percent :: (spelling.bytes ++ behind) ∧ start = before.length ∧
        next = before.length + (spelling.bytes.length + 1) ∧ conversion = spelling.conversion := by
  obtain ⟨inside, found⟩ := List.getElem?_eq_some_iff.mp percent
  have split : format = format.take start ++ Ascii.percent :: format.drop (start + 1) := by
    rw [← found, List.getElem_cons_drop, List.take_append_drop]
  have front : start = (format.take start).length := (List.length_take_of_le (Nat.le_of_lt inside)).symm
  cases read : read (format.drop (start + 1)) with
  | error fault => simp [readAt, read] at reading
  | ok pair =>
    obtain ⟨asked, behind⟩ := pair
    obtain ⟨spelling, spelled, rfl⟩ := exists_spelling_of_read read
    rw [spelled] at split
    have again := readAt_append (format.take start) spelling behind
    rw [← split, ← front, reading] at again
    cases again
    exact ⟨_, spelling, behind, split, front, congrArg (· + _) front, rfl⟩

/-- Exactly what is spelled by the grammar is read, wherever it stands and whatever follows it, and it is read as
    its parts say. -/
theorem readAt_spelled :
    (∀ (before : Bytes) (spelling : Spelling) (behind : Bytes), ∃ conversion,
      readAt (before ++ Ascii.percent :: (spelling.bytes ++ behind)) before.length =
        .ok (conversion, before.length + (spelling.bytes.length + 1)) ∧ spelling.Decodes conversion) ∧
    ∀ (format : Bytes) (start next : Nat) (conversion : Conversion), format[start]? = some Ascii.percent →
      readAt format start = .ok (conversion, next) →
        ∃ (before : Bytes) (spelling : Spelling) (behind : Bytes),
          format = before ++ Ascii.percent :: (spelling.bytes ++ behind) ∧ start = before.length ∧
            next = before.length + (spelling.bytes.length + 1) ∧ spelling.Decodes conversion := by
  constructor
  · intro before spelling behind
    exact ⟨spelling.conversion, readAt_append before spelling behind, spelling.decodes_conversion⟩
  · intro format start next conversion percent reading
    obtain ⟨before, spelling, behind, split, front, ends, rfl⟩ := exists_spelling_of_readAt percent reading
    exact ⟨before, spelling, behind, split, front, ends, spelling.decodes_conversion⟩

theorem readAt_spelled_all_parts :
    let format := Bytes.ofString "a%0#:08.5hhUb"
    let conversion : Conversion := ⟨[.zero, .alternate], some 0x3a, some 8, some 5, .l, .U⟩
    format[1]? = some Ascii.percent ∧ readAt format 1 = .ok (conversion, 12) ∧ conversion.letter.kind = .unsigned ∧
      ∃ (before : Bytes) (spelling : Spelling) (behind : Bytes),
        format = before ++ Ascii.percent :: (spelling.bytes ++ behind) ∧ 1 = before.length ∧
          12 = before.length + (spelling.bytes.length + 1) ∧ spelling.Decodes conversion := by
  intro format conversion
  have percent : format[1]? = some Ascii.percent := by decide
  have reading : readAt format 1 = .ok (conversion, 12) := by rfl
  obtain ⟨before, spelling, behind, split, front, ends, decodes⟩ :=
    readAt_spelled.2 format 1 12 conversion percent reading
  have letter : spelling.letter.byte ∈ Bytes.ofString Kind.unsigned.letters := by
    rw [← decodes.letter]
    decide
  exact ⟨percent, reading, (decodes.kind .unsigned).mpr letter, before, spelling, behind, split, front, ends, decodes⟩

end Conversion

end BoundedText
