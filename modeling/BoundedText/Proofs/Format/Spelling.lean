import BoundedText.Format.Reading
import BoundedText.Proofs.LeadingRun

namespace BoundedText

namespace Flag

theorem byte_of_ofByte? {byte : UInt8} {flag : Flag} (found : ofByte? byte = some flag) : flag.byte = byte := by
  simpa using List.find?_some found

theorem ofByte?_eq_none {byte : UInt8} (others : ∀ flag : Flag, flag.byte ≠ byte) : ofByte? byte = none := by
  cases found : ofByte? byte with
  | none => rfl
  | some flag => exact absurd (byte_of_ofByte? found) (others flag)

end Flag

theorem Letter.byte_of_ofByte? {byte : UInt8} {letter : Letter} (found : ofByte? byte = some letter) :
    letter.byte = byte := by
  simpa using List.find?_some found

/-- The parts of a conversion as they are written behind its percent sign. A width that is not written has no
    digits. Only behind a separator can it start with a zero, which would otherwise be a flag. -/
structure Spelling where
  flags : List Flag := []
  separator : Option UInt8 := none
  width : Bytes := []
  precision : Option Bytes := none
  length : Length := .plain
  letter : Letter
  separator_mark : ∀ byte ∈ separator, Conversion.isSeparator byte = true := by simp
  width_digits : ∀ byte ∈ width, Ascii.isDigit byte = true := by simp
  width_start : separator = none → width.head? ≠ some Ascii.zero := by decide
  precision_digits : ∀ digits ∈ precision, ∀ byte ∈ digits, Ascii.isDigit byte = true := by simp

namespace Spelling

def precisionBytes : Option Bytes → Bytes
  | none => []
  | some digits => Ascii.point :: digits

def bytes (spelling : Spelling) : Bytes :=
  spelling.flags.map Flag.byte ++ (spelling.separator.toList ++ (spelling.width ++
    (precisionBytes spelling.precision ++ (Bytes.ofString spelling.length.spelling ++ [spelling.letter.byte]))))

def count? (digits : Bytes) : Option Nat := if digits = [] then none else some (Conversion.countOfDigits digits)

def conversion (spelling : Spelling) : Conversion where
  flags := spelling.flags
  separator := spelling.separator
  width := count? spelling.width
  precision := spelling.precision.map Conversion.countOfDigits
  length := spelling.letter.ownLength?.getD spelling.length
  letter := spelling.letter

theorem zero_not_mem_bytes (spelling : Spelling) : 0 ∉ spelling.bytes := by
  simp only [bytes, List.mem_append, not_or]
  refine ⟨?_, fun mark => ?_, fun digit => ?_, ?_, ?_, ?_⟩
  · rintro flag
    obtain ⟨flag, -, same⟩ := List.mem_map.mp flag
    cases flag <;> exact absurd same (by decide)
  · exact absurd (spelling.separator_mark 0 (Option.mem_toList.mp mark)) (by decide)
  · exact absurd (spelling.width_digits 0 digit) (by decide)
  · cases written : spelling.precision with
    | none => exact List.not_mem_nil
    | some digits =>
      intro digit
      rcases List.mem_cons.mp digit with point | digit
      · exact absurd point (by decide)
      · exact absurd (spelling.precision_digits digits written 0 digit) (by decide)
  · cases spelling.length <;> decide
  · cases spelling.letter <;> decide

theorem exists_of_parts (flags : List Flag) {separator : Option UInt8} {width : Bytes} {precision : Option Bytes}
    (length : Length) (letter : Letter) (mark : ∀ byte ∈ separator, Conversion.isSeparator byte = true)
    (widthDigits : ∀ byte ∈ width, Ascii.isDigit byte = true)
    (precisionDigits : ∀ digits ∈ precision, ∀ byte ∈ digits, Ascii.isDigit byte = true) :
    ∃ spelling : Spelling, spelling.letter = letter ∧ spelling.bytes =
      flags.map Flag.byte ++ (separator.toList ++ (width ++ (precisionBytes precision ++
        (Bytes.ofString length.spelling ++ [letter.byte])))) := by
  induction width generalizing flags with
  | nil =>
    exact ⟨⟨flags, separator, [], precision, length, letter, mark, widthDigits, by simp, precisionDigits⟩, rfl, rfl⟩
  | cons digit width ih =>
    by_cases leading : separator = none ∧ digit = Ascii.zero
    · obtain ⟨rfl, rfl⟩ := leading
      obtain ⟨spelling, same, spelled⟩ := ih (flags ++ [.zero]) fun byte member =>
        widthDigits byte (List.mem_cons_of_mem _ member)
      refine ⟨spelling, same, spelled.trans ?_⟩
      simp only [List.map_append, List.append_assoc, Option.toList_none, List.nil_append]
      rfl
    · have start : separator = none → (digit :: width).head? ≠ some Ascii.zero := by
        rintro rfl same
        exact leading ⟨rfl, Option.some.inj same⟩
      exact ⟨⟨flags, separator, _, precision, length, letter, mark, widthDigits, start, precisionDigits⟩, rfl, rfl⟩

end Spelling

namespace Conversion

theorem readFlags_map_byte (flags : List Flag) {rest : Bytes}
    (ending : ∀ byte ∈ rest.head?, Flag.ofByte? byte = none) :
    readFlags (flags.map Flag.byte ++ rest) = (flags, rest) := by
  induction flags with
  | nil =>
    cases rest with
    | nil => rfl
    | cons byte rest => simp only [List.map_nil, List.nil_append, readFlags, ending byte rfl]
  | cons flag flags ih => simp only [List.map_cons, List.cons_append, readFlags, Flag.ofByte?_byte, ih]

theorem readFlags_spelled {bytes rest : Bytes} {flags : List Flag} (reading : readFlags bytes = (flags, rest)) :
    bytes = flags.map Flag.byte ++ rest ∧ rest.head? ≠ some Ascii.zero := by
  induction bytes generalizing flags with
  | nil => cases reading; simp
  | cons byte bytes ih =>
    cases found : Flag.ofByte? byte with
    | none =>
      simp only [readFlags, found, Prod.mk.injEq] at reading
      obtain ⟨rfl, rfl⟩ := reading
      refine ⟨rfl, fun zero => ?_⟩
      rw [List.head?_cons, Option.some.injEq] at zero
      subst zero
      exact absurd found (by decide)
    | some flag =>
      simp only [readFlags, found, Prod.mk.injEq] at reading
      obtain ⟨split, ending⟩ := ih (Prod.ext rfl reading.2)
      refine ⟨?_, ending⟩
      rw [← reading.1, List.map_cons, Flag.byte_of_ofByte? found, List.cons_append, ← split]

theorem readSeparator_toList {separator : Option UInt8} (mark : ∀ byte ∈ separator, isSeparator byte = true)
    {rest : Bytes} (ending : separator = none → ∀ byte ∈ rest.head?, isSeparator byte = false) :
    readSeparator (separator.toList ++ rest) = (separator, rest) := by
  cases separator with
  | some byte => simp [readSeparator, mark byte rfl]
  | none =>
    cases rest with
    | nil => rfl
    | cons byte rest => simp [readSeparator, ending rfl byte rfl]

theorem readSeparator_spelled {bytes rest : Bytes} {separator : Option UInt8}
    (reading : readSeparator bytes = (separator, rest)) :
    bytes = separator.toList ++ rest ∧ ∀ byte ∈ separator, isSeparator byte = true := by
  cases bytes with
  | nil => cases reading; simp
  | cons byte bytes =>
    simp only [readSeparator] at reading
    split at reading <;> cases reading
    · rename_i mark
      exact ⟨rfl, fun _ same => Option.some.inj same ▸ mark⟩
    · exact ⟨rfl, by simp⟩

theorem readCount_append {digits : Bytes} (clean : ∀ byte ∈ digits, Ascii.isDigit byte = true) {rest : Bytes}
    (ending : ∀ byte ∈ rest.head?, Ascii.isDigit byte = false) :
    readCount (digits ++ rest) = (Spelling.count? digits, rest) := by
  obtain ⟨run, behind⟩ := LeadingRun.split_append clean ending
  simp only [readCount, run, behind]
  cases digits <;> simp [Spelling.count?]

theorem readCount_spelled {bytes rest : Bytes} {count? : Option Nat} (reading : readCount bytes = (count?, rest)) :
    ∃ digits, bytes = digits ++ rest ∧ (∀ byte ∈ digits, Ascii.isDigit byte = true) ∧
      Spelling.count? digits = count? := by
  have split := List.takeWhile_append_dropWhile (p := Ascii.isDigit) (l := bytes)
  have clean := List.all_eq_true.mp (List.all_takeWhile (p := Ascii.isDigit) (l := bytes))
  simp only [readCount] at reading
  cases run : bytes.takeWhile Ascii.isDigit with
  | nil =>
    simp only [run, Prod.mk.injEq] at reading
    exact ⟨[], reading.2, by simp, reading.1⟩
  | cons byte digits =>
    simp only [run, Prod.mk.injEq] at reading
    rw [run, reading.2] at split
    exact ⟨byte :: digits, split.symm, run ▸ clean, reading.1⟩

theorem readPrecision_point (rest : Bytes) :
    readPrecision (Ascii.point :: rest) = (some ((readCount rest).1.getD 0), (readCount rest).2) := rfl

theorem readPrecision_of_head {bytes : Bytes} (other : bytes.head? ≠ some Ascii.point) :
    readPrecision bytes = (none, bytes) := by
  unfold readPrecision
  split
  · exact absurd rfl other
  · rfl

theorem getD_count? (digits : Bytes) : (Spelling.count? digits).getD 0 = countOfDigits digits := by
  cases digits <;> rfl

theorem readPrecision_append {precision : Option Bytes}
    (clean : ∀ digits ∈ precision, ∀ byte ∈ digits, Ascii.isDigit byte = true) {rest : Bytes}
    (ending : ∀ byte ∈ rest.head?, Ascii.isDigit byte = false) (other : rest.head? ≠ some Ascii.point) :
    readPrecision (Spelling.precisionBytes precision ++ rest) = (precision.map countOfDigits, rest) := by
  cases precision with
  | none => exact readPrecision_of_head other
  | some digits =>
    rw [Spelling.precisionBytes, List.cons_append, readPrecision_point, readCount_append (clean digits rfl) ending,
      getD_count?, Option.map_some]

theorem readPrecision_spelled {bytes rest : Bytes} {count? : Option Nat}
    (reading : readPrecision bytes = (count?, rest)) :
    ∃ precision, bytes = Spelling.precisionBytes precision ++ rest ∧
      (∀ digits ∈ precision, ∀ byte ∈ digits, Ascii.isDigit byte = true) ∧ precision.map countOfDigits = count? := by
  by_cases point : bytes.head? = some Ascii.point
  · obtain ⟨behind, rfl⟩ := List.head?_eq_some_iff.mp point
    cases counting : readCount behind with | mk counted others
    rw [readPrecision_point, counting, Prod.mk.injEq] at reading
    obtain ⟨rfl, rfl⟩ := reading
    obtain ⟨digits, split, clean, rfl⟩ := readCount_spelled counting
    refine ⟨some digits, ?_, fun _ same => Option.some.inj same ▸ clean, ?_⟩
    · rw [Spelling.precisionBytes, List.cons_append, ← split]
    · rw [getD_count?, Option.map_some]
  · rw [readPrecision_of_head point, Prod.mk.injEq] at reading
    exact ⟨none, reading.2, by simp, reading.1⟩

theorem readLength_append (length : Length) (letter : Letter) (rest : Bytes) :
    readLength (Bytes.ofString length.spelling ++ letter.byte :: rest) = .ok (length, letter.byte :: rest) := by
  cases length <;> cases letter <;> rfl

theorem readLength_spelled {bytes rest : Bytes} {length : Length} (reading : readLength bytes = .ok (length, rest)) :
    bytes = Bytes.ofString length.spelling ++ rest := by
  unfold readLength at reading
  split at reading <;> cases reading <;> rfl

theorem readLetter_cons (letter : Letter) (rest : Bytes) : readLetter (letter.byte :: rest) = .ok (letter, rest) := by
  simp only [readLetter, Letter.ofByte?_byte]

theorem readLetter_spelled {bytes rest : Bytes} {letter : Letter} (reading : readLetter bytes = .ok (letter, rest)) :
    bytes = letter.byte :: rest := by
  unfold readLetter at reading
  split at reading
  · cases reading
  · split at reading <;> cases reading
    rw [Letter.byte_of_ofByte? ‹_›]

theorem ofByte?_of_isDigit {byte : UInt8} (digit : Ascii.isDigit byte = true) (other : byte ≠ Ascii.zero) :
    Flag.ofByte? byte = none := by
  apply Flag.ofByte?_eq_none
  rintro flag rfl
  cases flag with
  | zero => exact other rfl
  | _ => exact absurd digit (by decide)

theorem ofByte?_of_isSeparator {byte : UInt8} (mark : isSeparator byte = true) : Flag.ofByte? byte = none := by
  apply Flag.ofByte?_eq_none
  rintro flag rfl
  cases flag <;> exact absurd mark (by decide)

theorem isSeparator_of_isDigit {byte : UInt8} (digit : Ascii.isDigit byte = true) : isSeparator byte = false := by
  cases mark : isSeparator byte with
  | false => rfl
  | true =>
    simp only [isSeparator, Bool.or_eq_true, beq_iff_eq] at mark
    rcases mark with ((rfl | rfl) | rfl) | rfl <;> exact absurd digit (by decide)

structure EndsWidth (byte : UInt8) : Prop where
  flag : Flag.ofByte? byte = none
  separator : isSeparator byte = false
  digit : Ascii.isDigit byte = false
  dollar : byte ≠ Ascii.dollar

theorem endsWidth_letter (letter : Letter) : EndsWidth letter.byte ∧ letter.byte ≠ Ascii.point := by
  cases letter <;> exact ⟨⟨by decide, by decide, by decide, by decide⟩, by decide⟩

theorem endsWidth_length (length : Length) (letter : Letter) (rest : Bytes) :
    ∃ byte tail, Bytes.ofString length.spelling ++ letter.byte :: rest = byte :: tail ∧ EndsWidth byte ∧
      byte ≠ Ascii.point := by
  cases length with
  | plain => exact ⟨letter.byte, rest, rfl, endsWidth_letter letter⟩
  | _ => exact ⟨_, _, rfl, ⟨by decide, by decide, by decide, by decide⟩, by decide⟩

theorem endsWidth_precision (precision : Option Bytes) {byte : UInt8} {rest : Bytes} (ending : EndsWidth byte) :
    ∃ first tail, Spelling.precisionBytes precision ++ byte :: rest = first :: tail ∧ EndsWidth first := by
  cases precision with
  | none => exact ⟨byte, rest, rfl, ending⟩
  | some digits => exact ⟨Ascii.point, digits ++ byte :: rest, rfl, by decide, by decide, by decide, by decide⟩

theorem read_of_parts {bytes behindFlags behindSeparator behindWidth behindPrecision : Bytes} {flags : List Flag}
    {separator : Option UInt8} {width precision : Option Nat} (flagsRead : readFlags bytes = (flags, behindFlags))
    (separatorRead : readSeparator behindFlags = (separator, behindSeparator))
    (widthRead : readCount behindSeparator = (width, behindWidth))
    (precisionRead : readPrecision behindWidth = (precision, behindPrecision)) :
    read bytes =
      if behindWidth.head? = some Ascii.dollar then .error .positionalArgument
      else
        match readLength behindPrecision with
        | .error fault => .error fault
        | .ok (length, behindLength) =>
          match readLetter behindLength with
          | .error fault => .error fault
          | .ok (letter, rest) =>
            .ok (⟨flags, separator, width, precision, letter.ownLength?.getD length, letter⟩, rest) := by
  simp only [read, flagsRead, separatorRead, widthRead, precisionRead, Bind.bind, Except.bind, Pure.pure, Except.pure,
    throw, throwThe, MonadExceptOf.throw]
  split
  · rfl
  · cases readLength behindPrecision with
    | error fault => rfl
    | ok pair =>
      obtain ⟨length, behindLength⟩ := pair
      cases letterRead : readLetter behindLength <;> simp only [letterRead]

/-- A conversion is read as it is spelled, whatever follows it. -/
theorem read_append (spelling : Spelling) (rest : Bytes) :
    read (spelling.bytes ++ rest) = .ok (spelling.conversion, rest) := by
  -- Each part is followed by a byte that cannot be taken for more of it, so the parts are looked at from the last on.
  obtain ⟨head, tail, lengthSplit, lengthEnds, noPoint⟩ := endsWidth_length spelling.length spelling.letter rest
  obtain ⟨first, others, split, ends⟩ : ∃ first others,
      Spelling.precisionBytes spelling.precision ++ head :: tail = first :: others ∧ EndsWidth first :=
    endsWidth_precision spelling.precision lengthEnds
  have lengthRead := readLength_append spelling.length spelling.letter rest
  rw [lengthSplit] at lengthRead
  have precisionRead : readPrecision (Spelling.precisionBytes spelling.precision ++ head :: tail) =
      (spelling.precision.map countOfDigits, head :: tail) :=
    readPrecision_append spelling.precision_digits (by simp [lengthEnds.digit]) (by simp [noPoint])
  rw [split] at precisionRead
  have widthRead : readCount (spelling.width ++ first :: others) =
      (Spelling.count? spelling.width, first :: others) :=
    readCount_append spelling.width_digits (by simp [ends.digit])
  have separatorRead : readSeparator (spelling.separator.toList ++ (spelling.width ++ first :: others)) =
      (spelling.separator, spelling.width ++ first :: others) := by
    apply readSeparator_toList spelling.separator_mark
    intro _
    cases start : spelling.width with
    | nil => simp [ends.separator]
    | cons digit digits => simp [isSeparator_of_isDigit (spelling.width_digits digit (by simp [start]))]
  have flagsRead : readFlags (spelling.flags.map Flag.byte ++
      (spelling.separator.toList ++ (spelling.width ++ first :: others))) =
      (spelling.flags, spelling.separator.toList ++ (spelling.width ++ first :: others)) := by
    apply readFlags_map_byte
    cases mark : spelling.separator with
    | some byte => simp [ofByte?_of_isSeparator (spelling.separator_mark byte mark)]
    | none =>
      cases start : spelling.width with
      | nil => simp [ends.flag]
      | cons digit digits =>
        have other : digit ≠ Ascii.zero := by simpa [start] using spelling.width_start mark
        simp [ofByte?_of_isDigit (spelling.width_digits digit (by simp [start])) other]
  have whole : spelling.bytes ++ rest = spelling.flags.map Flag.byte ++
      (spelling.separator.toList ++ (spelling.width ++ first :: others)) := by
    simp only [Spelling.bytes, List.append_assoc, List.cons_append, List.nil_append, lengthSplit, split]
  simp only [read, whole, flagsRead, separatorRead, widthRead, List.head?_cons, Option.some.injEq, ends.dollar,
    ↓reduceIte, precisionRead, lengthRead, readLetter_cons, Bind.bind, Except.bind, Pure.pure, Except.pure]
  rfl

theorem exists_spelling_of_read {bytes rest : Bytes} {conversion : Conversion}
    (reading : read bytes = .ok (conversion, rest)) :
    ∃ spelling : Spelling, bytes = spelling.bytes ++ rest ∧ spelling.conversion = conversion := by
  cases flagsRead : readFlags bytes with | mk flags behindFlags
  cases separatorRead : readSeparator behindFlags with | mk separator behindSeparator
  cases widthRead : readCount behindSeparator with | mk width? behindWidth
  cases precisionRead : readPrecision behindWidth with | mk precision? behindPrecision
  rw [read_of_parts flagsRead separatorRead widthRead precisionRead] at reading
  split at reading
  · cases reading
  cases lengthRead : readLength behindPrecision with
  | error fault => simp [lengthRead] at reading
  | ok pair =>
    obtain ⟨length, behindLength⟩ := pair
    cases letterRead : readLetter behindLength with
    | error fault => simp [lengthRead, letterRead] at reading
    | ok pair =>
      obtain ⟨letter, behindLetter⟩ := pair
      simp only [lengthRead, letterRead, Except.ok.injEq, Prod.mk.injEq] at reading
      obtain ⟨rfl, rfl⟩ := reading
      obtain ⟨flagsSplit, flagsEnd⟩ := readFlags_spelled flagsRead
      obtain ⟨separatorSplit, mark⟩ := readSeparator_spelled separatorRead
      obtain ⟨width, widthSplit, widthDigits, rfl⟩ := readCount_spelled widthRead
      obtain ⟨precision, precisionSplit, precisionDigits, rfl⟩ := readPrecision_spelled precisionRead
      have widthStart : separator = none → width.head? ≠ some Ascii.zero := by
        rintro rfl start
        rw [separatorSplit, Option.toList_none, List.nil_append, widthSplit, List.head?_append, start] at flagsEnd
        exact flagsEnd rfl
      refine ⟨⟨flags, separator, width, precision, length, letter, mark, widthDigits, widthStart, precisionDigits⟩,
        ?_, rfl⟩
      simp only [Spelling.bytes, flagsSplit, separatorSplit, widthSplit, precisionSplit,
        readLength_spelled lengthRead, readLetter_spelled letterRead, List.append_assoc, List.singleton_append]

end Conversion

end BoundedText
