import BoundedText.Proofs.Format.Verdict

namespace BoundedText

namespace Conversion

section Stopped

variable {bytes rest : Bytes}

theorem readFlags_stopped {flags : List Flag} (reading : readFlags bytes = (flags, rest)) (stopped : rest ≠ [])
    (behind : Bytes) : readFlags (bytes ++ behind) = (flags, rest ++ behind) := by
  induction bytes generalizing flags with
  | nil =>
    cases reading
    contradiction
  | cons byte bytes ih =>
    rw [List.cons_append]
    cases found : Flag.ofByte? byte with
    | none =>
      simp only [readFlags, found] at reading ⊢
      cases reading
      rfl
    | some flag =>
      simp only [readFlags, found, Prod.mk.injEq] at reading ⊢
      obtain ⟨rfl, same⟩ := reading
      have others := ih (Prod.ext rfl same)
      rw [others]
      exact ⟨rfl, rfl⟩

theorem readSeparator_stopped {separator : Option UInt8} (reading : readSeparator bytes = (separator, rest))
    (stopped : rest ≠ []) (behind : Bytes) : readSeparator (bytes ++ behind) = (separator, rest ++ behind) := by
  cases bytes with
  | nil =>
    cases reading
    contradiction
  | cons byte bytes =>
    rw [List.cons_append]
    by_cases mark : isSeparator byte = true
    · simp only [readSeparator, mark, ↓reduceIte] at reading ⊢
      cases reading
      rfl
    · simp only [readSeparator, mark, Bool.false_eq_true, ↓reduceIte] at reading ⊢
      cases reading
      rfl

theorem readCount_stopped {count? : Option Nat} (reading : readCount bytes = (count?, rest)) (stopped : rest ≠ [])
    (behind : Bytes) : readCount (bytes ++ behind) = (count?, rest ++ behind) := by
  obtain ⟨digits, tail, rfl, clean, ending⟩ := LeadingRun.exists_split Ascii.isDigit bytes
  rw [readCount_append clean ending] at reading
  cases reading
  rw [List.append_assoc]
  apply readCount_append clean
  cases rest with
  | nil => contradiction
  | cons byte rest => exact ending

theorem readPrecision_stopped {count? : Option Nat} (reading : readPrecision bytes = (count?, rest))
    (stopped : rest ≠ []) (behind : Bytes) : readPrecision (bytes ++ behind) = (count?, rest ++ behind) := by
  cases bytes with
  | nil =>
    cases reading
    contradiction
  | cons byte bytes =>
    rw [List.cons_append]
    by_cases point : byte = Ascii.point
    · subst point
      rw [readPrecision_point] at reading ⊢
      cases counting : readCount bytes with | mk counted others
      rw [counting] at reading
      cases reading
      rw [readCount_stopped counting stopped]
    · have other (tail : Bytes) : (byte :: tail).head? ≠ some Ascii.point := by simpa using point
      rw [readPrecision_of_head (other _)] at reading ⊢
      cases reading
      rfl

theorem readLength_stopped {length : Length} (reading : readLength bytes = .ok (length, rest)) (stopped : rest ≠ [])
    (behind : Bytes) : readLength (bytes ++ behind) = .ok (length, rest ++ behind) := by
  obtain ⟨byte, tail, rfl⟩ := List.exists_cons_of_ne_nil stopped
  have kept {first : UInt8} (other : ∀ rest, byte :: tail = first :: rest → False) (rest : Bytes) :
      byte :: tail ++ behind = first :: rest → False :=
    fun same => other tail (congrArg (· :: tail) (List.cons.inj same).1)
  unfold readLength at reading
  split at reading <;> cases reading
  case h_2 h => exact readLength.eq_2 _ (kept h)
  case h_4 l => exact readLength.eq_4 _ (kept l)
  case h_10 hh h ll l j t z q capitalL =>
    exact readLength.eq_10 _ (fun _ => kept h _) (kept h) (fun _ => kept l _) (kept l) (kept j) (kept t) (kept z)
      (kept q) (kept capitalL)
  all_goals rfl

theorem readLength_refused {fault : Fault} (reading : readLength bytes = .error fault) :
    fault ≠ .incompleteConversion ∧ ∀ behind, readLength (bytes ++ behind) = .error fault := by
  unfold readLength at reading
  split at reading <;> cases reading
  all_goals
    refine ⟨?_, fun behind => rfl⟩
    intro incomplete
    cases incomplete

theorem readLetter_append (byte : UInt8) (rest behind : Bytes) :
    readLetter (byte :: rest ++ behind) = (readLetter (byte :: rest)).map (Prod.map id (· ++ behind)) := by
  simp only [List.cons_append, readLetter]
  cases Letter.ofByte? byte <;> rfl

theorem eq_nil_of_readLetter (incomplete : readLetter bytes = .error .incompleteConversion) : bytes = [] := by
  unfold readLetter at incomplete
  split at incomplete
  · rfl
  · split at incomplete <;> cases incomplete

end Stopped

theorem read_of_complete {bytes : Bytes} (complete : read bytes ≠ .error .incompleteConversion) (behind : Bytes) :
    read (bytes ++ behind) = (read bytes).map (Prod.map id (· ++ behind)) := by
  cases flagsRead : readFlags bytes with | mk flags behindFlags
  cases separatorRead : readSeparator behindFlags with | mk separator behindSeparator
  cases widthRead : readCount behindSeparator with | mk width behindWidth
  cases precisionRead : readPrecision behindWidth with | mk precision behindPrecision
  have reading := read_of_parts flagsRead separatorRead widthRead precisionRead
  -- What is read last has not come to the end, so nothing before it has.
  have widthStopped : behindWidth ≠ [] := by
    rintro rfl
    cases precisionRead
    exact complete reading
  have separatorStopped : behindSeparator ≠ [] := by
    rintro rfl
    cases widthRead
    contradiction
  have flagsStopped : behindFlags ≠ [] := by
    rintro rfl
    cases separatorRead
    contradiction
  have sameHead : (behindWidth ++ behind).head? = behindWidth.head? := by
    obtain ⟨byte, tail, rfl⟩ := List.exists_cons_of_ne_nil widthStopped
    rfl
  have again {others : Option Nat × Bytes} (counted : readPrecision (behindWidth ++ behind) = others) :=
    read_of_parts (readFlags_stopped flagsRead flagsStopped behind)
      (readSeparator_stopped separatorRead separatorStopped behind) (readCount_stopped widthRead widthStopped behind)
      counted
  by_cases dollar : behindWidth.head? = some Ascii.dollar
  · rw [reading, again rfl, sameHead, if_pos dollar, if_pos dollar]
    rfl
  rw [if_neg dollar] at reading
  have precisionStopped : behindPrecision ≠ [] := by
    rintro rfl
    exact complete reading
  rw [again (readPrecision_stopped precisionRead precisionStopped behind), sameHead, if_neg dollar, reading]
  cases lengthRead : readLength behindPrecision with
  | error fault =>
    rw [(readLength_refused lengthRead).2]
    rfl
  | ok pair =>
    obtain ⟨length, behindLength⟩ := pair
    have lengthStopped : behindLength ≠ [] := by
      rintro rfl
      rw [lengthRead] at reading
      exact complete reading
    obtain ⟨byte, tail, rfl⟩ := List.exists_cons_of_ne_nil lengthStopped
    simp only [readLength_stopped lengthRead lengthStopped, readLetter_append]
    cases readLetter (byte :: tail) <;> rfl

theorem exists_spelling_of_incomplete {bytes : Bytes} (incomplete : read bytes = .error .incompleteConversion)
    (letter : Letter) : ∃ spelling : Spelling, spelling.letter = letter ∧ spelling.bytes = bytes ++ [letter.byte] := by
  cases flagsRead : readFlags bytes with | mk flags behindFlags
  cases separatorRead : readSeparator behindFlags with | mk separator behindSeparator
  cases widthRead : readCount behindSeparator with | mk width? behindWidth
  cases precisionRead : readPrecision behindWidth with | mk precision? behindPrecision
  rw [read_of_parts flagsRead separatorRead widthRead precisionRead] at incomplete
  split at incomplete
  · cases incomplete
  cases lengthRead : readLength behindPrecision with
  | error fault =>
    rw [lengthRead] at incomplete
    exact absurd (Except.error.inj incomplete) (readLength_refused lengthRead).1
  | ok pair =>
    obtain ⟨length, behindLength⟩ := pair
    have letterRead : readLetter behindLength = .error .incompleteConversion := by
      cases letterRead : readLetter behindLength with
      | error fault =>
        simp only [lengthRead, letterRead] at incomplete
        rw [Except.error.inj incomplete]
      | ok pair => simp [lengthRead, letterRead] at incomplete
    obtain rfl := eq_nil_of_readLetter letterRead
    have flagsSplit := (readFlags_spelled flagsRead).1
    obtain ⟨separatorSplit, mark⟩ := readSeparator_spelled separatorRead
    obtain ⟨width, widthSplit, widthDigits, -⟩ := readCount_spelled widthRead
    obtain ⟨precision, precisionSplit, precisionDigits, -⟩ := readPrecision_spelled precisionRead
    obtain ⟨spelling, same, spelled⟩ := Spelling.exists_of_parts flags length letter mark widthDigits precisionDigits
    refine ⟨spelling, same, ?_⟩
    simp only [spelled, flagsSplit, separatorSplit, widthSplit, precisionSplit, readLength_spelled lengthRead,
      List.append_assoc, List.nil_append]

def readingBehind (length : Nat) : Except FormatError (Conversion × Nat) → Except FormatError (Conversion × Nat)
  | .ok (conversion, next) => .ok (conversion, length + next)
  | .error ⟨fault, offset⟩ => .error ⟨fault, length + offset⟩

section Placed

variable {format : Bytes} {start : Nat}

theorem lt_length_of_percent (percent : format[start]? = some Ascii.percent) : start < format.length :=
  (List.getElem?_eq_some_iff.mp percent).1

theorem readAt_append_of_complete (percent : format[start]? = some Ascii.percent)
    (complete : readAt format start ≠ .error ⟨.incompleteConversion, start⟩) (extension : Bytes) :
    readAt (format ++ extension) start = readAt format start := by
  have within := lt_length_of_percent percent
  have settled : read (format.drop (start + 1)) ≠ .error .incompleteConversion := by
    intro incomplete
    apply complete
    rw [readAt, incomplete]
  have same := read_of_complete settled extension
  rw [← List.drop_append_of_le_length within] at same
  simp only [readAt, same]
  cases read (format.drop (start + 1)) with
  | error fault => rfl
  | ok pair =>
    obtain ⟨conversion, rest⟩ := pair
    simp only [Except.map, Prod.map, id_eq, List.length_append, Nat.add_sub_add_right]

theorem next_le_length {conversion : Conversion} {next : Nat} (reading : readAt format start = .ok (conversion, next)) :
    next ≤ format.length := by
  unfold readAt at reading
  split at reading <;> cases reading
  exact Nat.sub_le _ _

theorem exists_completion (percent : format[start]? = some Ascii.percent)
    (incomplete : readAt format start = .error ⟨.incompleteConversion, start⟩) (letter : Letter) :
    ∃ conversion, readAt (format ++ [letter.byte]) start = .ok (conversion, format.length + 1) := by
  have within := lt_length_of_percent percent
  have missing : read (format.drop (start + 1)) = .error .incompleteConversion := by
    unfold readAt at incomplete
    split at incomplete <;> cases incomplete
    assumption
  obtain ⟨spelling, -, spelled⟩ := exists_spelling_of_incomplete missing letter
  have reading := read_append spelling []
  rw [List.append_nil, spelled, ← List.drop_append_of_le_length within] at reading
  refine ⟨spelling.conversion, ?_⟩
  simp only [readAt, reading, List.length_append, List.length_singleton, List.length_nil, Nat.sub_zero]

theorem readAt_incomplete_iff (percent : format[start]? = some Ascii.percent) :
    readAt format start = .error ⟨.incompleteConversion, start⟩ ↔
      ∃ extension conversion next, readAt (format ++ extension) start = .ok (conversion, next) ∧
        format.length < next := by
  constructor
  · intro incomplete
    obtain ⟨conversion, reading⟩ := exists_completion percent incomplete .d
    exact ⟨_, conversion, _, reading, Nat.lt_succ_self _⟩
  · rintro ⟨extension, conversion, next, reading, beyond⟩
    by_cases incomplete : readAt format start = .error ⟨.incompleteConversion, start⟩
    · exact incomplete
    · rw [readAt_append_of_complete percent incomplete] at reading
      exact absurd (next_le_length reading) (Nat.not_le_of_lt beyond)

theorem readAt_behind (before format : Bytes) (start : Nat) :
    readAt (before ++ format) (before.length + start) = readingBehind before.length (readAt format start) := by
  have standing : (before ++ format).drop (before.length + start + 1) = format.drop (start + 1) := by
    rw [Nat.add_assoc, List.drop_length_add_append]
  simp only [readAt, standing]
  cases reading : read (format.drop (start + 1)) with
  | error fault => rfl
  | ok pair =>
    obtain ⟨conversion, rest⟩ := pair
    have shorter := length_read_lt reading
    rw [List.length_drop] at shorter
    simp only [readingBehind, List.length_append, Except.ok.injEq, Prod.mk.injEq, true_and]
    omega

end Placed

end Conversion

namespace Buffer

open Format Segment

theorem readAt_of_incomplete {buffer : Buffer} {mode : RealMode} {format : Bytes} {arguments : List Argument}
    {offset : Nat} (failed : (buffer.format mode format arguments).result = .error ⟨.incompleteConversion, offset⟩) :
    format.upToNul[offset]? = some Ascii.percent ∧
      Conversion.readAt format.upToNul offset = .error ⟨.incompleteConversion, offset⟩ := by
  obtain ⟨segments, rest, split, fit, ending⟩ := readable ⟨arguments, 0⟩ format.upToNul
  rcases ending with rfl | ⟨behind, fault, rfl, refused⟩
  · rw [List.append_nil] at split
    rw [format_of_fit split fit] at failed
    cases failed
  rw [format_of_refusal split fit refused] at failed
  cases failed
  have missing : Conversion.read behind = .error .incompleteConversion := by
    simp only [refusal?] at refused
    split at refused
    · rename_i reading
      rw [reading, Option.some.inj refused]
    · obtain ⟨-, cause⟩ := Conversion.refusal?_eq_some refused
      rcases cause with ⟨-, impossible⟩ | ⟨-, -, -, -, impossible⟩ <;> cases impossible
  have here := Conversion.readAt_behind (spell segments) (Ascii.percent :: behind) 0
  rw [split, Nat.add_zero] at here
  refine ⟨?_, ?_⟩
  · rw [← split, List.getElem?_append_right (Nat.le_refl _), Nat.sub_self]
    rfl
  · rw [here, Conversion.readAt, Nat.zero_add, List.drop_one, List.tail_cons, missing]
    rfl

end Buffer

namespace Conversion

/-- Of a format nothing counts but what stands from the percent sign up to where its conversion is decided. Only
    where nothing is decided before the end, and some text could still follow that is read with it, it is called
    incomplete. -/
theorem readAt_incremental :
    (∀ (format : Bytes) (start : Nat), format[start]? = some Ascii.percent →
      (readAt format start ≠ .error ⟨.incompleteConversion, start⟩ →
        ∀ extension, readAt (format ++ extension) start = readAt format start) ∧
      (readAt format start = .error ⟨.incompleteConversion, start⟩ ↔
        ∃ extension conversion next, readAt (format ++ extension) start = .ok (conversion, next) ∧
          format.length < next) ∧
      readAt format start = readingBehind start (readAt (format.drop start) 0) ∧
      ∀ before, readAt (before ++ format) (before.length + start) = readingBehind before.length (readAt format start)) ∧
    ∀ (buffer : Buffer) (mode : RealMode) (format : Bytes) (arguments : List Argument) (offset : Nat),
      (buffer.format mode format arguments).result = .error ⟨.incompleteConversion, offset⟩ →
        format.upToNul[offset]? = some Ascii.percent ∧
        readAt format.upToNul offset = .error ⟨.incompleteConversion, offset⟩ ∧
        ∃ extension conversion, 0 ∉ extension ∧ extension ≠ [] ∧
          readAt (format.upToNul ++ extension) offset = .ok (conversion, (format.upToNul ++ extension).length) := by
  refine ⟨fun format start percent => ⟨?_, ?_, ?_, ?_⟩, ?_⟩
  · exact readAt_append_of_complete percent
  · exact readAt_incomplete_iff percent
  · have front : (format.take start).length = start :=
      List.length_take_of_le (Nat.le_of_lt (lt_length_of_percent percent))
    have moved := readAt_behind (format.take start) (format.drop start) 0
    rwa [List.take_append_drop, front, Nat.add_zero] at moved
  · exact fun before => readAt_behind before format start
  · intro buffer mode format arguments offset failed
    obtain ⟨percent, incomplete⟩ := Buffer.readAt_of_incomplete failed
    obtain ⟨conversion, completed⟩ := exists_completion percent incomplete .d
    refine ⟨percent, incomplete, [Letter.d.byte], conversion, by decide, List.cons_ne_nil _ _, ?_⟩
    rw [completed, List.length_append, List.length_singleton]

theorem readAt_incremental_single_h :
    let refused := Bytes.ofString "a%-5.hy"
    let format := Bytes.ofString "a%-5.h"
    (refused[1]? = some Ascii.percent ∧ readAt refused 1 ≠ .error ⟨.incompleteConversion, 1⟩ ∧
      ∀ extension, readAt (refused ++ extension) 1 = .error ⟨.unsupportedConversion 0x79, 1⟩) ∧
    (Buffer.void.format .digits format []).result = .error ⟨.incompleteConversion, 1⟩ ∧
      readAt format 1 = .error ⟨.incompleteConversion, 1⟩ ∧
      ∃ extension conversion, 0 ∉ extension ∧ extension ≠ [] ∧
        readAt (format ++ extension) 1 = .ok (conversion, (format ++ extension).length) := by
  intro refused format
  have percent : refused[1]? = some Ascii.percent := by decide
  have reading : readAt refused 1 = .error ⟨.unsupportedConversion 0x79, 1⟩ := by rfl
  have complete : readAt refused 1 ≠ .error ⟨.incompleteConversion, 1⟩ := by
    rw [reading]
    intro same
    cases same
  have kept := (readAt_incremental.1 refused 1 percent).1 complete
  rw [reading] at kept
  let segments : List Segment := [.literal [0x61] (by decide)]
  have fit : Segment.Fit segments [] := (Segment.fit_cons_of_none rfl _ _).mpr (Segment.fit_nil _)
  have split : Segment.spell segments ++ Ascii.percent :: Bytes.ofString "-5.h" = format.upToNul := by decide
  have failed := congrArg Outcome.result (Buffer.format_of_refusal split fit rfl .void .digits)
  obtain ⟨-, incomplete, completion⟩ := readAt_incremental.2 .void .digits format [] 1 failed
  exact ⟨⟨percent, complete, kept⟩, failed, incomplete, completion⟩

end Conversion

end BoundedText
