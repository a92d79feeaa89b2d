import BoundedText.Slice
import BoundedText.Proofs.Format.Verdict

namespace BoundedText

def Fault.behind (taken : Nat) : Fault → Fault
  | missingArgument index => .missingArgument (index + taken)
  | argumentMismatch index letter => .argumentMismatch (index + taken) letter
  | fault => fault

/-- The same error in a format with so many bytes in front that take so many arguments. -/
def FormatError.behind (length taken : Nat) (error : FormatError) : FormatError :=
  ⟨error.fault.behind taken, error.offset + length⟩

namespace Segment

theorem spell_append (front behind : List Segment) : spell (front ++ behind) = spell front ++ spell behind :=
  List.flatMap_append

theorem wanting_append (front behind : List Segment) : wanting (front ++ behind) = wanting front ++ wanting behind :=
  List.filterMap_append

theorem Fit.append {front behind : List Segment} {taken others : List Argument} (fit : Fit front taken)
    (exhausted : (wanting front).length = taken.length) (fitBehind : Fit behind others) (mode : RealMode) :
    Fit (front ++ behind) (taken ++ others) ∧
      output mode (front ++ behind) (taken ++ others) = output mode front taken ++ output mode behind others := by
  induction front generalizing taken with
  | nil =>
    obtain rfl : taken = [] := List.eq_nil_of_length_eq_zero exhausted.symm
    exact ⟨fitBehind, rfl⟩
  | cons segment front ih =>
    cases wants : segment.wanting? with
    | none =>
      rw [fit_cons_of_none wants] at fit
      rw [wanting_cons_of_none wants] at exhausted
      obtain ⟨united, written⟩ := ih fit exhausted
      rw [List.cons_append, fit_cons_of_none wants, output_cons_of_none wants, output_cons_of_none wants, written,
        List.append_assoc]
      exact ⟨united, congrArg (· ++ _) (text_of_none wants mode _ _ _ _)⟩
    | some conversion =>
      obtain ⟨argument, rest, rfl, fits, fit⟩ := (fit_cons_of_some wants front taken).mp fit
      rw [wanting_cons_of_some wants, List.length_cons, List.length_cons, Nat.add_right_cancel_iff] at exhausted
      obtain ⟨united, written⟩ := ih fit exhausted
      rw [List.cons_append, List.cons_append, fit_cons_of_some wants, output_cons_of_some wants,
        output_cons_of_some wants, written, List.append_assoc]
      exact ⟨⟨argument, _, rfl, fits, united⟩, rfl⟩

end Segment

theorem Conversion.behind_of_read {bytes : Bytes} {fault : Fault} (reading : read bytes = .error fault) (taken : Nat) :
    fault.behind taken = fault := by
  simp only [read, Bind.bind, Except.bind, Pure.pure, Except.pure, throw, throwThe, MonadExceptOf.throw] at reading
  split at reading
  · cases reading
    rfl
  cases lengthRead : readLength (readPrecision (readCount (readSeparator (readFlags bytes).2).2).2).2 with
  | error other =>
    obtain rfl : other = fault := by simpa [lengthRead] using reading
    unfold readLength at lengthRead
    split at lengthRead <;> cases lengthRead <;> rfl
  | ok pair =>
    obtain ⟨length, behindLength⟩ := pair
    cases letterRead : readLetter behindLength with
    | error other =>
      obtain rfl : other = fault := by simpa [lengthRead, letterRead] using reading
      unfold readLetter at letterRead
      split at letterRead
      · cases letterRead
        rfl
      · split at letterRead <;> cases letterRead
        rfl
    | ok pair => simp [lengthRead, letterRead] at reading

namespace Format

theorem refusal?_behind {supply : Supply} {behind : Bytes} {fault : Fault}
    (refused : refusal? supply behind = some fault) (taken : Nat) :
    refusal? ⟨supply.rest, supply.taken + taken⟩ behind = some (fault.behind taken) := by
  simp only [refusal?] at refused ⊢
  cases reading : Conversion.read behind with
  | error other =>
    obtain rfl : other = fault := by simpa [reading] using refused
    simp only [Conversion.behind_of_read reading]
  | ok pair =>
    simp only [reading] at refused ⊢
    obtain ⟨other, cause⟩ := Conversion.refusal?_eq_some refused
    rcases cause with ⟨none, rfl⟩ | ⟨argument, arguments, left, misfit, rfl⟩
    · simp only [Conversion.refusal?, other, none, ↓reduceIte, Fault.behind]
    · simp only [Conversion.refusal?, other, left, misfit, ↓reduceIte, Fault.behind]

end Format

namespace Buffer

open Format Segment

theorem exists_segments_of_format {buffer : Buffer} {mode : RealMode} {format : Bytes} {arguments : List Argument}
    {cursor : Nat} (succeeds : (buffer.format mode format arguments).result = .ok cursor) :
    ∃ segments, spell segments = format.upToNul ∧ Fit segments arguments := by
  obtain ⟨segments, rest, split, fit, ending⟩ := readable ⟨arguments, 0⟩ format.upToNul
  rcases ending with rfl | ⟨behind, fault, rfl, refused⟩
  · rw [List.append_nil] at split
    exact ⟨segments, split, fit⟩
  · rw [format_of_refusal split fit refused] at succeeds
    cases succeeds

theorem format_spell_append {segments : List Segment} {taken : List Argument} (clean : 0 ∉ spell segments)
    (fit : Fit segments taken) (exhausted : (Segment.wanting segments).length = taken.length) (buffer : Buffer)
    (mode : RealMode) (behind : Bytes) (others : List Argument) :
    let second := (buffer.append (output mode segments taken)).format mode behind others
    buffer.format mode (spell segments ++ behind) (taken ++ others) =
      ⟨second.buffer, second.result.mapError (.behind (spell segments).length taken.length)⟩ := by
  intro second
  obtain ⟨following, rest, split, fitBehind, ending⟩ := readable ⟨others, 0⟩ behind.upToNul
  obtain ⟨united, written⟩ := fit.append exhausted fitBehind mode
  have cut := Bytes.upToNul_append clean behind
  rcases ending with rfl | ⟨refusedBytes, fault, rfl, refused⟩
  · rw [List.append_nil] at split
    have spelled : spell (segments ++ following) = (spell segments ++ behind).upToNul := by
      rw [spell_append, cut, split]
    simp only [second, format_of_fit spelled united, format_of_fit split fitBehind, written, append_append]
    rfl
  · have spelled : spell (segments ++ following) ++ Ascii.percent :: refusedBytes =
        (spell segments ++ behind).upToNul := by
      rw [spell_append, cut, ← split, List.append_assoc]
    have left : Supply.advance ⟨taken ++ others, 0⟩ (Segment.wanting (segments ++ following)).length =
        ⟨(Supply.advance ⟨others, 0⟩ (Segment.wanting following).length).rest,
          (Supply.advance ⟨others, 0⟩ (Segment.wanting following).length).taken + taken.length⟩ := by
      rw [wanting_append, List.length_append, exhausted]
      simp only [Supply.advance, List.drop_length_add_append, Nat.zero_add, Nat.add_comm]
    have refusedBoth := refusal?_behind refused taken.length
    rw [← left] at refusedBoth
    simp only [second, format_of_refusal spelled united refusedBoth, format_of_refusal split fitBehind refused, written,
      append_append, spell_append, List.length_append]
    rw [Nat.add_comm]
    rfl

end Buffer

namespace Slice

open Segment

/-- A format that takes all of its arguments can be continued by any other: filling in both at once leaves the same
    bytes as filling in the second where the first has ended, and fails for the same cause at the same place. -/
theorem format_append (slice : Bytes) (cursor : Nat) (mode : RealMode) {front : Bytes} {taken : List Argument}
    {resume : Nat} (clean : 0 ∉ front) (succeeds : (format slice cursor mode front taken).result = .ok resume)
    (exhausted : (Format.wanting front).length = taken.length) (behind : Bytes) (others : List Argument) :
    let first := format slice cursor mode front taken
    let second := format first.slice resume mode behind others
    let whole := format slice cursor mode (front ++ behind) (taken ++ others)
    whole.slice = second.slice ∧ whole.result = second.result.mapError (.behind front.length taken.length) := by
  intro first second whole
  obtain ⟨segments, spelled, fit⟩ := Buffer.exists_segments_of_format succeeds
  rw [Format.wanting_of_spell spelled] at exhausted
  have ran : first = (Outcome.done ((Buffer.openAt slice cursor).append (output mode segments taken))).close :=
    congrArg Outcome.close (Buffer.format_of_fit spelled fit _ mode)
  rw [Bytes.upToNul_of_not_mem clean] at spelled
  subst spelled
  have ended : resume = ((Buffer.openAt slice cursor).append (output mode segments taken)).cursor := by
    have answered : first.result = .ok resume := succeeds
    rw [ran] at answered
    exact (Except.ok.inj answered).symm
  have resumed :
      Buffer.openAt first.slice resume = (Buffer.openAt slice cursor).append (output mode segments taken) := by
    rw [ran, ended]
    exact Buffer.bytes_openAt_cursor _
  have joined := Buffer.format_spell_append clean fit exhausted (Buffer.openAt slice cursor) mode behind others
  rw [← resumed] at joined
  have bytes := congrArg (fun outcome => outcome.buffer.bytes) joined
  have result := congrArg Outcome.result joined
  exact ⟨bytes, result⟩

theorem format_append_second_mismatched :
    let slice : Bytes := [0x2e, 0x2e, 0x2e]
    let front : Bytes := [0x61, 0x25, 0x63]
    let behind : Bytes := [0x25, 0x64]
    let whole := format slice 0 .digits (front ++ behind) ([.char 'z'] ++ [.text [0x78]])
    0 ∉ front ∧ (format slice 0 .digits front [.char 'z']).result = .ok 2 ∧ (Format.wanting front).length = 1 ∧
      whole.slice = [0x61, 0x7a, 0] ∧ whole.result = .error ⟨.argumentMismatch 1 0x64, 3⟩ := by
  intro slice front behind whole
  let segments : List Segment := [.literal [0x61] (by decide), .conversion { letter := .c }]
  have spelled : spell segments = front.upToNul := by decide
  have fit : Fit segments [.char 'z'] :=
    (fit_cons_of_none rfl _ _).mpr ((fit_cons_of_some rfl _ _).mpr ⟨.char 'z', [], rfl, rfl, fit_nil _⟩)
  have exhausted : (Format.wanting front).length = 1 := by
    rw [Format.wanting_of_spell spelled]
    rfl
  have first := congrArg Outcome.close (Buffer.format_of_fit spelled fit (Buffer.openAt slice 0) .digits)
  have succeeds : (format slice 0 .digits front [.char 'z']).result = .ok 2 := congrArg Written.result first
  have left : (format slice 0 .digits front [.char 'z']).slice = [0x61, 0x7a, 0] := congrArg Written.slice first
  have refused : spell [] ++ Ascii.percent :: [0x64] = behind.upToNul := by decide
  have second := congrArg Outcome.close
    (Buffer.format_of_refusal refused (fit_nil [.text [0x78]]) rfl (Buffer.openAt [0x61, 0x7a, 0] 2) .digits)
  obtain ⟨bytes, result⟩ :=
    format_append slice 0 .digits (by decide) succeeds exhausted behind [.text [0x78]]
  rw [left] at bytes result
  exact ⟨by decide, succeeds, exhausted, bytes.trans (congrArg Written.slice second),
    result.trans (congrArg (Except.mapError _) (congrArg Written.result second))⟩

end Slice

end BoundedText
