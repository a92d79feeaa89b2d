import BoundedText.Proofs.Format.Filling
import BoundedText.Proofs.Format.Spelling

namespace BoundedText

/-- A stretch of a well-formed format: bytes that stand for themselves, or one conversion with its percent sign. -/
inductive Segment where
  | literal (run : Bytes) (plain : Ascii.percent ∉ run)
  | conversion (spelling : Spelling)

namespace Segment

def bytes : Segment → Bytes
  | literal run _ => run
  | conversion spelling => Ascii.percent :: spelling.bytes

def spell (segments : List Segment) : Bytes := segments.flatMap bytes

def wanting? : Segment → Option Conversion
  | literal _ _ => none
  | conversion spelling => if spelling.letter = .percent then none else some spelling.conversion

def wanting (segments : List Segment) : List Conversion := segments.filterMap wanting?

/-- Each conversion that takes an argument finds one of its family at its own place in the list. -/
def Fit (segments : List Segment) (arguments : List Argument) : Prop :=
  ∀ (index : Nat) (conversion : Conversion), (wanting segments)[index]? = some conversion →
    ∃ argument, arguments[index]? = some argument ∧ conversion.letter.family? = some argument.family

def text (mode : RealMode) (arguments : List Argument) (taken : Nat) : Segment → Bytes
  | literal run _ => run
  | conversion spelling =>
    if spelling.letter = .percent then [Ascii.percent]
    else (arguments[taken]?.map (spelling.conversion.field mode)).getD []

def output (mode : RealMode) (segments : List Segment) (arguments : List Argument) : Bytes :=
  (segments.mapIdx fun position segment =>
    segment.text mode arguments (wanting (segments.take position)).length).flatten

theorem spell_cons (segment : Segment) (segments : List Segment) :
    spell (segment :: segments) = segment.bytes ++ spell segments := List.flatMap_cons

theorem wanting_cons_of_none {segment : Segment} (still : segment.wanting? = none) (segments : List Segment) :
    wanting (segment :: segments) = wanting segments := List.filterMap_cons_none still

theorem wanting_cons_of_some {segment : Segment} {conversion : Conversion}
    (wants : segment.wanting? = some conversion) (segments : List Segment) :
    wanting (segment :: segments) = conversion :: wanting segments :=
  List.filterMap_cons_some wants

theorem fit_nil (arguments : List Argument) : Fit [] arguments := by
  intro index conversion found
  cases found

theorem fit_cons_of_none {segment : Segment} (still : segment.wanting? = none) (segments : List Segment)
    (arguments : List Argument) : Fit (segment :: segments) arguments ↔ Fit segments arguments := by
  rw [Fit, wanting_cons_of_none still, Fit]

theorem fit_cons_of_some {segment : Segment} {conversion : Conversion} (wants : segment.wanting? = some conversion)
    (segments : List Segment) (arguments : List Argument) :
    Fit (segment :: segments) arguments ↔ ∃ argument others, arguments = argument :: others ∧
      conversion.letter.family? = some argument.family ∧ Fit segments others := by
  rw [Fit, wanting_cons_of_some wants]
  constructor
  · intro fit
    obtain ⟨argument, found, fits⟩ := fit 0 conversion rfl
    cases arguments with
    | nil => cases found
    | cons first others =>
      obtain rfl : first = argument := Option.some.inj found
      exact ⟨first, others, rfl, fits, fun index => fit (index + 1)⟩
  · rintro ⟨argument, others, rfl, fits, fit⟩ index wanted found
    cases index with
    | zero =>
      cases found
      exact ⟨argument, rfl, fits⟩
    | succ index => exact fit index wanted found

theorem Fit.length_le {segments : List Segment} {arguments : List Argument} (fit : Fit segments arguments) :
    (wanting segments).length ≤ arguments.length := by
  refine Nat.le_of_not_lt fun short => ?_
  obtain ⟨argument, found, _⟩ := fit arguments.length _ (List.getElem?_eq_getElem short)
  rw [List.getElem?_eq_none (Nat.le_refl _)] at found
  cases found

theorem output_cons_of_none {segment : Segment} (still : segment.wanting? = none) (mode : RealMode)
    (segments : List Segment) (arguments : List Argument) :
    output mode (segment :: segments) arguments =
      segment.text mode arguments 0 ++ output mode segments arguments := by
  simp only [output, List.mapIdx_cons, List.flatten_cons, List.take_succ_cons, wanting_cons_of_none still]
  rfl

theorem text_succ (mode : RealMode) (argument : Argument) (arguments : List Argument) (taken : Nat)
    (segment : Segment) :
    segment.text mode (argument :: arguments) (taken + 1) = segment.text mode arguments taken := by
  cases segment <;> rfl

theorem output_cons_of_some {segment : Segment} {conversion : Conversion} (wants : segment.wanting? = some conversion)
    (mode : RealMode) (segments : List Segment) (argument : Argument) (arguments : List Argument) :
    output mode (segment :: segments) (argument :: arguments) =
      conversion.field mode argument ++ output mode segments arguments := by
  simp only [output, List.mapIdx_cons, List.flatten_cons, List.take_succ_cons, wanting_cons_of_some wants,
    List.length_cons, text_succ]
  congr 1
  cases segment with
  | literal run plain => cases wants
  | conversion spelling =>
    simp only [wanting?] at wants
    split at wants
    · cases wants
    · rename_i other
      cases wants
      simp only [text, other, ↓reduceIte]
      rfl

theorem text_of_none {segment : Segment} (still : segment.wanting? = none) (mode : RealMode)
    (arguments others : List Argument) (taken before : Nat) :
    segment.text mode arguments taken = segment.text mode others before := by
  cases segment with
  | literal run plain => rfl
  | conversion spelling =>
    have percent : spelling.letter = .percent := by
      by_cases percent : spelling.letter = .percent
      · exact percent
      · rw [wanting?, if_neg percent] at still
        cases still
    simp only [text, percent, ↓reduceIte]

theorem Fit.take_append {segments : List Segment} {arguments : List Argument} (fit : Fit segments arguments)
    (mode : RealMode) (others : List Argument) :
    let replaced := arguments.take (wanting segments).length ++ others
    Fit segments replaced ∧ output mode segments replaced = output mode segments arguments := by
  induction segments generalizing arguments with
  | nil => exact ⟨fit_nil _, rfl⟩
  | cons segment segments ih =>
    cases wants : segment.wanting? with
    | none =>
      rw [fit_cons_of_none wants] at fit
      obtain ⟨replacedFit, same⟩ := ih fit
      simp only [wanting_cons_of_none wants, fit_cons_of_none wants, output_cons_of_none wants, same]
      exact ⟨replacedFit, congrArg (· ++ _) (text_of_none wants mode _ _ _ _)⟩
    | some conversion =>
      obtain ⟨argument, rest, rfl, fits, fit⟩ := (fit_cons_of_some wants segments arguments).mp fit
      obtain ⟨replacedFit, same⟩ := ih fit
      simp only [wanting_cons_of_some wants, List.length_cons, List.take_succ_cons, List.cons_append,
        output_cons_of_some wants, same, and_true]
      exact (fit_cons_of_some wants segments _).mpr ⟨argument, _, rfl, fits, replacedFit⟩

end Segment

def Supply.advance (supply : Supply) (count : Nat) : Supply := ⟨supply.rest.drop count, supply.taken + count⟩

theorem Supply.advance_succ {supply : Supply} {argument : Argument} {arguments : List Argument}
    (left : supply.rest = argument :: arguments) (count : Nat) :
    supply.advance (count + 1) = Supply.advance ⟨arguments, supply.taken + 1⟩ count := by
  rw [advance, advance, left, List.drop_succ_cons, Nat.add_right_comm, Nat.add_assoc]

namespace Format

open Segment

/-- A well-formed format in front is filled in for itself, and what follows it with the arguments that are left. -/
theorem expandFrom_spell (mode : RealMode) {segments : List Segment} {supply : Supply}
    (fit : Fit segments supply.rest) (clean : 0 ∉ spell segments) (offset : Nat) (rest : Bytes) :
    (expandFrom mode supply offset (spell segments ++ rest)).Splits (output mode segments supply.rest)
      (expandFrom mode (supply.advance (wanting segments).length) (offset + (spell segments).length) rest) := by
  induction segments generalizing supply offset with
  | nil => exact .refl _
  | cons segment segments ih =>
    rw [spell_cons, List.mem_append, not_or] at clean
    rw [spell_cons, List.append_assoc, List.length_append, ← Nat.add_assoc]
    cases segment with
    | literal run plain =>
      rw [fit_cons_of_none rfl] at fit
      rw [wanting_cons_of_none rfl, output_cons_of_none rfl]
      exact (expandFrom_append plain clean.1 mode supply offset _).trans (ih fit clean.2 _)
    | conversion spelling =>
      have reading := Conversion.read_append spelling (spell segments ++ rest)
      have next :
          offset + ((spelling.bytes ++ (spell segments ++ rest)).length + 1 - (spell segments ++ rest).length) =
            offset + (Segment.conversion spelling).bytes.length := by
        rw [List.length_append, bytes, List.length_cons]
        omega
      by_cases percent : spelling.letter = .percent
      · have still : (Segment.conversion spelling).wanting? = none := if_pos percent
        have written : (Segment.conversion spelling).text mode supply.rest 0 = Text.toBytes (.ofByte Ascii.percent) :=
          if_pos percent
        have first := expandFrom_of_fill reading (Conversion.fill_percent percent mode supply) offset
        rw [fit_cons_of_none still] at fit
        rw [wanting_cons_of_none still, output_cons_of_none still, written]
        rw [next] at first
        exact first.trans (ih fit clean.2 _)
      · have wants : (Segment.conversion spelling).wanting? = some spelling.conversion := if_neg percent
        obtain ⟨argument, arguments, left, fits, others⟩ := (fit_cons_of_some wants segments supply.rest).mp fit
        obtain ⟨text, filled, written⟩ := Conversion.fill_of_family left fits mode
        have first := expandFrom_of_fill reading filled offset
        rw [wanting_cons_of_some wants, List.length_cons, Supply.advance_succ left, left, output_cons_of_some wants,
          ← written]
        rw [next] at first
        exact first.trans (ih others clean.2 _)

def Readable (supply : Supply) (format : Bytes) : Prop :=
  ∃ segments rest, spell segments ++ rest = format ∧ Fit segments supply.rest ∧
    (rest = [] ∨ ∃ behind fault, rest = Ascii.percent :: behind ∧
      refusal? (supply.advance (wanting segments).length) behind = some fault)

theorem Readable.cons_of_none {segment : Segment} (still : segment.wanting? = none) {supply : Supply} {format : Bytes}
    (readable : Readable supply format) : Readable supply (segment.bytes ++ format) := by
  obtain ⟨segments, rest, split, fit, ending⟩ := readable
  refine ⟨segment :: segments, rest, ?_, ?_, ?_⟩
  · rw [spell_cons, List.append_assoc, split]
  · rwa [fit_cons_of_none still]
  · rwa [wanting_cons_of_none still]

theorem Readable.cons_of_some {segment : Segment} {conversion : Conversion}
    (wants : segment.wanting? = some conversion) {supply : Supply} {argument : Argument} {arguments : List Argument}
    (left : supply.rest = argument :: arguments)
    (fits : conversion.letter.family? = some argument.family) {format : Bytes}
    (readable : Readable ⟨arguments, supply.taken + 1⟩ format) : Readable supply (segment.bytes ++ format) := by
  obtain ⟨segments, rest, split, fit, ending⟩ := readable
  refine ⟨segment :: segments, rest, ?_, ?_, ?_⟩
  · rw [spell_cons, List.append_assoc, split]
  · exact (fit_cons_of_some wants segments supply.rest).mpr ⟨argument, arguments, left, fits, fit⟩
  · rwa [wanting_cons_of_some wants, List.length_cons, Supply.advance_succ left]

theorem readable (supply : Supply) (format : Bytes) : Readable supply format := by
  induction length : format.length using Nat.strongRecOn generalizing supply format with
  | ind _ ih =>
  subst length
  cases format with
  | nil => exact ⟨[], [], rfl, fit_nil _, .inl rfl⟩
  | cons byte format =>
    by_cases percent : byte = Ascii.percent
    · subst percent
      cases refused : refusal? supply format with
      | some fault => exact ⟨[], _, rfl, fit_nil _, .inr ⟨format, fault, rfl, refused⟩⟩
      | none =>
        simp only [refusal?] at refused
        split at refused
        · cases refused
        rename_i conversion after reading
        have shorter := Conversion.length_read_lt reading
        obtain ⟨spelling, rfl, rfl⟩ := Conversion.exists_spelling_of_read reading
        rcases Conversion.refusal?_eq_none refused with percent | ⟨argument, arguments, left, fits⟩
        · have still : (Segment.conversion spelling).wanting? = none := if_pos percent
          exact .cons_of_none still (ih _ (Nat.lt_succ_of_lt shorter) supply after rfl)
        · have wants : (Segment.conversion spelling).wanting? = some spelling.conversion :=
            if_neg (Letter.ne_percent_of_family? fits)
          exact .cons_of_some wants left fits (ih _ (Nat.lt_succ_of_lt shorter) ⟨arguments, _⟩ after rfl)
    · have plain : Ascii.percent ∉ [byte] := by simpa using Ne.symm percent
      have still : (Segment.literal [byte] plain).wanting? = none := rfl
      exact .cons_of_none still (ih _ (Nat.lt_succ_self _) supply format rfl)

end Format

end BoundedText
