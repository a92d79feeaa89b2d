import BoundedText.Proofs.Layout

namespace BoundedText

/-- A writer in front of a buffer that sets the zeros it owes in before the first exponent mark it comes by. -/
structure Splicer where
  buffer : Buffer
  owed : Nat
deriving DecidableEq, Repr

namespace Splicer

open Body

def writePiece (splicer : Splicer) (piece : Bytes) : Splicer :=
  match piece.findIdx? isExponentMark with
  | some mark =>
    if 0 < splicer.owed then
      ⟨((splicer.buffer.copy (piece.take mark) none).fill Ascii.zero splicer.owed).copy (piece.drop mark) none, 0⟩
    else { splicer with buffer := splicer.buffer.copy piece none }
  | none => { splicer with buffer := splicer.buffer.copy piece none }

def writePieces (splicer : Splicer) (pieces : List Bytes) : Splicer := pieces.foldl writePiece splicer

def finish (splicer : Splicer) : Buffer := splicer.buffer.fill Ascii.zero splicer.owed

def isMarked (text : Bytes) : Bool := text.any isExponentMark

theorem isMarked_append (left right : Bytes) : isMarked (left ++ right) = (isMarked left || isMarked right) :=
  List.any_append

theorem isMarked_eq_false {text : Bytes} : isMarked text = false ↔ ∀ byte ∈ text, isExponentMark byte = false := by
  simp only [isMarked, List.any_eq_false, Bool.not_eq_true]

theorem exists_cut (text : Bytes) :
    ∃ front tail, front ++ tail = text ∧ (∀ byte ∈ front, isExponentMark byte = false) ∧
      (∀ byte ∈ tail.head?, isExponentMark byte = true) ∧ isMarked text = !tail.isEmpty := by
  obtain ⟨front, tail, rfl, plain, marked⟩ := LeadingRun.exists_split (!isExponentMark ·) text
  simp only [Bool.not_eq_true', Bool.not_eq_false'] at plain marked
  refine ⟨front, tail, rfl, plain, marked, ?_⟩
  cases tail with
  | nil =>
    rw [List.append_nil, isMarked_eq_false.mpr plain]
    rfl
  | cons mark tail => exact List.any_eq_true.mpr ⟨mark, List.mem_append_right _ List.mem_cons_self, marked mark rfl⟩

section Spliced

variable (zeros : Nat) {text : Bytes}

theorem spliced_plain (plain : isMarked text = false) :
    spliced zeros text = text ++ List.replicate zeros Ascii.zero := by
  have markless : ∀ byte ∈ ([] : Bytes).head?, isExponentMark byte = true := by simp
  have whole := spliced_append zeros (isMarked_eq_false.mp plain) markless
  rwa [List.append_nil, List.append_nil] at whole

theorem spliced_plain_append (plain : isMarked text = false) (more : Bytes) :
    spliced zeros (text ++ more) = text ++ spliced zeros more := by
  obtain ⟨front, tail, rfl, before, marked, -⟩ := exists_cut more
  have outside : ∀ byte ∈ text ++ front, isExponentMark byte = false := by
    intro byte member
    rcases List.mem_append.mp member with early | late
    · exact isMarked_eq_false.mp plain byte early
    · exact before byte late
  rw [← List.append_assoc, spliced_append zeros outside marked, spliced_append zeros before marked, List.append_assoc]

theorem spliced_marked_append (found : isMarked text = true) (more : Bytes) :
    spliced zeros (text ++ more) = spliced zeros text ++ more := by
  obtain ⟨front, tail, rfl, before, marked, behind⟩ := exists_cut text
  cases tail with
  | nil => simp only [behind, List.isEmpty_nil, Bool.not_true, Bool.false_eq_true] at found
  | cons mark tail =>
    have same : ∀ byte ∈ (mark :: tail ++ more).head?, isExponentMark byte = true := marked
    rw [List.append_assoc, spliced_append zeros before same, spliced_append zeros before marked]
    simp only [List.append_assoc]

end Spliced

theorem copy_eq (buffer : Buffer) {piece : Bytes} (clean : 0 ∉ piece) :
    buffer.copy piece none = buffer.append piece := by
  rw [Buffer.copy_none, Bytes.upToNul_of_not_mem clean]

theorem fill_zero_eq (buffer : Buffer) (count : Nat) :
    buffer.fill Ascii.zero count = buffer.append (List.replicate count Ascii.zero) :=
  buffer.put_eq (.run Ascii.zero count)

theorem writePiece_eq (splicer : Splicer) {piece : Bytes} (clean : 0 ∉ piece) :
    splicer.writePiece piece =
      if isMarked piece then ⟨splicer.buffer.append (spliced splicer.owed piece), 0⟩
      else ⟨splicer.buffer.append piece, splicer.owed⟩ := by
  rw [writePiece, copy_eq _ clean]
  cases found : piece.findIdx? isExponentMark with
  | none =>
    have plain : isMarked piece = false := by rw [isMarked, ← List.findIdx?_isSome, found, Option.isSome_none]
    simp only [plain, Bool.false_eq_true, ↓reduceIte]
  | some mark =>
    have marked : isMarked piece = true := by rw [isMarked, ← List.findIdx?_isSome, found, Option.isSome_some]
    rcases Nat.eq_zero_or_pos splicer.owed with nothing | owed
    · simp only [marked, nothing, Nat.lt_irrefl, spliced_zero, ↓reduceIte]
    · have first := (List.findIdx?_eq_some_iff_findIdx_eq.mp found).2
      have front : piece.takeWhile (!isExponentMark ·) = piece.take mark := by
        simp only [List.takeWhile_eq_take_findIdx_not, Bool.not_not, first]
      have tail : piece.dropWhile (!isExponentMark ·) = piece.drop mark := by
        simp only [List.dropWhile_eq_drop_findIdx_not, Bool.not_not, first]
      have clear : 0 ∉ piece.take mark ∧ 0 ∉ piece.drop mark :=
        ⟨fun member => clean (List.mem_of_mem_take member), fun member => clean (List.mem_of_mem_drop member)⟩
      simp only [owed, marked, ↓reduceIte, copy_eq _ clear.1, copy_eq _ clear.2, fill_zero_eq, Buffer.append_append,
        spliced, front, tail, List.append_assoc]

/-- What has become of a text. From its first mark on the zeros are in it, and until then they are owed. -/
structure Wrote (start : Buffer) (zeros : Nat) (text : Bytes) (splicer : Splicer) : Prop where
  buffer : splicer.buffer = start.append (if isMarked text then spliced zeros text else text)
  owed : splicer.owed = if isMarked text then 0 else zeros

section Writing

variable {start : Buffer} {zeros : Nat} {text : Bytes} {splicer : Splicer}

theorem wrote_nil (start : Buffer) (zeros : Nat) : Wrote start zeros [] ⟨start, zeros⟩ :=
  ⟨start.append_nil.symm, rfl⟩

theorem Wrote.writePiece (wrote : Wrote start zeros text splicer) {piece : Bytes} (clean : 0 ∉ piece) :
    Wrote start zeros (text ++ piece) (splicer.writePiece piece) := by
  obtain ⟨buffer, owed⟩ := wrote
  rw [writePiece_eq splicer clean, buffer, owed]
  cases past : isMarked text with
  | true =>
    have together := spliced_marked_append zeros past piece
    constructor <;> cases here : isMarked piece <;>
      simp only [isMarked_append, past, here, Bool.true_or, Bool.false_eq_true, ↓reduceIte, Buffer.append_append,
        spliced_zero, together]
  | false =>
    have together := spliced_plain_append zeros past piece
    constructor <;> cases here : isMarked piece <;>
      simp only [isMarked_append, past, here, Bool.false_or, Bool.false_eq_true, ↓reduceIte, Buffer.append_append,
        together]

theorem Wrote.writePieces (wrote : Wrote start zeros text splicer) {pieces : List Bytes}
    (clean : ∀ piece ∈ pieces, 0 ∉ piece) :
    Wrote start zeros (text ++ pieces.flatten) (splicer.writePieces pieces) := by
  induction pieces generalizing text splicer with
  | nil => rwa [List.flatten_nil, List.append_nil]
  | cons piece pieces ih =>
    have next := ih (wrote.writePiece (clean piece List.mem_cons_self))
      fun other member => clean other (List.mem_cons_of_mem _ member)
    rwa [List.flatten_cons, ← List.append_assoc]

theorem Wrote.finish (wrote : Wrote start zeros text splicer) : splicer.finish = start.append (spliced zeros text) := by
  rw [Splicer.finish, fill_zero_eq, wrote.buffer, wrote.owed, Buffer.append_append]
  cases marked : isMarked text with
  | true => simp only [↓reduceIte, List.replicate_zero, List.append_nil]
  | false => simp only [Bool.false_eq_true, ↓reduceIte, spliced_plain zeros marked]

end Writing

/-- However a text is cut into pieces, its zeros go in before its first exponent mark, and behind all of it if it has
    none. After the last piece either they are in or they are owed. -/
theorem finish_writePieces (text : Bytes) (clean : 0 ∉ text) :
    ∃ front tail, front ++ tail = text ∧ (∀ byte ∈ front, isExponentMark byte = false) ∧
      (∀ byte ∈ tail.head?, isExponentMark byte = true) ∧
      ∀ (pieces : List Bytes) (zeros : Nat) (buffer : Buffer), pieces.flatten = text →
        let body : Body := ⟨pieces, zeros⟩
        let whole := front ++ (List.replicate zeros Ascii.zero ++ tail)
        let splicer := writePieces ⟨buffer, zeros⟩ pieces
        splicer.buffer = buffer.append (if tail = [] then front else whole) ∧
        splicer.owed = (if tail = [] then zeros else 0) ∧
        splicer.finish = buffer.append whole ∧ buffer.write body.text = buffer.append whole ∧
        splicer.finish.text = buffer.text ++ whole.take buffer.remaining ∧
        body.size = min whole.length maxCount := by
  obtain ⟨front, tail, rfl, plain, marked, behind⟩ := exists_cut text
  refine ⟨front, tail, rfl, plain, marked, ?_⟩
  intro pieces zeros buffer joined body whole splicer
  have clear : ∀ piece ∈ pieces, 0 ∉ piece := by
    intro piece member inside
    exact clean (joined ▸ List.mem_flatten_of_mem member inside)
  have result : spliced zeros (front ++ tail) = whole := spliced_append zeros plain marked
  have shown : body.text.toBytes = whole := by rw [Body.text, toBytes_splice zeros clear, joined, result]
  have wrote : Wrote buffer zeros (front ++ tail) splicer := by
    have run := (wrote_nil buffer zeros).writePieces clear
    rwa [List.nil_append, joined] at run
  have finished : splicer.finish = buffer.append whole := result ▸ wrote.finish
  have state : splicer.buffer = buffer.append (if tail = [] then front else whole) ∧
      splicer.owed = if tail = [] then zeros else 0 := by
    rw [wrote.buffer, wrote.owed, behind, result]
    cases tail with
    | nil =>
      simp only [List.isEmpty_nil, Bool.not_true, Bool.false_eq_true, ↓reduceIte, List.append_nil, and_self]
    | cons mark tail => simp only [List.isEmpty_cons, Bool.not_false, reduceCtorEq, ↓reduceIte, and_self]
  refine ⟨state.1, state.2, finished, ?_, ?_, ?_⟩
  · rw [Buffer.write_eq, shown]
  · rw [finished, Buffer.text_append]
  · rw [Body.size_eq clear, shown]

theorem finish_writePieces_two_marks :
    let text := Bytes.ofString "1.5e10e"
    let pieces := ["1.5", "", "e1", "0e"].map Bytes.ofString
    let buffer := Buffer.openAt (List.replicate 9 0x78) 1
    let splicer := writePieces ⟨buffer, 3⟩ pieces
    0 ∉ text ∧ pieces.flatten = text ∧ splicer.finish.text = Bytes.ofString "x1.5000e" ∧
      ∃ front tail, front ++ tail = text ∧ (∀ byte ∈ front, isExponentMark byte = false) ∧
        (∀ byte ∈ tail.head?, isExponentMark byte = true) ∧
        let whole := front ++ (List.replicate 3 Ascii.zero ++ tail)
        splicer.owed = (if tail = [] then 3 else 0) ∧ splicer.finish = buffer.append whole ∧
          (Body.mk pieces 3).size = min whole.length maxCount := by
  intro text pieces buffer splicer
  have clean : 0 ∉ text := by decide
  obtain ⟨front, tail, whole, plain, marked, written⟩ := finish_writePieces text clean
  obtain ⟨-, owed, finished, -, -, size⟩ := written pieces 3 buffer (by decide)
  exact ⟨clean, by decide, by decide, front, tail, whole, plain, marked, owed, finished, size⟩

end Splicer

end BoundedText
