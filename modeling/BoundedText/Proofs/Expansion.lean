import BoundedText.Outcome

namespace BoundedText

namespace Expansion

def bytes (expansion : Expansion) : Bytes := expansion.text.toBytes

def verdict (expansion : Expansion) : Except FormatError Unit :=
  match expansion.error? with
  | none => .ok ()
  | some error => .error error

@[simp] theorem bytes_finished : finished.bytes = [] := rfl

@[simp] theorem bytes_failed (error : FormatError) : (failed error).bytes = [] := rfl

@[simp] theorem bytes_after (text : Text) (rest : Expansion) : (rest.after text).bytes = text.toBytes ++ rest.bytes :=
  Text.toBytes_append text rest.text

@[simp] theorem verdict_after (text : Text) (rest : Expansion) : (rest.after text).verdict = rest.verdict := rfl

@[simp] theorem bytes_ofText (text : Text) : (ofText text).bytes = text.toBytes := rfl

@[simp] theorem verdict_ofText (text : Text) : (ofText text).verdict = .ok () := rfl

theorem andThen_of_error {first : Expansion} {error : FormatError} (failure : first.verdict = .error error)
    (second : Expansion) : first.andThen second = first := by
  cases ending : first.error? with
  | none => simp [verdict, ending] at failure
  | some _ => simp only [andThen, ending]

theorem zero_not_mem_bytes (expansion : Expansion) : 0 ∉ expansion.bytes := expansion.text.zero_not_mem_toBytes

theorem into_eq (expansion : Expansion) (buffer : Buffer) :
    expansion.into buffer =
      ⟨buffer.append expansion.bytes, expansion.verdict.map fun _ => (buffer.append expansion.bytes).cursor⟩ := by
  cases ending : expansion.error? <;>
    simp only [into, verdict, ending, Buffer.write_eq, Outcome.done, Outcome.failed, Except.map, bytes]

theorem text_into (expansion : Expansion) (buffer : Buffer) :
    (expansion.into buffer).buffer.text = buffer.text ++ expansion.bytes.take buffer.remaining := by
  rw [into_eq, Buffer.text_append]

theorem result_into_eq_error {expansion : Expansion} {buffer : Buffer} {error : FormatError} :
    (expansion.into buffer).result = .error error ↔ expansion.verdict = .error error := by
  rw [into_eq]
  cases expansion.verdict <;> simp [Except.map]

theorem result_into_eq_ok {expansion : Expansion} {buffer : Buffer} :
    (∃ cursor, (expansion.into buffer).result = .ok cursor) ↔ expansion.verdict = .ok () := by
  rw [into_eq]
  cases expansion.verdict <;> simp [Except.map]

def Splits (whole : Expansion) (front : Bytes) (rest : Expansion) : Prop :=
  whole.bytes = front ++ rest.bytes ∧ whole.verdict = rest.verdict

theorem Splits.refl (whole : Expansion) : whole.Splits [] whole := ⟨rfl, rfl⟩

theorem Splits.trans {whole middle rest : Expansion} {first second : Bytes} (left : whole.Splits first middle)
    (right : middle.Splits second rest) : whole.Splits (first ++ second) rest := by
  refine ⟨?_, left.2.trans right.2⟩
  rw [left.1, right.1, List.append_assoc]

theorem Splits.unite {whole other rest : Expansion} {front : Bytes} (left : whole.Splits front rest)
    (right : other.Splits front rest) : whole.Splits [] other := by
  refine ⟨?_, left.2.trans right.2.symm⟩
  rw [left.1, right.1, List.nil_append]

theorem splits_after (text : Text) (rest : Expansion) : (rest.after text).Splits text.toBytes rest :=
  ⟨bytes_after text rest, verdict_after text rest⟩

theorem splits_andThen {first : Expansion} (success : first.verdict = .ok ()) (second : Expansion) :
    (first.andThen second).Splits first.bytes second := by
  cases ending : first.error? with
  | none =>
    simp only [andThen, ending]
    exact splits_after first.text second
  | some error => simp [verdict, ending] at success

theorem Splits.andThen {second rest : Expansion} (same : second.Splits [] rest) (first : Expansion) :
    (first.andThen second).Splits [] (first.andThen rest) := by
  cases ending : first.verdict with
  | ok _ =>
    obtain ⟨written, verdict⟩ := splits_andThen ending second
    obtain ⟨writtenRest, verdictRest⟩ := splits_andThen ending rest
    refine ⟨?_, ?_⟩
    · rw [written, writtenRest, same.1, List.nil_append, List.nil_append]
    · rw [verdict, verdictRest, same.2]
  | error error =>
    rw [andThen_of_error ending, andThen_of_error ending]
    exact .refl first

end Expansion

end BoundedText
