import BoundedText.Proofs.Numeral.Order
import BoundedText.Proofs.Time.Pieces
import BoundedText.Proofs.Time.Shown

namespace BoundedText

namespace Calendar

variable {year year' : Int} {month month' day day' : Nat}

namespace IsDate

theorem dayNumber_lt (valid : IsDate year month day) (valid' : IsDate year' month' day')
    (sooner : year < year' ∨ year = year' ∧ (month < month' ∨ month = month' ∧ day < day')) :
    dayNumber year month day < dayNumber year' month' day' := by
  rcases sooner with years | ⟨rfl, months | ⟨rfl, days⟩⟩
  · have within := valid.dayNumber_bounds.2
    have within' := valid'.dayNumber_bounds.1
    have between := daysToYear_le (show year + 1 ≤ year' from years)
    omega
  · have within := valid.daysToMonth_add_le
    have between : daysToMonth year (month + 1) ≤ daysToMonth year month' := daysToMonth_mono year months
    have first := valid'.2.1
    simp only [dayNumber]
    omega
  · simp only [dayNumber]
    omega

theorem dayNumber_lt_iff (valid : IsDate year month day) (valid' : IsDate year' month' day') :
    dayNumber year month day < dayNumber year' month' day' ↔
      year < year' ∨ year = year' ∧ (month < month' ∨ month = month' ∧ day < day') := by
  refine ⟨fun less => ?_, valid.dayNumber_lt valid'⟩
  by_contra notSooner
  have cases : (year' < year ∨ year' = year ∧ (month' < month ∨ month' = month ∧ day' < day)) ∨
      year = year' ∧ month = month' ∧ day = day' := by omega
  rcases cases with later | ⟨rfl, rfl, rfl⟩
  · exact Int.lt_asymm less (valid'.dayNumber_lt valid later)
  · exact Int.lt_irrefl _ less

end IsDate

namespace Reading

/-- The largest part of the readings that differs is smaller. -/
def Before (reading other : Reading) : Prop :=
  reading.year < other.year ∨ reading.year = other.year ∧
    (reading.month < other.month ∨ reading.month = other.month ∧
      (reading.day < other.day ∨ reading.day = other.day ∧
        (reading.hour < other.hour ∨ reading.hour = other.hour ∧
          (reading.minute < other.minute ∨ reading.minute = other.minute ∧ reading.second < other.second))))

variable {reading other : Reading}

theorem seconds_lt_iff (valid : reading.Valid) (valid' : other.Valid) :
    reading.seconds < other.seconds ↔ reading.Before other := by
  obtain ⟨date, hours, minutes, seconds⟩ := valid
  obtain ⟨date', hours', minutes', seconds'⟩ := valid'
  have sooner := date.dayNumber_lt_iff date'
  have later := date'.dayNumber_lt_iff date
  simp only [Reading.seconds, Before]
  generalize dayNumber reading.year reading.month reading.day = days at *
  generalize dayNumber other.year other.month other.day = days' at *
  omega

end Reading

end Calendar

open Calendar

namespace CivilTime

section Numbers

theorem toBytes_twoDigits (value : Nat) : (twoDigits value).toBytes =
    List.replicate (2 - (Radix.decimal.numeral value).length) Ascii.zero ++ Radix.decimal.numeral value :=
  Layout.toBytes_zeroPadded_decimal (by decide) value

theorem mem_alphabet_of_mem_twoDigits {value : Nat} {byte : UInt8} (member : byte ∈ (twoDigits value).toBytes) :
    byte ∈ Radix.decimal.alphabet := by
  rw [toBytes_twoDigits, List.mem_append, List.mem_replicate] at member
  rcases member with ⟨-, rfl⟩ | member
  · decide
  · exact Radix.mem_alphabet_of_mem_numeral member

theorem read_twoDigits (value : Nat) : Radix.decimal.read (twoDigits value).toBytes = value := by
  rw [toBytes_twoDigits, Radix.read_append, Radix.read_replicate (by decide), Nat.zero_mul, Nat.zero_add,
    Radix.read_numeral Radix.nodup_decimal]

theorem length_decimal_le {value length : Nat} (positive : 0 < length) (small : value < 10 ^ length) :
    (Radix.decimal.numeral value).length ≤ length := by
  rcases Radix.decimal.length_numeral_cases value with single | ⟨-, large⟩
  · omega
  · have less : 10 ^ ((Radix.decimal.numeral value).length - 1) < 10 ^ length := Nat.lt_of_le_of_lt large small
    have shorter := (Nat.pow_lt_pow_iff_right (by decide)).mp less
    omega

theorem length_twoDigits {value : Nat} (small : value < 100) : (twoDigits value).toBytes.length = 2 := by
  have bound : (Radix.decimal.numeral value).length ≤ 2 := length_decimal_le (by decide) small
  rw [toBytes_twoDigits, List.length_append, List.length_replicate]
  omega

theorem twoDigits_inj {value value' : Nat} :
    (twoDigits value).toBytes = (twoDigits value').toBytes ↔ value = value' := by
  refine ⟨fun same => ?_, fun same => by rw [same]⟩
  rw [← read_twoDigits value, same, read_twoDigits]

theorem twoDigits_lt_iff {value value' : Nat} (small : value < 100) (small' : value' < 100) :
    (twoDigits value).toBytes < (twoDigits value').toBytes ↔ value < value' := by
  have lengths := (length_twoDigits small).trans (length_twoDigits small').symm
  rw [Radix.lt_iff_read_lt Radix.rising_decimal (fun _ => mem_alphabet_of_mem_twoDigits)
    (fun _ => mem_alphabet_of_mem_twoDigits) lengths, read_twoDigits, read_twoDigits]

theorem signedNumber_inj {value value' : Int} :
    (signedNumber value).toBytes = (signedNumber value').toBytes ↔ value = value' := by
  refine ⟨fun same => ?_, fun same => by rw [same]⟩
  have unsigned {other : Nat} {rest : Bytes} (dash : Ascii.minus :: rest = Radix.decimal.numeral other) : False := by
    have member : Ascii.minus ∈ Radix.decimal.numeral other := dash ▸ List.mem_cons_self
    exact absurd (Radix.mem_alphabet_of_mem_numeral member) (by decide)
  rw [signedNumber, signedNumber, Layout.toBytes_plain_ofInt, Layout.toBytes_plain_ofInt] at same
  by_cases negative : value < 0 <;> by_cases negative' : value' < 0 <;>
    simp only [negative, negative', ↓reduceIte, List.nil_append, List.singleton_append, List.cons.injEq,
      true_and] at same
  · have magnitudes := (Radix.numeral_inj Radix.nodup_decimal).mp same
    omega
  · exact (unsigned same).elim
  · exact (unsigned same.symm).elim
  · have magnitudes := (Radix.numeral_inj Radix.nodup_decimal).mp same
    omega

def FourDigits (year : Int) : Prop := 1000 ≤ year ∧ year ≤ 9999

theorem toBytes_year {year : Int} (four : FourDigits year) :
    (signedNumber year).toBytes = Radix.decimal.numeral year.natAbs ∧
      (Radix.decimal.numeral year.natAbs).length = 4 := by
  obtain ⟨first, last⟩ := four
  constructor
  · rw [signedNumber, Layout.toBytes_plain_ofInt, if_neg (by omega), List.nil_append]
  · have bound : (Radix.decimal.numeral year.natAbs).length ≤ 4 := length_decimal_le (by decide) (by omega)
    have above := Radix.decimal.lt_pow_length_digits year.natAbs
    rw [← Radix.length_numeral] at above
    have thousand : 10 ^ 3 < 10 ^ (Radix.decimal.numeral year.natAbs).length :=
      Nat.lt_of_le_of_lt (show 10 ^ 3 ≤ year.natAbs by omega) above
    have longer := (Nat.pow_lt_pow_iff_right (by decide)).mp thousand
    omega

theorem year_lt_iff {year year' : Int} (four : FourDigits year) (four' : FourDigits year') :
    (signedNumber year).toBytes < (signedNumber year').toBytes ↔ year < year' := by
  obtain ⟨written, length⟩ := toBytes_year four
  obtain ⟨written', length'⟩ := toBytes_year four'
  rw [written, written', Radix.lt_iff_read_lt Radix.rising_decimal (fun _ => Radix.mem_alphabet_of_mem_numeral)
    (fun _ => Radix.mem_alphabet_of_mem_numeral) (length.trans length'.symm),
    Radix.read_numeral Radix.nodup_decimal, Radix.read_numeral Radix.nodup_decimal]
  have first := four.1
  have first' := four'.1
  omega

end Numbers

section Marked

def marked (mark : UInt8) (value : Nat) (rest : Bytes) : Bytes := mark :: ((twoDigits value).toBytes ++ rest)

variable {mark : UInt8} {value value' : Nat} {rest rest' : Bytes}

theorem length_marked (small : value < 100) : (marked mark value rest).length = rest.length + 3 := by
  rw [marked, List.length_cons, List.length_append, length_twoDigits small]
  omega

variable (small : value < 100) (small' : value' < 100)

include small small'

theorem marked_inj : marked mark value rest = marked mark value' rest' ↔ value = value' ∧ rest = rest' := by
  have lengths := (length_twoDigits small).trans (length_twoDigits small').symm
  refine ⟨fun same => ?_, fun same => by rw [same.1, same.2]⟩
  obtain ⟨digits, behind⟩ := List.append_inj (List.cons.inj same).2 lengths
  exact ⟨twoDigits_inj.mp digits, behind⟩

theorem marked_lt_iff : marked mark value rest < marked mark value' rest' ↔
    value < value' ∨ value = value' ∧ rest < rest' := by
  have lengths := (length_twoDigits small).trans (length_twoDigits small').symm
  rw [marked, marked, List.cons_lt_cons_self, Bytes.append_lt_append_iff lengths, twoDigits_lt_iff small small',
    twoDigits_inj]

end Marked

end CivilTime

namespace Calendar.Reading

open CivilTime

def behindYear (reading : Reading) : Bytes :=
  marked Ascii.minus reading.month (marked Ascii.minus reading.day (marked Ascii.space reading.hour
    (marked Ascii.colon reading.minute (marked Ascii.colon reading.second []))))

def stamp (reading : Reading) : Bytes := (signedNumber reading.year).toBytes ++ reading.behindYear

variable {reading other : Reading}

theorem Valid.lt_hundred (valid : reading.Valid) : reading.month < 100 ∧ reading.day < 100 ∧ reading.hour < 100 ∧
    reading.minute < 100 ∧ reading.second < 100 := by
  obtain ⟨date, hours, minutes, seconds⟩ := valid
  have months := date.1.2
  have days := date.2.2.trans (daysInMonth_le reading.year reading.month)
  omega

theorem length_behindYear (valid : reading.Valid) : reading.behindYear.length = 15 := by
  obtain ⟨months, days, hours, minutes, seconds⟩ := valid.lt_hundred
  rw [behindYear, length_marked months, length_marked days, length_marked hours, length_marked minutes,
    length_marked seconds, List.length_nil]

theorem stamp_inj (valid : reading.Valid) (valid' : other.Valid) : reading.stamp = other.stamp ↔ reading = other := by
  obtain ⟨months, days, hours, minutes, seconds⟩ := valid.lt_hundred
  obtain ⟨months', days', hours', minutes', seconds'⟩ := valid'.lt_hundred
  have lengths := (length_behindYear valid).trans (length_behindYear valid').symm
  refine ⟨fun same => ?_, congrArg _⟩
  -- Years are of any length, so the texts are cut from their ends.
  obtain ⟨years, behind⟩ := List.append_inj' same lengths
  rw [behindYear, behindYear, marked_inj months months', marked_inj days days', marked_inj hours hours',
    marked_inj minutes minutes', marked_inj seconds seconds'] at behind
  obtain ⟨month, day, hour, minute, second, -⟩ := behind
  have year := signedNumber_inj.mp years
  cases reading
  cases other
  simp only at *
  subst year month day hour minute second
  rfl

theorem stamp_lt_iff (valid : reading.Valid) (valid' : other.Valid) (four : FourDigits reading.year)
    (four' : FourDigits other.year) : reading.stamp < other.stamp ↔ reading.Before other := by
  obtain ⟨months, days, hours, minutes, seconds⟩ := valid.lt_hundred
  obtain ⟨months', days', hours', minutes', seconds'⟩ := valid'.lt_hundred
  have lengths : (signedNumber reading.year).toBytes.length = (signedNumber other.year).toBytes.length := by
    obtain ⟨written, length⟩ := toBytes_year four
    obtain ⟨written', length'⟩ := toBytes_year four'
    rw [written, written', length, length']
  rw [stamp, stamp, Bytes.append_lt_append_iff lengths, year_lt_iff four four', signedNumber_inj, behindYear,
    behindYear, marked_lt_iff months months', marked_lt_iff days days', marked_lt_iff hours hours',
    marked_lt_iff minutes minutes', marked_lt_iff seconds seconds', Before]
  simp

end Calendar.Reading

namespace TimeLayout

theorem text_date_clock (time : CivilTime) : (text (Bytes.ofString "%F %T") time).toBytes = time.reading.stamp := by
  let pieces : List Piece := [.directive .date, .literal [Ascii.space], .directive .clock]
  have written : Written pieces := by decide
  have spelled : spell pieces = (Bytes.ofString "%F %T").upToNul := by decide
  rw [text_of_written time written spelled]
  have space : Bytes.upToNul [Ascii.space] = [Ascii.space] := rfl
  simp only [pieces, toBytes_cons, Piece.text, CivilTime.text, Text.toBytes_append, Text.toBytes_ofBytes, space,
    Text.toBytes_ofByte (show Ascii.minus ≠ 0 by decide), Text.toBytes_ofByte (show Ascii.colon ≠ 0 by decide),
    List.append_assoc, List.flatMap_nil, Text.toBytes_nil, Reading.stamp, Reading.behindYear, CivilTime.marked,
    CivilTime.reading, List.cons_append, List.nil_append]

/-- Dates and times of day tell all moments apart, and in years of four digits they sort like the moments. -/
theorem date_clock_sorts (unix unix' : Int64) (offset offset' : Int32) :
    let time : CivilTime := .ofUnix unix offset
    let time' : CivilTime := .ofUnix unix' offset'
    let stamp := (text (Bytes.ofString "%F %T") time).toBytes
    let stamp' := (text (Bytes.ofString "%F %T") time').toBytes
    let seconds := max (-2 ^ 63) (min (2 ^ 63 - 1) (unix.toInt + offset.toInt))
    let seconds' := max (-2 ^ 63) (min (2 ^ 63 - 1) (unix'.toInt + offset'.toInt))
    (∀ buffer : Buffer, (buffer.writeTime (Bytes.ofString "%F %T") time).text =
      buffer.text ++ stamp.take buffer.remaining) ∧
    (stamp = stamp' ↔ seconds = seconds') ∧
    (1000 ≤ time.year ∧ time.year ≤ 9999 → 1000 ≤ time'.year ∧ time'.year ≤ 9999 →
      (stamp < stamp' ↔ seconds < seconds') ∧ (stamp' < stamp ↔ seconds' < seconds)) := by
  intro time time' stamp stamp' seconds seconds'
  obtain ⟨valid, counted⟩ := CivilTime.reading_ofUnix unix offset
  obtain ⟨valid', counted'⟩ := CivilTime.reading_ofUnix unix' offset'
  have shown : time.reading.seconds = seconds := counted.trans (CivilTime.localSeconds_eq unix offset)
  have shown' : time'.reading.seconds = seconds' := counted'.trans (CivilTime.localSeconds_eq unix' offset')
  refine ⟨fun buffer => ?_, ?_⟩
  · rw [Buffer.writeTime_eq, Buffer.write_eq, Buffer.text_append]
  simp only [stamp, stamp', text_date_clock, ← shown, ← shown']
  constructor
  · rw [Reading.stamp_inj valid valid']
    exact ⟨congrArg _, Reading.eq_of_seconds_eq valid valid'⟩
  · intro four four'
    rw [Reading.stamp_lt_iff valid valid' four four', Reading.stamp_lt_iff valid' valid four' four,
      Reading.seconds_lt_iff valid valid', Reading.seconds_lt_iff valid' valid]
    exact ⟨Iff.rfl, Iff.rfl⟩

theorem date_clock_sorts_new_year :
    let time := CivilTime.ofUnix 946684799 0
    let time' := CivilTime.ofUnix 946681200 3600
    let buffer := Buffer.openAt (List.replicate 12 0x2e) 1
    (1000 ≤ time.year ∧ time.year ≤ 9999) ∧ (1000 ≤ time'.year ∧ time'.year ≤ 9999) ∧
      (text (Bytes.ofString "%F %T") time).toBytes < (text (Bytes.ofString "%F %T") time').toBytes ∧
      (buffer.writeTime (Bytes.ofString "%F %T") time).text = Bytes.ofString ".1999-12-31" := by
  intro time time' buffer
  have four : 1000 ≤ time.year ∧ time.year ≤ 9999 := by decide
  have four' : 1000 ≤ time'.year ∧ time'.year ≤ 9999 := by decide
  obtain ⟨written, -, sorted⟩ := date_clock_sorts 946684799 946681200 0 3600
  exact ⟨four, four', (sorted four four').1.mpr (by decide), (written buffer).trans (by decide +kernel)⟩

end TimeLayout

end BoundedText
