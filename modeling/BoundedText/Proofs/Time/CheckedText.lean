import BoundedText.Proofs.Time.Pieces
import BoundedText.Proofs.Time.Shown

namespace BoundedText

def Bytes.front? (bytes : Bytes) (length : Nat) : Option Bytes :=
  if length ≤ bytes.length then some (bytes.take length) else none

theorem Bytes.front?_eq {bytes : Bytes} {length : Nat} (enough : length ≤ bytes.length) :
    bytes.front? length = some (bytes.take length) := if_pos enough

namespace CivilTime

open Checked

section Computing

variable (time : CivilTime)

def checkedWeekdayName : Option Bytes := do
  let name ← weekdayNames[time.weekday]?
  return Bytes.ofString name

def checkedMonthName : Option Bytes := do
  let index ← (ofInt time.month - 1 : Unsigned32).value?
  let name ← monthNames[index.toNat]?
  return Bytes.ofString name

/-- `text` in words of 64 and 32 bits, which gives nothing if a result overflows, a cast loses a number, or a name
    is looked for past its table or cut behind its end. -/
def checkedText : Directive → Option Text
  | .yearOfCentury => do
    let short : Unsigned32 := ((ofInt time.year : Signed64).remEuclid 100).cast
    return twoDigits (← short.value?).toNat
  | .hourOfHalf => do
    let hour : Unsigned32 := (ofInt time.hour + 11) % 12 + 1
    return twoDigits (← hour.value?).toNat
  | .shortWeekday => do return .ofBytes (← (← time.checkedWeekdayName).front? 3)
  | .weekday => do return .ofBytes (← time.checkedWeekdayName)
  | .shortMonthName => do return .ofBytes (← (← time.checkedMonthName).front? 3)
  | .monthName => do return .ofBytes (← time.checkedMonthName)
  | .offset => do
    let minutes : Unsigned32 := ofInt time.offset.toInt.natAbs / 60
    let hours ← (minutes / 60).value?
    let rest ← (minutes % 60).value?
    return .ofByte (if time.offset.toInt < 0 then Ascii.minus else Ascii.plus) ++ twoDigits hours.toNat ++
      twoDigits rest.toNat
  | asked => some (time.text asked)

end Computing

variable {time : CivilTime} (ranges : time.InRange)

include ranges

theorem checkedWeekdayName_eq :
    time.checkedWeekdayName = some time.weekdayName ∧ time.weekdayName.front? 3 = some (time.weekdayName.take 3) := by
  have listed := getElem?_getD ranges.weekdayIndex
  have enough : ∀ name ∈ weekdayNames, 3 ≤ (Bytes.ofString name).length := by decide
  refine ⟨?_, Bytes.front?_eq (enough _ (List.mem_of_getElem? listed))⟩
  rw [checkedWeekdayName, listed]
  rfl

theorem checkedMonthName_eq :
    time.checkedMonthName = some time.monthName ∧ time.monthName.front? 3 = some (time.monthName.take 3) := by
  have month := ranges.month
  have indexIs : (ofInt time.month - 1 : Unsigned32).Is ((time.month : Int) - 1) :=
    (ofInt_is (by omega)).sub (number_is (by decide)) (by omega)
  have same : ((time.month : Int) - 1).toNat = time.month - 1 := by omega
  have listed := getElem?_getD ranges.monthIndex.2
  have enough : ∀ name ∈ monthNames, 3 ≤ (Bytes.ofString name).length := by decide
  refine ⟨?_, Bytes.front?_eq (enough _ (List.mem_of_getElem? listed))⟩
  simp only [Is] at indexIs
  simp only [checkedMonthName, indexIs, bind, Option.bind_some, same, listed]
  rfl

theorem checkedText_eq (directive : Directive) : time.checkedText directive = some (time.text directive) := by
  cases directive with
  | yearOfCentury =>
    have year := ranges.year
    have shortIs : (((ofInt time.year : Signed64).remEuclid 100).cast : Unsigned32).Is (time.year % 100) := by
      have rest : ((ofInt time.year : Signed64).remEuclid 100).Is (time.year % 100) :=
        (ofInt_is year).divide (number_is (by decide)) (by decide) (by omega)
      exact rest.cast (by omega)
    simp only [Is] at shortIs
    simp only [checkedText, shortIs, bind, Option.bind_some]
    rfl
  | hourOfHalf =>
    have hour := ranges.hour
    have laterIs : (ofInt time.hour + 11 : Unsigned32).Is ((time.hour : Int) + 11) :=
      (ofInt_is (by omega)).add (number_is (by decide)) (by omega)
    have restIs : ((ofInt time.hour + 11) % 12 : Unsigned32).Is (((time.hour : Int) + 11) % 12) :=
      laterIs.mod (number_is (by decide)) (by omega) (by decide) (by omega)
    have hourIs : ((ofInt time.hour + 11) % 12 + 1 : Unsigned32).Is (((time.hour : Int) + 11) % 12 + 1) :=
      restIs.add (number_is (by decide)) (by omega)
    have same : (((time.hour : Int) + 11) % 12 + 1).toNat = (time.hour + 11) % 12 + 1 := by omega
    simp only [Is] at hourIs
    simp only [checkedText, hourIs, bind, Option.bind_some, same]
    rfl
  | shortWeekday =>
    obtain ⟨named, cut⟩ := checkedWeekdayName_eq ranges
    simp only [checkedText, named, cut, bind, Option.bind_some]
    rfl
  | weekday =>
    simp only [checkedText, (checkedWeekdayName_eq ranges).1, bind, Option.bind_some]
    rfl
  | shortMonthName =>
    obtain ⟨named, cut⟩ := checkedMonthName_eq ranges
    simp only [checkedText, named, cut, bind, Option.bind_some]
    rfl
  | monthName =>
    simp only [checkedText, (checkedMonthName_eq ranges).1, bind, Option.bind_some]
    rfl
  | offset =>
    have low := time.offset.le_toInt
    have high := time.offset.toInt_lt
    have wholeIs : (ofInt time.offset.toInt.natAbs : Unsigned32).Is time.offset.toInt.natAbs := ofInt_is (by omega)
    have minutesIs : (ofInt time.offset.toInt.natAbs / 60 : Unsigned32).Is (time.offset.toInt.natAbs / 60 : Int) :=
      wholeIs.div (number_is (by decide)) (by omega) (by decide) (by omega)
    have hoursIs : (ofInt time.offset.toInt.natAbs / 60 / 60 : Unsigned32).Is
        ((time.offset.toInt.natAbs : Int) / 60 / 60) :=
      minutesIs.div (number_is (by decide)) (by omega) (by decide) (by omega)
    have restIs : (ofInt time.offset.toInt.natAbs / 60 % 60 : Unsigned32).Is
        ((time.offset.toInt.natAbs : Int) / 60 % 60) :=
      minutesIs.mod (number_is (by decide)) (by omega) (by decide) (by omega)
    simp only [Is] at hoursIs restIs
    simp only [checkedText, hoursIs, restIs, bind, Option.bind_some]
    rfl
  | _ => rfl

end CivilTime

end BoundedText
