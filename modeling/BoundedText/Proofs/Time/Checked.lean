import Mathlib.Algebra.Group.Int.Defs

namespace BoundedText

/-- What has been computed in words that hold the numbers from `low` to `high`, or nothing where a
    result was no such number. -/
structure Checked (low high : Int) where
  value? : Option Int
deriving DecidableEq, Repr

abbrev Signed64 := Checked (-2 ^ 63) (2 ^ 63 - 1)

abbrev Unsigned32 := Checked 0 (2 ^ 32 - 1)

namespace Checked

variable {low high : Int}

def ofInt (value : Int) : Checked low high := ⟨if low ≤ value ∧ value ≤ high then some value else none⟩

def cast {low' high' : Int} (word : Checked low' high') : Checked low high :=
  match word.value? with
  | some value => ofInt value
  | none => ⟨none⟩

def combine (operation : Int → Int → Int) (left right : Checked low high) : Checked low high :=
  match left.value?, right.value? with
  | some left, some right => ofInt (operation left right)
  | _, _ => ⟨none⟩

def divide (operation : Int → Int → Int) (left right : Checked low high) : Checked low high :=
  if right.value? = some 0 then ⟨none⟩ else combine operation left right

instance (number : Nat) : OfNat (Checked low high) number := ⟨ofInt number⟩
instance : Add (Checked low high) := ⟨combine (· + ·)⟩
instance : Sub (Checked low high) := ⟨combine (· - ·)⟩
instance : Mul (Checked low high) := ⟨combine (· * ·)⟩
instance : Div (Checked low high) := ⟨divide Int.tdiv⟩
instance : Mod (Checked low high) := ⟨divide Int.tmod⟩

def divEuclid : Checked low high → Checked low high → Checked low high := divide (· / ·)

def remEuclid : Checked low high → Checked low high → Checked low high := divide (· % ·)

def Is (word : Checked low high) (value : Int) : Prop := word.value? = some value

theorem ofInt_is_iff {value result : Int} :
    (ofInt value : Checked low high).Is result ↔ (low ≤ value ∧ value ≤ high) ∧ value = result := by
  simp only [Is, ofInt, Option.ite_none_right_eq_some, Option.some.injEq]

theorem ofInt_is {value : Int} (bounds : low ≤ value ∧ value ≤ high) : (ofInt value : Checked low high).Is value :=
  ofInt_is_iff.mpr ⟨bounds, rfl⟩

theorem number_is {number : Nat} (bounds : low ≤ OfNat.ofNat number ∧ OfNat.ofNat number ≤ high) :
    (OfNat.ofNat number : Checked low high).Is (OfNat.ofNat number) := ofInt_is bounds

namespace Is

variable {left right : Checked low high} {first second : Int}

theorem cast {low' high' : Int} (same : left.Is first) (bounds : low' ≤ first ∧ first ≤ high') :
    (left.cast : Checked low' high').Is first := by
  simp only [Is] at same
  simp only [Checked.cast, same]
  exact ofInt_is bounds

theorem combine_iff {operation : Int → Int → Int} {result : Int} (same : left.Is first) (same' : right.Is second) :
    (Checked.combine operation left right).Is result ↔
      (low ≤ operation first second ∧ operation first second ≤ high) ∧ operation first second = result := by
  simp only [Is] at same same'
  simp only [Checked.combine, same, same', ofInt_is_iff]

example : (ofInt (2 ^ 63 - 1) + 1 : Signed64).value? = none := by decide +kernel

theorem combine {operation : Int → Int → Int} (same : left.Is first) (same' : right.Is second)
    (bounds : low ≤ operation first second ∧ operation first second ≤ high) :
    (Checked.combine operation left right).Is (operation first second) := (same.combine_iff same').mpr ⟨bounds, rfl⟩

theorem divide {operation : Int → Int → Int} (same : left.Is first) (same' : right.Is second) (divisor : second ≠ 0)
    (bounds : low ≤ operation first second ∧ operation first second ≤ high) :
    (Checked.divide operation left right).Is (operation first second) := by
  have nonzero : right.value? ≠ some 0 := by
    rw [same']
    simpa using divisor
  rw [Checked.divide, if_neg nonzero]
  exact same.combine same' bounds

theorem add (same : left.Is first) (same' : right.Is second) (bounds : low ≤ first + second ∧ first + second ≤ high) :
    (left + right).Is (first + second) := same.combine same' bounds

theorem sub (same : left.Is first) (same' : right.Is second) (bounds : low ≤ first - second ∧ first - second ≤ high) :
    (left - right).Is (first - second) := same.combine same' bounds

theorem mul (same : left.Is first) (same' : right.Is second) (bounds : low ≤ first * second ∧ first * second ≤ high) :
    (left * right).Is (first * second) := same.combine same' bounds

theorem div (same : left.Is first) (same' : right.Is second) (nonneg : 0 ≤ first) (positive : 0 < second)
    (bounds : low ≤ first / second ∧ first / second ≤ high) : (left / right).Is (first / second) := by
  rw [← Int.tdiv_eq_ediv_of_nonneg nonneg] at bounds ⊢
  exact same.divide same' (Int.ne_of_gt positive) bounds

theorem mod (same : left.Is first) (same' : right.Is second) (nonneg : 0 ≤ first) (positive : 0 < second)
    (bounds : low ≤ first % second ∧ first % second ≤ high) : (left % right).Is (first % second) := by
  rw [← Int.tmod_eq_emod_of_nonneg nonneg] at bounds ⊢
  exact same.divide same' (Int.ne_of_gt positive) bounds

end Is

end Checked

end BoundedText
