/-!
Line and column numbers as reports and stored documents carry them: an exact rational value, an
infinity, or no number at all. Comparisons with the last are always false, so that a position
without a number is never placed before another one.
-/

namespace Suppression

inductive Number where
  | nan
  | infinite (negative : Bool)
  | finite (value : Rat)
  deriving DecidableEq

namespace Number

instance : Inhabited Number := ⟨finite 0⟩

def ofNat (n : Nat) : Number :=
  finite n

instance (n : Nat) : OfNat Number n := ⟨ofNat n⟩

instance : NatCast Number := ⟨ofNat⟩

def lt : Number → Number → Bool
  | finite a, finite b => decide (a < b)
  | finite _, infinite negative => !negative
  | infinite negative, finite _ => negative
  | infinite a, infinite b => a && !b
  | nan, _ => false
  | _, nan => false

/-- Equal as quantities; `nan` is not equal to itself. -/
def same : Number → Number → Bool
  | nan, _ => false
  | a, b => decide (a = b)

instance : LT Number := ⟨fun a b => lt a b = true⟩

instance : LE Number := ⟨fun a b => (lt a b || same a b) = true⟩

instance (a b : Number) : Decidable (a < b) :=
  inferInstanceAs (Decidable (lt a b = true))

instance (a b : Number) : Decidable (a ≤ b) :=
  inferInstanceAs (Decidable ((lt a b || same a b) = true))

/-- The larger of two numbers, and `nan` if one of them is. -/
def max : Number → Number → Number
  | nan, _ => nan
  | _, nan => nan
  | a, b => if a < b then b else a

def isInteger : Number → Bool
  | finite q => q.den == 1
  | _ => false

/-- Nothing stands after the point; the infinities have no such part either. -/
def hasNoFraction : Number → Bool
  | finite q => q.den == 1
  | infinite _ => true
  | nan => false

def toNat : Number → Nat
  | finite q => q.floor.toNat
  | _ => 0

/-- Every whole number up to this one, 2^53 - 1, is held exactly. -/
def lastExact : Number :=
  9007199254740991

@[simp] theorem finite_lt_finite {a b : Rat} : finite a < finite b ↔ a < b := by
  change decide (a < b) = true ↔ a < b
  exact decide_eq_true_iff

@[simp] theorem finite_le_finite {a b : Rat} : finite a ≤ finite b ↔ a ≤ b := by
  change (decide (a < b) || decide (finite a = finite b)) = true ↔ a ≤ b
  simp [Rat.le_iff_lt_or_eq]

@[simp] theorem ofNat_lt_ofNat {m n : Nat} : ofNat m < ofNat n ↔ m < n :=
  finite_lt_finite.trans Rat.natCast_lt_natCast

theorem isInteger_ofNat (n : Nat) : (ofNat n).isInteger = true := by
  simp [ofNat, isInteger]

end Number

end Suppression
