import Inlay.Value.Basic
import Mathlib.Algebra.Order.Ring.Int
import Mathlib.Tactic.Ring

/-!
# Which values name the same entry

Two values name the same entry of a mapping if they have the same label (`Value.sameKey_iff`):
numbers are labelled by their size, whatever their kind, and times by the moment. Hence naming the
same entry is an equivalence among the values that name an entry at all.

For numbers this needs that a size is written in one way only, as it is in the standard form of the
format: a full mantissa, or the smallest exponent.
-/

namespace Inlay

namespace Binary64

/-- The form in which the numbers of the format are written. -/
def Standard : Binary64 → Prop
  | .finite _ mantissa exponent =>
    mantissa < 2 ^ 53 ∧ -1074 ≤ exponent ∧ (2 ^ 52 ≤ mantissa ∨ exponent = -1074)
  | _ => True

/-- The whole number that a finite number is a power of two of, with its sign. -/
def signed (negative : Bool) (mantissa : Nat) : Int := if negative then -mantissa else mantissa

/-- How often the smallest positive number of the format goes into a finite one. -/
def units (negative : Bool) (mantissa : Nat) (exponent : Int) : Int :=
  signed negative mantissa * 2 ^ (exponent + 1074).toNat

/-- How often the smallest positive number of the format goes into an integer. -/
def unitsOfInt (n : Int) : Int := n * 2 ^ 1074

theorem natAbs_signed (negative : Bool) (mantissa : Nat) :
    (signed negative mantissa).natAbs = mantissa := by
  cases negative <;> simp [signed]

/-- A number in the smallest units, without its sign. -/
theorem natAbs_units (negative : Bool) (mantissa : Nat) (exponent : Int) :
    (units negative mantissa exponent).natAbs = mantissa * 2 ^ (exponent + 1074).toNat := by
  rw [units, Int.natAbs_mul, natAbs_signed, Int.natAbs_pow]
  rfl

/-- A number is a ratio of a whole number and a power of two. -/
theorem ratio_eq (negative : Bool) (mantissa : Nat) (exponent : Int) :
    ratio negative mantissa exponent
      = (signed negative mantissa * 2 ^ exponent.toNat, 2 ^ (-exponent).toNat) := by
  cases negative <;> simp [ratio, signed]

/-- Both sides of an equation may be scaled by the same power of two. -/
theorem mul_two_pow_eq_iff {m n : Int} {a b c d : Nat} (h : a + d = c + b) :
    m * 2 ^ a = n * 2 ^ b ↔ m * 2 ^ c = n * 2 ^ d := by
  have hleft : m * 2 ^ a * 2 ^ d = m * 2 ^ c * 2 ^ b := by
    rw [mul_assoc, mul_assoc, ← pow_add, ← pow_add, h]
  have hright : n * 2 ^ b * 2 ^ d = n * 2 ^ d * 2 ^ b := by ring
  have hpos (k : Nat) : (2 : Int) ^ k ≠ 0 := pow_ne_zero k (by decide)
  constructor
  · intro heq
    apply mul_right_cancel₀ (hpos b)
    rw [← hleft, heq, hright]
  · intro heq
    apply mul_right_cancel₀ (hpos d)
    rw [hleft, heq, hright]

/-- A number of the format is equal to an integer if it has the same size. -/
theorem equalsInt_finite_iff {negative : Bool} {mantissa : Nat} {exponent n : Int}
    (hexponent : -1074 ≤ exponent) :
    (finite negative mantissa exponent).equalsInt n = true
      ↔ units negative mantissa exponent = unitsOfInt n := by
  rw [equalsInt, ratio_eq]
  dsimp only
  rw [beq_iff_eq, Nat.cast_pow, Nat.cast_ofNat, units, unitsOfInt]
  exact mul_two_pow_eq_iff (by omega)

/-- In the standard form, a mantissa is less than twice another one with a greater exponent. -/
theorem exponent_le_of_size_eq {m m' x x' : Nat} (hm : m < 2 ^ 53) (hm' : 2 ^ 52 ≤ m' ∨ x' = 0)
    (h : m * 2 ^ x = m' * 2 ^ x') : x' ≤ x := by
  by_contra hlt
  obtain ⟨d, rfl⟩ : ∃ d, x' = x + (d + 1) := ⟨x' - x - 1, by omega⟩
  have hfull : 2 ^ 52 ≤ m' := hm'.resolve_right (by omega)
  rw [pow_add, Nat.mul_left_comm, Nat.mul_comm m] at h
  have hsize : m = m' * 2 ^ (d + 1) := Nat.eq_of_mul_eq_mul_left (Nat.two_pow_pos x) h
  have hdouble : 2 ≤ 2 ^ (d + 1) := Nat.le_self_pow (Nat.succ_ne_zero d) 2
  have hlarge : m' * 2 ≤ m' * 2 ^ (d + 1) := Nat.mul_le_mul_left m' hdouble
  omega

/-- A size is written in one way in the standard form, but for the sign of zero. -/
theorem units_eq_iff {negative negative' : Bool} {mantissa mantissa' : Nat}
    {exponent exponent' : Int} (h : (finite negative mantissa exponent).Standard)
    (h' : (finite negative' mantissa' exponent').Standard) :
    units negative mantissa exponent = units negative' mantissa' exponent' ↔
      finite negative mantissa exponent = finite negative' mantissa' exponent' ∨
        mantissa = 0 ∧ mantissa' = 0 := by
  obtain ⟨hsmall, hlow, hfull⟩ := h
  obtain ⟨hsmall', hlow', hfull'⟩ := h'
  constructor
  · intro heq
    have hsize := congrArg Int.natAbs heq
    rw [natAbs_units, natAbs_units] at hsize
    -- a mantissa in standard form leaves no choice of the exponent
    have hle := exponent_le_of_size_eq hsmall (hfull'.imp_right (by omega)) hsize
    have hge := exponent_le_of_size_eq hsmall' (hfull.imp_right (by omega)) hsize.symm
    obtain rfl : exponent = exponent' := by omega
    obtain rfl : mantissa = mantissa' :=
      Nat.eq_of_mul_eq_mul_right (Nat.two_pow_pos _) hsize
    by_cases hzero : mantissa = 0
    · exact .inr ⟨hzero, hzero⟩
    · have hsign : signed negative mantissa = signed negative' mantissa :=
        mul_right_cancel₀ (pow_ne_zero _ (by decide)) heq
      cases negative <;> cases negative' <;> simp [signed] at hsign ⊢ <;> omega
  · rintro (heq | ⟨rfl, rfl⟩)
    · cases heq
      rfl
    · cases negative <;> cases negative' <;> simp [units, signed]

end Binary64

namespace Moment

/-- The moment in universal time, where the distance from it is known. -/
def instant? (moment : Moment) : Option Int :=
  (moment.time.bind (·.offset)).map fun offset =>
    ((moment.dayNumber * 1440 - offset) * 60) * 1000000 + (moment.time.map micros).getD 0

/-- The moment in universal time, or else the date and time as they are written. -/
def key (moment : Moment) : Int ⊕ Moment := moment.instant?.elim (.inr moment) .inl

/-- Moments coincide if they are the same on the line that they are put on. -/
theorem coincides_iff (a b : Moment) : a.coincides b = true ↔ a.key = b.key := by
  unfold coincides key instant?
  cases ha : a.time.bind (·.offset) with
  | none =>
    cases hb : b.time.bind (·.offset) with
    | none => simp
    | some q =>
      have hne : a ≠ b := fun h => by rw [h, hb] at ha; cases ha
      simp [hne]
  | some p =>
    cases hb : b.time.bind (·.offset) with
    | none =>
      have hne : a ≠ b := fun h => by rw [h, hb] at ha; cases ha
      simp [hne]
    | some q => simp

end Moment

namespace Value

/-- What an entry of a mapping is found by. -/
inductive Label where
  | nothing
  | number (units : Int)
  | infinity (negative : Bool)
  | text (s : String)
  | bytes (data : List UInt8)
  | moment (key : Int ⊕ Moment)
  | pair (first second : Label)

/-- The label of a number of the format. What is no number has none. -/
def Label.ofBinary64 : Binary64 → Option Label
  | .finite negative mantissa exponent =>
    some (.number (Binary64.units negative mantissa exponent))
  | .infinite negative => some (.infinity negative)
  | .nan => none

/-- The label of a value, if it can name an entry. -/
def label? : Value → Option Label
  | .null => some .nothing
  | .bool b => some (.number (Binary64.unitsOfInt (if b then 1 else 0)))
  | .int n => some (.number (Binary64.unitsOfInt n))
  | .float x => Label.ofBinary64 x
  | .text s => some (.text s)
  | .moment m => some (.moment m.key)
  | .bytes data => some (.bytes data)
  | .pair first second => (first.label?).bind fun label => (second.label?).map (.pair label)
  | _ => none

/-- To have one label is mutual. -/
theorem sameLabel_comm {first second : Option Label} :
    first = second ∧ first ≠ none ↔ second = first ∧ second ≠ none := by
  constructor <;> rintro ⟨rfl, h⟩ <;> exact ⟨rfl, h⟩

/-- A value whose number, if it is one, is in the standard form of the format; so are those of a
pair. -/
def Standard : Value → Prop
  | .float x => x.Standard
  | .pair first second => first.Standard ∧ second.Standard
  | _ => True

/-- Two floats name one entry if they are one number; what is not a number names none. -/
theorem sameKey_float_iff {x y : Binary64} (hx : x.Standard) (hy : y.Standard) :
    (float x).sameKey (float y) = true ↔
      Label.ofBinary64 x = Label.ofBinary64 y ∧ Label.ofBinary64 x ≠ none := by
  have hunfold : (float x).sameKey (float y) = true ↔
      x = y ∧ x ≠ .nan ∨ x.isZero = true ∧ y.isZero = true := by
    simp [sameKey]
  rw [hunfold]
  cases x with
  | nan => simp [Label.ofBinary64, Binary64.isZero]
  | infinite negative => cases y <;> simp [Label.ofBinary64, Binary64.isZero]
  | finite negative mantissa exponent =>
    cases y with
    | nan => simp [Label.ofBinary64, Binary64.isZero]
    | infinite negative => simp [Label.ofBinary64, Binary64.isZero]
    | finite negative' mantissa' exponent' =>
      have hunits := Binary64.units_eq_iff hx hy
      simpa [Label.ofBinary64, Binary64.isZero] using hunits.symm

/-- A number of the format and an integer name the same entry if they have the same size. -/
theorem equalsInt_iff {x : Binary64} (hx : x.Standard) (n : Int) :
    x.equalsInt n = true ↔
      Label.ofBinary64 x = some (.number (Binary64.unitsOfInt n)) := by
  cases x with
  | nan => simp [Label.ofBinary64, Binary64.equalsInt]
  | infinite negative => simp [Label.ofBinary64, Binary64.equalsInt]
  | finite negative mantissa exponent =>
    rw [Binary64.equalsInt_finite_iff hx.2.1]
    simp [Label.ofBinary64]

/-- Whole numbers are told apart by their units. -/
theorem unitsOfInt_eq_iff {m n : Int} :
    Binary64.unitsOfInt m = Binary64.unitsOfInt n ↔ m = n :=
  ⟨mul_right_cancel₀ (pow_ne_zero _ (by decide)), congrArg _⟩

variable {a b c : Value}

/-- The value is no pair. -/
def Single (value : Value) : Prop := ∀ first second, value ≠ .pair first second

/-- A number of the format and a value of another kind. -/
theorem sameKey_float_left_iff {x : Binary64} (hx : x.Standard) (hb : ∀ y, b ≠ .float y)
    (hsingle : b.Single) :
    (float x).sameKey b = true ↔
      Label.ofBinary64 x = b.label? ∧ Label.ofBinary64 x ≠ none := by
  cases b
  case float y => exact absurd rfl (hb y)
  case pair first second => exact absurd rfl (hsingle first second)
  case bool b =>
    rw [show (float x).sameKey (.bool b) = x.equalsInt (if b then 1 else 0) from rfl,
      equalsInt_iff hx, label?, and_iff_left_of_imp]
    intro h
    simp [h]
  case int n =>
    rw [show (float x).sameKey (.int n) = x.equalsInt n from rfl, equalsInt_iff hx, label?,
      and_iff_left_of_imp]
    intro h
    simp [h]
  all_goals cases x <;> simp [sameKey, asInt?, label?, Label.ofBinary64]

/-- A float and a value of another kind name one entry in either order. -/
theorem sameKey_float_comm (x : Binary64) (hb : ∀ y, b ≠ .float y) :
    b.sameKey (float x) = (float x).sameKey b := by
  cases b
  case float y => exact absurd rfl (hb y)
  all_goals rfl

/-- Of values that are no pairs, those with one label name one entry. -/
theorem sameKey_iff_of_single (ha : a.Standard) (hb : b.Standard) (hsingle : a.Single)
    (hsingle' : b.Single) :
    a.sameKey b = true ↔ a.label? = b.label? ∧ a.label? ≠ none := by
  -- only numbers of the format need their standard form, so they are split off on either side
  by_cases hfloat : ∃ x, a = .float x
  · obtain ⟨x, rfl⟩ := hfloat
    by_cases hother : ∃ y, b = .float y
    · obtain ⟨y, rfl⟩ := hother
      exact sameKey_float_iff ha hb
    · exact sameKey_float_left_iff ha (not_exists.1 hother) hsingle'
  by_cases hother : ∃ y, b = .float y
  · obtain ⟨y, rfl⟩ := hother
    rw [sameKey_float_comm y (not_exists.1 hfloat),
      sameKey_float_left_iff hb (not_exists.1 hfloat) hsingle]
    exact sameLabel_comm
  · cases a
    case float x => exact absurd ⟨x, rfl⟩ hfloat
    case pair first second => exact absurd rfl (hsingle first second)
    all_goals
      cases b
      case float y => exact absurd ⟨y, rfl⟩ hother
      case pair first second => exact absurd rfl (hsingle' first second)
      all_goals simp [sameKey, asInt?, label?, unitsOfInt_eq_iff, Moment.coincides_iff]

/-- The label of a pair is put together from those of its parts. -/
theorem label?_pair {first second : Value} {label : Label}
    (h : (pair first second).label? = some label) : ∃ x y, label = .pair x y := by
  rw [label?] at h
  obtain ⟨x, -, h⟩ := Option.bind_eq_some_iff.1 h
  obtain ⟨y, -, rfl⟩ := Option.map_eq_some_iff.1 h
  exact ⟨x, y, rfl⟩

/-- What is no pair has no label of a pair. -/
theorem label?_of_single (h : b.Single) (x y : Label) : b.label? ≠ some (.pair x y) := by
  intro hlabel
  cases b
  case pair first second => exact h first second rfl
  case float z => cases z <;> cases hlabel
  all_goals cases hlabel

/-- A pair and what is no pair name different entries. -/
theorem label?_pair_ne {first second : Value} (h : b.Single) :
    ¬ ((pair first second).label? = b.label? ∧ (pair first second).label? ≠ none) := by
  rintro ⟨hsame, hsome⟩
  obtain ⟨label, hlabel⟩ := Option.ne_none_iff_exists'.1 hsome
  obtain ⟨x, y, rfl⟩ := label?_pair hlabel
  exact label?_of_single h x y (hsame.symm.trans hlabel)

/-- A pair names no entry together with what is none. -/
theorem sameKey_pair_single {first second : Value} (h : b.Single) :
    (pair first second).sameKey b = false ∧ b.sameKey (pair first second) = false := by
  cases b
  case pair first' second' => exact absurd rfl (h first' second')
  all_goals exact ⟨rfl, rfl⟩

/-- Two values name the same entry if they have the same label. -/
theorem sameKey_iff {a b : Value} (ha : a.Standard) (hb : b.Standard) :
    a.sameKey b = true ↔ a.label? = b.label? ∧ a.label? ≠ none := by
  by_cases hpair : ∃ first second, a = .pair first second
  · obtain ⟨first, second, rfl⟩ := hpair
    by_cases hpair' : ∃ first' second', b = .pair first' second'
    · obtain ⟨first', second', rfl⟩ := hpair'
      have hparts : (pair first second).sameKey (pair first' second')
          = (first.sameKey first' && second.sameKey second') := rfl
      rw [hparts, Bool.and_eq_true, sameKey_iff ha.1 hb.1, sameKey_iff ha.2 hb.2, label?, label?]
      cases first.label? <;> cases first'.label? <;> cases second.label? <;>
        cases second'.label? <;> simp
    · have hsingle : b.Single := by simpa [Single] using hpair'
      exact iff_of_false (by simp [(sameKey_pair_single hsingle).1]) (label?_pair_ne hsingle)
  · have hsingle : a.Single := by simpa [Single] using hpair
    by_cases hpair' : ∃ first' second', b = .pair first' second'
    · obtain ⟨first', second', rfl⟩ := hpair'
      rw [sameLabel_comm]
      exact iff_of_false (by simp [(sameKey_pair_single hsingle).2]) (label?_pair_ne hsingle)
    · exact sameKey_iff_of_single ha hb hsingle (by simpa [Single] using hpair')

/-- Values that name the same entry as a third one name the same entry. -/
theorem sameKey_congr_left (ha : a.Standard) (hb : b.Standard) (hc : c.Standard)
    (h : a.sameKey b = true) : a.sameKey c = b.sameKey c := by
  have hlabel := ((sameKey_iff ha hb).1 h).1
  rw [Bool.eq_iff_iff, sameKey_iff ha hc, sameKey_iff hb hc, hlabel]

/-- Whether two keys name one entry does not depend on their order. -/
theorem sameKey_comm (ha : a.Standard) (hb : b.Standard) : a.sameKey b = b.sameKey a := by
  rw [Bool.eq_iff_iff, sameKey_iff ha hb, sameKey_iff hb ha]
  exact sameLabel_comm

end Value

end Inlay
