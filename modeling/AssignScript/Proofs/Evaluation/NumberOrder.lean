import AssignScript.Value

/-!
# The order of double-precision numbers

Two doubles are less, equal or greater as the standard for their arithmetic says: exactly one of the three, or none if
one of them is not a number, and the reverse the other way round. A whole number that is widened is always a number.

## Main statements

* `Value.orderFloats_eq_compare`: the order of doubles is that of the standard;
* `Value.orderFloats_swap`, `Value.orderFloats_eq_none_iff`: it is reversed the other way round, and missing only where
  one of them is not a number;
* `Value.isNaN_widenInteger`: widening keeps numbers.
-/

namespace AssignScript

open Float.Model

/-! ### Comparison -/

section Comparison

/-- Two finite doubles of one sign are ordered by their exponents first. -/
theorem compare_magnitudes_swap (m n : Nat) (d e : Int) :
    (compare e d).then (compare n m) = ((compare d e).then (compare m n)).swap := by
  rw [Ordering.swap_then, Int.compare_swap, Nat.compare_swap]

theorem compare_unpacked_swap (x y : UnpackedFloat) : y.compare x = (x.compare y).map Ordering.swap := by
  cases x with
  | notANumber => cases y <;> rfl
  | infinity s => cases s <;> rcases y with (_ | _) | _ | _ | ⟨_ | _, _⟩ <;> rfl
  | zero s => rcases y with (_ | _) | _ | _ | ⟨_ | _, _⟩ <;> rfl
  | finite s m d hm =>
    cases y with
    | notANumber => cases s <;> rfl
    | infinity t => cases s <;> cases t <;> rfl
    | zero t => cases s <;> rfl
    | finite t n e hn =>
      have hswap := compare_magnitudes_swap m n d e
      -- Of two negative numbers, that of the smaller magnitude is the greater one.
      cases s <;> cases t
      · exact congrArg (fun order => some order.swap) hswap
      · rfl
      · rfl
      · exact congrArg some hswap

theorem compare_unpacked_eq_none_iff (x y : UnpackedFloat) :
    x.compare y = none ↔ x.isNaN = true ∨ y.isNaN = true := by
  cases x with
  | notANumber => exact iff_of_true rfl (.inl rfl)
  | infinity s | zero s | finite s =>
    cases y with
    | notANumber => exact iff_of_true (by cases s <;> rfl) (.inr rfl)
    | infinity t | zero t | finite t => exact iff_of_false (by cases s <;> cases t <;> nofun) nofun

end Comparison

namespace Value

theorem lt_iff_compare (x y : Float) : x < y ↔ x.toModel.compare y.toModel = some .lt :=
  decide_eq_true_iff.trans beq_iff_eq

/-- The order of doubles is that of the standard. -/
theorem orderFloats_eq_compare (x y : Float) : orderFloats x y = x.toModel.compare y.toModel := by
  have hswap : y.toModel.compare x.toModel = (x.toModel.compare y.toModel).map Ordering.swap :=
    compare_unpacked_swap _ _
  have heq : (x == y) = (x.toModel.compare y.toModel == some .eq) := rfl
  simp only [orderFloats, lt_iff_compare, hswap, heq]
  cases x.toModel.compare y.toModel with
  | none => rfl
  | some order => cases order <;> rfl

/-- The other way round, the order of two doubles is the reverse. -/
theorem orderFloats_swap (x y : Float) : orderFloats y x = (orderFloats x y).map Ordering.swap := by
  rw [orderFloats_eq_compare, orderFloats_eq_compare]
  exact compare_unpacked_swap _ _

/-- Only what is not a number has no order. -/
theorem orderFloats_eq_none_iff (x y : Float) : orderFloats x y = none ↔ x.isNaN = true ∨ y.isNaN = true := by
  rw [orderFloats_eq_compare]
  exact compare_unpacked_eq_none_iff _ _

end Value

/-! ### Widening -/

section Widening

variable {spec : Format} {sign : UnpackedFloat.Sign}

/-- A choice between numbers is a number. -/
theorem isNaN_ite {c : Prop} [Decidable c] {x y : UnpackedFloat} (hx : c → x.isNaN = false)
    (hy : ¬ c → y.isNaN = false) : (if c then x else y).isNaN = false := by
  by_cases h : c
  · rw [if_pos h]
    exact hx h
  · rw [if_neg h]
    exact hy h

theorem isNaN_dite {c : Prop} [Decidable c] {x : c → UnpackedFloat} {y : ¬ c → UnpackedFloat}
    (hx : ∀ h, (x h).isNaN = false) (hy : ∀ h, (y h).isNaN = false) : (if h : c then x h else y h).isNaN = false := by
  by_cases h : c
  · rw [dif_pos h]
    exact hx h
  · rw [dif_neg h]
    exact hy h

/-- What is not a number has all bits of its exponent set, and one of its mantissa. -/
theorem isNaN_unpack {bits : BitVec spec.numBits}
    (h : UnpackedFloat.unpackExponent bits ≠ -1#_ ∨ UnpackedFloat.unpackMantissa bits = 0#_) :
    (UnpackedFloat.unpack spec bits).isNaN = false := by
  refine isNaN_ite (fun hexponent => ?_) fun _ => isNaN_ite (fun _ => isNaN_dite (fun _ => rfl) fun _ => rfl) fun _ => rfl
  exact isNaN_ite (fun _ => rfl) fun hmantissa => absurd (h.resolve_left (not_not_intro hexponent)) hmantissa

theorem isNaN_unpack_packComponents {exponent : BitVec spec.exponentBits}
    {mantissa : BitVec spec.mantissaBitsWithoutImplicit} (h : exponent ≠ -1#_ ∨ mantissa = 0#_) :
    (UnpackedFloat.unpack spec (UnpackedFloat.packComponents spec sign exponent mantissa)).isNaN = false := by
  refine isNaN_unpack ?_
  rwa [UnpackedFloat.unpackExponent_packComponents, UnpackedFloat.unpackMantissa_packComponents]

theorem isNaN_pack {x : UnpackedFloat} (h : x.isNaN = false) : (Float.Model.pack x).isNaN = false := by
  change (UnpackedFloat.unpack Format.binary64 (UnpackedFloat.pack Format.binary64 x)).isNaN = false
  fun_cases UnpackedFloat.pack Format.binary64 x with
  | case1 => cases h
  | case2 s => exact isNaN_unpack_packComponents (.inr rfl)
  | case3 s => exact isNaN_unpack_packComponents (.inr rfl)
  | case4 s m e hm => exact isNaN_unpack_packComponents (.inr rfl)
  | case5 s m e hm bits biased hbiased hbits =>
    refine isNaN_unpack_packComponents (.inl fun hexponent => ?_)
    -- A biased exponent with all bits set would have overflowed to infinity.
    have hall : biased % 2 ^ 11 = 2 ^ 11 - 1 := congrArg BitVec.toNat hexponent
    have hfits : ¬ 2 ^ 11 ≤ biased + 1 := hbiased
    omega
  | case6 s m e hm bits biased hbiased hbits => exact isNaN_unpack_packComponents (.inl (by decide))

theorem isNaN_roundWithAccuracy (m : Nat) (e : Int) (accuracy : UnpackedFloat.Accuracy) :
    (UnpackedFloat.roundWithAccuracy spec sign m e accuracy).isNaN = false :=
  isNaN_dite (fun _ => rfl) fun _ => rfl

theorem isNaN_unpacked_ofNat (n : Nat) : (UnpackedFloat.ofNat spec n).isNaN = false := by
  unfold UnpackedFloat.ofNat UnpackedFloat.ofInt UnpackedFloat.normalize
  split
  · exact isNaN_roundWithAccuracy ..
  · rfl
  · exact isNaN_roundWithAccuracy ..

theorem isNaN_mul_finite {x : UnpackedFloat} (h : x.isNaN = false) (m : Nat) (e : Int) (hm : 0 < m) :
    (UnpackedFloat.mul spec x (.finite sign m e hm)).isNaN = false := by
  cases x with
  | notANumber => cases h
  | finite t n d hn => exact isNaN_roundWithAccuracy ..
  | _ => rfl

theorem isNaN_unpacked_ofScientific (m e : Nat) : (UnpackedFloat.ofScientific spec m e).isNaN = false := by
  refine isNaN_dite (fun _ => rfl) fun _ => isNaN_ite (fun _ => rfl) fun _ => isNaN_ite (fun _ => rfl) fun _ => ?_
  rw [if_pos (Int.natCast_nonneg e)]
  exact isNaN_mul_finite rfl ..

theorem isNaN_ofNat (n : Nat) : (Float.ofNat n).isNaN = false := by
  change (Float.ofScientific n false 0).isNaN = false
  unfold Float.ofScientific
  split
  · have hone : Float.exactlyRepresentablePowersOfTen[0].toModel.unpack =
        .finite .positive (2 ^ 52) (-52) (by decide) := rfl
    refine isNaN_pack ?_
    change (UnpackedFloat.mul _ _ Float.exactlyRepresentablePowersOfTen[0].toModel.unpack).isNaN = false
    rw [hone]
    exact isNaN_mul_finite (isNaN_pack (isNaN_unpacked_ofNat _)) ..
  · exact isNaN_pack (isNaN_unpacked_ofScientific n 0)

theorem isNaN_neg {x : Float} (h : x.isNaN = false) : (-x).isNaN = false := by
  refine isNaN_pack ?_
  change x.toModel.unpack.isNaN = false at h
  cases hx : x.toModel.unpack with
  | notANumber =>
    rw [hx] at h
    cases h
  | _ => rfl

/-- A whole number that is widened is a number. -/
theorem Value.isNaN_widenInteger (i : Int64) : (widenInteger i).isNaN = false := by
  unfold widenInteger
  cases i.toInt with
  | ofNat n => exact isNaN_ofNat n
  | negSucc n => exact isNaN_neg (isNaN_ofNat (n + 1))

end Widening

end AssignScript
