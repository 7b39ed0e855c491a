/-
  TagCalc.Proofs.Number.NotANumber

  What is not a number stays so under the four operations, compares equal to nothing
  and is not finite. The operations unpack their operands and pack the result; on the
  unpacked side this is one case of each operation (`isNaN_of_packed`).
-/

import TagCalc.Number.Reading

namespace TagCalc.Number

open Float.Model (UnpackedFloat Format)

theorem unpack_pack_notANumber : (Float.Model.pack .notANumber).unpack = .notANumber := rfl

theorem isNaN_iff {x : Float} : x.isNaN = true ↔ x.toModel.unpack = .notANumber := by
  show x.toModel.unpack.isNaN = true ↔ _
  cases x.toModel.unpack with
  | notANumber => exact ⟨fun _ => rfl, fun _ => rfl⟩
  | infinity sign => exact ⟨nofun, nofun⟩
  | zero sign => exact ⟨nofun, nofun⟩
  | finite sign mantissa exponent positive => exact ⟨nofun, nofun⟩

theorem isNaN_nan : nan.isNaN = true := rfl

theorem isFinite_of_isNaN {x : Float} (h : x.isNaN = true) : x.isFinite = false := by
  show x.toModel.unpack.isFinite = false
  rw [isNaN_iff.1 h]
  rfl

theorem beq_of_isNaN {x : Float} (h : x.isNaN = true) (y : Float) : (x == y) = false := by
  show (x.toModel.unpack.compare y.toModel.unpack == some .eq) = false
  rw [isNaN_iff.1 h]
  rfl

/-! ## The four operations -/

/-- An operation of which one side is not a number has no number as its result, if it
    is so on unpacked numbers. -/
theorem isNaN_of_packed (op : UnpackedFloat → UnpackedFloat → UnpackedFloat)
    (hleft : ∀ v, op .notANumber v = .notANumber) (hright : ∀ u, op u .notANumber = .notANumber)
    {x y : Float} (h : x.isNaN = true ∨ y.isNaN = true) :
    (Float.ofModel (.pack (op x.toModel.unpack y.toModel.unpack))).isNaN = true := by
  rw [isNaN_iff]
  rcases h with hx | hy
  · rw [isNaN_iff.1 hx, hleft]
    exact unpack_pack_notANumber
  · rw [isNaN_iff.1 hy, hright]
    exact unpack_pack_notANumber

theorem isNaN_add {x y : Float} (h : x.isNaN = true ∨ y.isNaN = true) :
    (x + y).isNaN = true :=
  isNaN_of_packed (.add .binary64) (fun _ => rfl) (fun u => by cases u <;> rfl) h

theorem isNaN_sub {x y : Float} (h : x.isNaN = true ∨ y.isNaN = true) :
    (x - y).isNaN = true :=
  isNaN_of_packed (.sub .binary64) (fun _ => rfl) (fun u => by cases u <;> rfl) h

theorem isNaN_mul {x y : Float} (h : x.isNaN = true ∨ y.isNaN = true) :
    (x * y).isNaN = true :=
  isNaN_of_packed (.mul .binary64) (fun _ => rfl) (fun u => by cases u <;> rfl) h

theorem isNaN_div {x y : Float} (h : x.isNaN = true ∨ y.isNaN = true) :
    (x / y).isNaN = true :=
  isNaN_of_packed (.div .binary64) (fun _ => rfl) (fun u => by cases u <;> rfl) h

end TagCalc.Number
