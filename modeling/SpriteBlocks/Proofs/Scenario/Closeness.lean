import SpriteBlocks.Proofs.Decimal.Truncation
import SpriteBlocks.Proofs.Scenario.Verdict
import SpriteBlocks.Proofs.Stage.Bounds

/-!
# How close a sprite must come

A quantity of the sprite is refused if it is off by more than the tolerance. A
difference that is no number is not more than anything, so a quantity passes as
well where one side is NaN or both sides are the same infinity. A sprite is as
expected exactly if the check passes and no difference is undefined.
-/
namespace SpriteBlocks

namespace Decimal
open Float.Model UnpackedFloat

theorem isNaN_unpack_packComponents {s : Sign} {e : BitVec 11} (m : BitVec 52) (he : e ≠ -1#11) :
    (UnpackedFloat.unpack .binary64 (packComponents .binary64 s e m)).isNaN = false := by
  have hones : unpackExponent (packComponents .binary64 s e m) ≠ -1#_ := by
    rwa [unpackExponent_packComponents]
  by_cases hleast : unpackExponent (packComponents .binary64 s e m) = 0#_
  · by_cases hempty : unpackMantissa (packComponents .binary64 s e m) = 0#_
    · rw [unpack_eq_zero _ hones hleast hempty]
      rfl
    · obtain ⟨_, hunpack⟩ := unpack_eq_subnormal _ hones hleast hempty
      rw [hunpack]
      rfl
  · obtain ⟨_, hunpack⟩ := unpack_eq_normal _ hones hleast
    rw [hunpack]
    rfl

/-- What is packed is read as no number exactly if it is none. -/
theorem isNaN_unpack_pack (u : UnpackedFloat) : (Float.Model.pack u).unpack.isNaN = u.isNaN := by
  change (UnpackedFloat.unpack .binary64 (UnpackedFloat.pack .binary64 u)).isNaN = u.isNaN
  cases u with
  | notANumber => rfl
  | infinity s => cases s <;> rfl
  | zero s => cases s <;> rfl
  | finite s m e hm =>
    change (UnpackedFloat.unpack .binary64 (ite _ _ _)).isNaN = false
    split
    · cases s <;> rfl
    · next hsmall =>
      split
      · refine isNaN_unpack_packComponents _ fun hones => ?_
        have hbits := congrArg BitVec.toNat hones
        rw [BitVec.toNat_ofNat] at hbits
        change _ % 2 ^ 11 = 2047 at hbits
        change ¬ 2 ^ 11 ≤ _ at hsmall
        omega
      · exact isNaN_unpack_packComponents _ (by decide)

theorem isNaN_abs (x : Float) : x.abs.isNaN = x.isNaN := by
  refine (isNaN_unpack_pack _).trans ?_
  change x.toModel.unpack.abs.isNaN = x.toModel.unpack.isNaN
  cases x.toModel.unpack <;> rfl

theorem isNaN_dite {p : Prop} [Decidable p] {u : p → UnpackedFloat} {v : ¬ p → UnpackedFloat}
    (hu : ∀ h, (u h).isNaN = false) (hv : ∀ h, (v h).isNaN = false) :
    (dite p u v).isNaN = false := by
  by_cases h : p
  · rw [dif_pos h, hu]
  · rw [dif_neg h, hv]

theorem isNaN_round (spec : Format) (s : Sign) (m : Nat) (e : Int) :
    (UnpackedFloat.round spec s m e).isNaN = false :=
  isNaN_dite (fun _ => rfl) fun _ => rfl

theorem isNaN_normalize (spec : Format) (m e : Int) (s : Sign) :
    (UnpackedFloat.normalize spec m e s).isNaN = false := by
  rw [UnpackedFloat.normalize]
  split
  · exact isNaN_round _ _ _ _
  · rfl
  · exact isNaN_round _ _ _ _

theorem isNaN_sub_unpacked (u v : UnpackedFloat) : (UnpackedFloat.sub .binary64 u v).isNaN = true ↔
    u.isNaN = true ∨ v.isNaN = true ∨ u.isInf = true ∧ u.beq v = true := by
  have hnumbers {u v : UnpackedFloat} (hu : u.isNaN = false) (hv : v.isNaN = false)
      (hinf : u.isInf = false) :
      ¬ (u.isNaN = true ∨ v.isNaN = true ∨ u.isInf = true ∧ u.beq v = true) := by
    simp [hu, hv, hinf]
  cases u with
  | notANumber => exact iff_of_true rfl (.inl rfl)
  | infinity s =>
    cases v with
    | notANumber => exact iff_of_true rfl (.inr (.inl rfl))
    | infinity t => cases s <;> cases t <;> decide
    | _ =>
      refine iff_of_false nofun ?_
      rintro (h | h | ⟨-, h⟩) <;> cases s <;> cases h
  | zero s =>
    cases v with
    | notANumber => exact iff_of_true rfl (.inr (.inl rfl))
    | zero t => cases s <;> cases t <;> decide
    | _ => exact iff_of_false nofun (hnumbers rfl rfl rfl)
  | finite s m e hm =>
    cases v with
    | notANumber => exact iff_of_true rfl (.inr (.inl rfl))
    | finite t m' e' hm' =>
      refine iff_of_false ?_ (hnumbers rfl rfl rfl)
      rw [Bool.not_eq_true]
      exact isNaN_normalize _ _ _ _
    | _ => exact iff_of_false nofun (hnumbers rfl rfl rfl)

/-- A difference is no number if one side is none or both are the same infinity. -/
theorem isNaN_sub_iff {x y : Float} :
    (x - y).isNaN = true ↔ x.isNaN = true ∨ y.isNaN = true ∨ x.isInf = true ∧ (x == y) = true := by
  have hpacked : (x - y).isNaN =
      (UnpackedFloat.sub .binary64 x.toModel.unpack y.toModel.unpack).isNaN :=
    isNaN_unpack_pack _
  rw [hpacked]
  exact isNaN_sub_unpacked _ _

theorem not_lt_of_le {x y : Float} (h : y ≤ x) : ¬ x < y := by
  intro hlt
  have hmodel : y.toModel.unpack.le x.toModel.unpack = true := of_decide_eq_true h
  have hmodel' : x.toModel.unpack.lt y.toModel.unpack = true := of_decide_eq_true hlt
  rw [UnpackedFloat.le, compare_swap x.toModel.unpack] at hmodel
  rw [UnpackedFloat.lt, beq_iff_eq] at hmodel'
  rw [hmodel'] at hmodel
  cases hmodel

theorem compare_notANumber (u : UnpackedFloat) : u.compare .notANumber = none := by
  cases u <;> rfl

theorem unpack_of_isNaN {x : Float} (h : x.isNaN = true) : x.toModel.unpack = .notANumber := by
  change x.toModel.unpack.isNaN = true at h
  cases hx : x.toModel.unpack with
  | notANumber => rfl
  | _ =>
    rw [hx] at h
    cases h

theorem not_le_of_isNaN {x y : Float} (h : y.isNaN = true) : ¬ y ≤ x := by
  intro hle
  have hmodel : y.toModel.unpack.le x.toModel.unpack = true := of_decide_eq_true hle
  rw [UnpackedFloat.le, compare_swap x.toModel.unpack, unpack_of_isNaN h, compare_notANumber]
    at hmodel
  cases hmodel

theorem not_lt_of_isNaN {x y : Float} (h : y.isNaN = true) : ¬ x < y := by
  intro hlt
  have hmodel : x.toModel.unpack.lt y.toModel.unpack = true := of_decide_eq_true hlt
  rw [UnpackedFloat.lt, unpack_of_isNaN h, compare_notANumber] at hmodel
  cases hmodel

/-- What is not above a number is below it or equal, or it is no number. -/
theorem not_lt_iff {x y : Float} (hx : x.isNaN = false) : ¬ x < y ↔ y ≤ x ∨ y.isNaN = true := by
  constructor
  · intro h
    by_cases hy : y.isNaN = true
    · exact .inr hy
    · exact .inl (le_of_not_lt hx (Bool.eq_false_iff.2 hy) h)
  · rintro (hle | hy)
    · exact not_lt_of_le hle
    · exact not_lt_of_isNaN hy

theorem not_beq_of_isFinite {x y : Float} (hx : x.isInf = true) (hy : y.isFinite = true) :
    ¬ (x == y) = true := by
  have key (u v : UnpackedFloat) (hu : u.isInf = true) (hv : v.isFinite = true) :
      ¬ u.beq v = true := by
    cases u with
    | infinity s =>
      cases v with
      | notANumber => cases hv
      | infinity t => cases hv
      | _ => cases s <;> nofun
    | _ => cases hu
  exact key _ _ hx hy

end Decimal

namespace Scenario

/-- The two values are as close as they have to be. -/
def Near (want got : Float) : Prop := (want - got).abs ≤ spriteTolerance

def Undefined (want got : Float) : Prop :=
  want.isNaN = true ∨ got.isNaN = true ∨ want.isInf = true ∧ (want == got) = true

theorem undefined_iff {want got : Float} :
    Undefined want got ↔ (want - got).abs.isNaN = true := by
  rw [Decimal.isNaN_abs, Decimal.isNaN_sub_iff]
  rfl

instance (want got : Float) : Decidable (Undefined want got) :=
  inferInstanceAs (Decidable (_ ∨ _ ∨ _ ∧ _))

/-- No two values are near and have no difference. -/
theorem Near.not_undefined {want got : Float} (h : Near want got) : ¬ Undefined want got :=
  fun hundefined => Decimal.not_le_of_isNaN (undefined_iff.1 hundefined) h

theorem not_off_iff {want got : Float} :
    ¬ spriteTolerance < (want - got).abs ↔ Near want got ∨ Undefined want got := by
  rw [undefined_iff]
  exact Decimal.not_lt_iff (by decide)

namespace ExpectedSprite

/-- The quantities that are given, each with the one that is found. -/
def quantities (e : ExpectedSprite) (found : Sprite) : List (Float × Float) :=
  [(e.x, found.x), (e.y, found.y), (e.rotation, found.rotation), (e.size, found.size)].filterMap
    fun q => q.1.map fun want => (want, q.2)

/-- Every quantity that is given stands in the relation to the one that is found. -/
def Each (R : Float → Float → Prop) (e : ExpectedSprite) (found : Sprite) : Prop :=
  ∀ q ∈ e.quantities found, R q.1 q.2

instance (R : Float → Float → Prop) [∀ want got, Decidable (R want got)] (e : ExpectedSprite)
    (found : Sprite) : Decidable (e.Each R found) :=
  inferInstanceAs (Decidable (∀ q ∈ e.quantities found, R q.1 q.2))

theorem each_iff {R : Float → Float → Prop} {e : ExpectedSprite} {found : Sprite} :
    e.Each R found ↔ (∀ x, e.x = some x → R x found.x) ∧ (∀ y, e.y = some y → R y found.y) ∧
      (∀ r, e.rotation = some r → R r found.rotation) ∧
      (∀ s, e.size = some s → R s found.size) := by
  simp only [Each, quantities, List.forall_mem_filterMap, List.forall_mem_cons]
  simp [Option.map_eq_some_iff]

/-- The sprite is as expected: every quantity that is given is near, and the
sprite is visible or not as is given. -/
structure Matches (e : ExpectedSprite) (found : Sprite) : Prop where
  near : e.Each Near found
  visible : ∀ v, e.visible = some v → v = found.visible

theorem fits_iff {e : ExpectedSprite} {found : Sprite} :
    e.Fits found ↔ e.Each (fun want got => Near want got ∨ Undefined want got) found ∧
      ∀ v, e.visible = some v → v = found.visible := by
  rw [each_iff]
  simp only [← not_off_iff]
  constructor
  · rintro ⟨hx, hy, hrotation, hsize, hvisible⟩
    exact ⟨⟨hx, hy, hrotation, hsize⟩, hvisible⟩
  · rintro ⟨⟨hx, hy, hrotation, hsize⟩, hvisible⟩
    exact ⟨hx, hy, hrotation, hsize, hvisible⟩

theorem Each.mono {R S : Float → Float → Prop} {e : ExpectedSprite} {found : Sprite}
    (h : e.Each R found) (hRS : ∀ q ∈ e.quantities found, R q.1 q.2 → S q.1 q.2) :
    e.Each S found :=
  fun q hq => hRS q hq (h q hq)

/-- What is expected holds exactly if nothing is off and every difference is a number. -/
theorem matches_iff {e : ExpectedSprite} {found : Sprite} :
    e.Matches found ↔ e.Fits found ∧ e.Each (fun want got => ¬ Undefined want got) found := by
  rw [fits_iff]
  constructor
  · rintro ⟨hnear, hvisible⟩
    exact ⟨⟨hnear.mono fun _ _ => .inl, hvisible⟩, hnear.mono fun _ _ => Near.not_undefined⟩
  · rintro ⟨⟨hpasses, hvisible⟩, hdefined⟩
    exact ⟨hpasses.mono fun q hq h => h.resolve_right (hdefined q hq), hvisible⟩

end ExpectedSprite

theorem not_undefined_of_isFinite {want got : Float} (hwant : want.isNaN = false)
    (hgot : got.isFinite = true) : ¬ Undefined want got := by
  rintro (hnan | hnan | ⟨hinf, hsame⟩)
  · rw [hwant] at hnan
    cases hnan
  · rw [Decimal.isNaN_of_isFinite hgot] at hnan
    cases hnan
  · exact Decimal.not_beq_of_isFinite hinf hgot hsame

/-- The check of a sprite passes exactly if every quantity that is given is near
or has no difference, and the visibility is as given. So a sprite is as expected
exactly if the check passes and every difference is a number, as it is if what is
expected is not NaN and what is found is finite. -/
theorem checkSprite_passes_iff (e : ExpectedSprite) (found : Sprite) :
    (checkSprite e found = .ok () ↔
      e.Each (fun want got => Near want got ∨ Undefined want got) found ∧
        ∀ v, e.visible = some v → v = found.visible) ∧
    (e.Matches found ↔ checkSprite e found = .ok () ∧
      e.Each (fun want got => ¬ Undefined want got) found) ∧
    (e.Each (fun want got => want.isNaN = false ∧ got.isFinite = true) found →
      (checkSprite e found = .ok () ↔ e.Matches found)) := by
  rw [checkSprite_eq_ok_iff, ExpectedSprite.matches_iff]
  refine ⟨ExpectedSprite.fits_iff, Iff.rfl, fun hnumbers => ?_⟩
  have hdefined : e.Each (fun want got => ¬ Undefined want got) found :=
    hnumbers.mono fun _ _ h => not_undefined_of_isFinite h.1 h.2
  exact (and_iff_left hdefined).symm

/-- A position half a tolerance off is as expected, and one at infinity is not. -/
theorem checkSprite_passes_near :
    let near : ExpectedSprite := { x := some 50.0000005, visible := some true }
    let far : ExpectedSprite := { near with y := some (1.0 / 0.0) }
    near.Each (fun want got => want.isNaN = false ∧ got.isFinite = true) {} ∧ near.Matches {} ∧
      far.Each (fun want got => want.isNaN = false ∧ got.isFinite = true) {} ∧
      ¬ far.Matches {} := by
  intro near far
  have hnear : near.Each (fun want got => want.isNaN = false ∧ got.isFinite = true) {} := by
    decide
  have hfar : far.Each (fun want got => want.isNaN = false ∧ got.isFinite = true) {} := by
    decide
  exact ⟨hnear, ((checkSprite_passes_iff near {}).2.2 hnear).1 (by decide), hfar,
    fun h => absurd (((checkSprite_passes_iff far {}).2.2 hfar).2 h) (by decide)⟩

/-- A position that is expected to be NaN passes, and so does the scenario that expects it. -/
theorem checkSprite_passes_nan :
    let e : ExpectedSprite := { x := some (0.0 / 0.0) }
    let s : Scenario := { expectations := { sprite := some e }, script := "" }
    checkSprite e {} = .ok () ∧ ¬ e.Matches {} ∧
      read "---\nexpect-sprite = \x7b x = nan \x7d\n---\n" = .ok s ∧ s.trial.1.isOk = true := by
  intro e s
  refine ⟨by decide, fun h => ?_, by decide +kernel, by decide +kernel⟩
  have hnear : Near (0.0 / 0.0) ({} : Sprite).x := (ExpectedSprite.each_iff.1 h.near).1 _ rfl
  exact hnear.not_undefined (by decide)

end Scenario
end SpriteBlocks
