import StoryRules.Proofs.Decimal.Whole
import StoryRules.Proofs.Draw.Nothing
import StoryRules.Proofs.Effect.Succeeds

/-!
# Amounts that cannot be combined

Two amounts can be combined unless one is a floating number and the other a whole number too large to be
converted to one.  A draw can be made from weights just if their positive parts add up, and to a total that the
draw can scale: then none of the weights is too large to be taken off the roll.

    (∃ c, combine onInt onFloat a b = .ok c) ↔ ¬ a.Clashes b      (combine_ok_iff)
    (∃ r, (Draw.pick weights draws).1 = .ok r) ↔ AddUp weights      (pick_ok_iff)
-/

namespace StoryRules.Amount

open Decimal Float.Model UnpackedFloat

/-- A whole number too large for a floating number. -/
def IsHuge : Amount → Prop
  | .int n => wholeBound ≤ n.natAbs
  | .float _ => False

/-- A whole number too large for a floating number next to a floating number. -/
def Clashes : Amount → Amount → Prop
  | .int m, .float _ => IsHuge (.int m)
  | .float _, .int n => IsHuge (.int n)
  | _, _ => False

theorem toFloat_ok_iff (a : Amount) : (∃ x, a.toFloat = .ok x) ↔ ¬ a.IsHuge := by
  cases a with
  | float x => exact iff_of_true ⟨x, rfl⟩ id
  | int n =>
    have hnone := ofIntFloat?_eq_none_iff n
    unfold toFloat
    dsimp only
    split
    · next x hx =>
      refine iff_of_true ⟨x, rfl⟩ fun hhuge => ?_
      rw [hnone.2 hhuge] at hx
      cases hx
    · next hx => exact iff_of_false nofun (not_not_intro (hnone.1 hx))

section

variable (onInt : Int → Int → Int) (onFloat : Float → Float → Float)

theorem combine_ok_iff (a b : Amount) :
    (∃ c, combine onInt onFloat a b = .ok c) ↔ ¬ a.Clashes b := by
  have hconverted : (∃ c, (do let x ← a.toFloat; let y ← b.toFloat; .ok (float (onFloat x y))) =
      (.ok c : Except Fault Amount)) ↔ ¬ a.IsHuge ∧ ¬ b.IsHuge := by
    rw [← toFloat_ok_iff, ← toFloat_ok_iff]
    constructor
    · rintro ⟨c, h⟩
      obtain ⟨x, hx, h⟩ := bind_eq_ok.1 h
      obtain ⟨y, hy, -⟩ := bind_eq_ok.1 h
      exact ⟨⟨x, hx⟩, ⟨y, hy⟩⟩
    · rintro ⟨⟨x, hx⟩, ⟨y, hy⟩⟩
      exact ⟨_, bind_eq_ok.2 ⟨x, hx, bind_eq_ok.2 ⟨y, hy, rfl⟩⟩⟩
  cases a with
  | int m =>
    cases b with
    | int n => exact iff_of_true ⟨int (onInt m n), rfl⟩ id
    | float y => exact hconverted.trans (and_iff_left id)
  | float x =>
    cases b with
    | int n => exact hconverted.trans (and_iff_right id)
    | float y => exact iff_of_true ⟨float (onFloat x y), rfl⟩ id

theorem combine_float_ok_iff (x : Float) (b : Amount) :
    (∃ c, combine onInt onFloat (.float x) b = .ok c) ↔ ¬ b.IsHuge := by
  rw [combine_ok_iff]
  cases b <;> exact Iff.rfl

/-- A floating number and an amount that is not too large make a floating number. -/
theorem combine_float (x : Float) {b : Amount} (hb : ¬ b.IsHuge) :
    ∃ c, combine onInt onFloat (.float x) b = .ok c ∧ ∃ y, c = .float y := by
  obtain ⟨y, hy⟩ := (toFloat_ok_iff b).2 hb
  exact ⟨.float (onFloat x y), bind_eq_ok.2 ⟨x, rfl, bind_eq_ok.2 ⟨y, hy, rfl⟩⟩, _, rfl⟩

end

/-! ## Converted amounts -/

theorem signOf_neg (x : Float) :
    signOf x.neg.toModel.unpack = (signOf x.toModel.unpack).map Ordering.swap := by
  rw [unpack_neg]
  rcases x.toModel.unpack with ⟨_ | _⟩ | _ | _ | ⟨_ | _⟩ <;> rfl

/-- What a whole number is converted to is a number. -/
theorem isNumber_ofInt (n : Int) : Number.IsNumber (float (Float.ofInt n)) := by
  rw [isNumber_iff]
  show signOf (Float.ofInt n).toModel.unpack ≠ none
  cases n with
  | ofNat n =>
    rw [signOf_ofInt (n := Int.ofNat n) (Int.natCast_nonneg n)]
    exact nofun
  | negSucc n =>
    have hpositive := signOf_ofInt (Int.natCast_nonneg n.succ)
    show signOf (Float.ofNat n.succ).neg.toModel.unpack ≠ none
    rw [signOf_neg, show signOf (Float.ofNat n.succ).toModel.unpack = _ from hpositive]
    exact nofun

/-! ## Parts of a total -/

/-- A part of a total: a floating number, or a whole one that is not below zero. -/
def IsPart (a : Amount) : Prop := ∀ n, a = .int n → 0 ≤ n

theorem isPart_positivePart (a : Amount) : IsPart (Draw.positivePart a) := by
  intro n hn
  cases a with
  | int m =>
    rw [positivePart_int] at hn
    cases hn
    exact Int.le_max_right m 0
  | float x =>
    unfold Draw.positivePart Number.larger at hn
    split at hn
    · cases hn
      exact Int.le_refl 0
    · cases hn

/-- What is huge stays huge when parts are added to it. -/
theorem IsPart.add {a b c : Amount} (ha : a.IsPart) (hb : b.IsPart) (h : Number.add a b = .ok c) :
    c.IsPart ∧ (a.IsHuge ∨ b.IsHuge → c.IsHuge) := by
  obtain ⟨m, n, rfl, rfl⟩ | ⟨x, y, hx, hy, rfl⟩ := combine_eq_ok h
  · cases h
    have hm := ha m rfl
    have hn := hb n rfl
    refine ⟨?_, ?_⟩
    · rintro _ ⟨⟩
      exact Int.add_nonneg hm hn
    · show wholeBound ≤ m.natAbs ∨ wholeBound ≤ n.natAbs → wholeBound ≤ (m + n).natAbs
      omega
  · refine ⟨nofun, ?_⟩
    rintro (hhuge | hhuge)
    · exact absurd hhuge ((toFloat_ok_iff a).1 ⟨x, hx⟩)
    · exact absurd hhuge ((toFloat_ok_iff b).1 ⟨y, hy⟩)

theorem IsPart.sumFrom {parts : List Amount} (hparts : ∀ part ∈ parts, part.IsPart) :
    ∀ {start total : Amount}, start.IsPart → Number.sumFrom start parts = .ok total →
      total.IsPart ∧ (start.IsHuge ∨ (∃ part ∈ parts, part.IsHuge) → total.IsHuge) := by
  induction parts with
  | nil =>
    rintro start total hstart ⟨⟩
    exact ⟨hstart, fun h => h.resolve_right fun ⟨_, hpart, _⟩ => List.not_mem_nil hpart⟩
  | cons part rest ih =>
    intro start total hstart hsum
    obtain ⟨next, hadd, hsum⟩ := bind_eq_ok.1 hsum
    obtain ⟨hnext, hhuge⟩ := hstart.add (hparts part List.mem_cons_self) hadd
    obtain ⟨htotal, hlater⟩ := ih (fun x hx => hparts x (List.mem_cons_of_mem _ hx)) hnext hsum
    refine ⟨htotal, fun h => hlater ?_⟩
    rcases h with h | ⟨x, hx, h⟩
    · exact .inl (hhuge (.inl h))
    · rcases List.mem_cons.1 hx with rfl | hx
      · exact .inl (hhuge (.inr h))
      · exact .inr ⟨x, hx, h⟩

/-! ## Draws -/

/-- The positive parts of weights can be added up, and the total is not too large for a floating number. -/
def AddUp (weights : List Amount) : Prop :=
  ∃ total, Number.sum (weights.map Draw.positivePart) = .ok total ∧ ¬ total.IsHuge

/-- With a floating number for a draw, one can be made just if the weights add up. -/
theorem pick_ok_iff {weights : List Amount} {draws : Feed Amount} {x : Float}
    (hdraw : draws.value draws.used = .float x) :
    (∃ r, (Draw.pick weights draws).1 = .ok r) ↔ AddUp weights := by
  have hparts : ∀ part ∈ weights.map Draw.positivePart, part.IsPart := by
    intro part hpart
    obtain ⟨a, -, rfl⟩ := List.mem_map.1 hpart
    exact isPart_positivePart a
  unfold Draw.pick AddUp
  dsimp only
  rcases hsum : Number.sum (weights.map Draw.positivePart) with fault | total
  · exact iff_of_false nofun nofun
  · have hzero : IsPart (.int 0) := by
      rintro _ ⟨⟩
      exact Int.le_refl 0
    obtain ⟨htotal, hhuge⟩ := IsPart.sumFrom hparts hzero hsum
    dsimp only
    split
    · next hzero =>
      refine iff_of_true ⟨none, rfl⟩ ⟨total, rfl, ?_⟩
      cases total with
      | float y => exact id
      | int n =>
        have hn := htotal n rfl
        have hmost := (atMost_int n 0).1 hzero
        obtain rfl : n = 0 := Int.le_antisymm hmost hn
        exact Nat.not_le.2 wholeBound_pos
    · constructor
      · rintro ⟨r, hr⟩
        obtain ⟨roll, hroll, -⟩ := bind_eq_ok.1 hr
        refine ⟨total, rfl, ?_⟩
        rw [← combine_float_ok_iff (· * ·) (· * ·) x, ← hdraw]
        exact ⟨roll, hroll⟩
      · rintro ⟨_, ⟨⟩, hfits⟩
        have hfit : ∀ part ∈ weights.map Draw.positivePart, ¬ part.IsHuge :=
          fun part hpart h => hfits (hhuge (.inr ⟨part, hpart, h⟩))
        obtain ⟨roll, hroll, hfloat⟩ := combine_float (· * ·) (· * ·) x hfits
        refine Draw.position_ok (P := fun roll => ∃ y, roll = .float y) ?_ hfloat ?_
        · show Number.mul (draws.value draws.used) total = .ok roll
          rw [hdraw]
          exact hroll
        · rintro part hpart _ ⟨y, rfl⟩
          exact combine_float (· - ·) (· - ·) y (hfit part hpart)

end StoryRules.Amount
