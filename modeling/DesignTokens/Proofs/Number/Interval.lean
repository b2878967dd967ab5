import DesignTokens.Proofs.Number.Nearest

/-!
Doubles between two numbers, and how far a result of arithmetic can lie from the
exact one as long as it is small.
-/

namespace DesignTokens

def Between (x : Float) (low high : ℚ) : Prop :=
  ∃ number, Exactly x number ∧ low ≤ number ∧ number ≤ high

theorem Between.mono {x : Float} {low high lower higher : ℚ} (between : Between x low high)
    (below : lower ≤ low) (above : high ≤ higher) : Between x lower higher := by
  rcases between with ⟨number, exact, least, most⟩
  exact ⟨number, exact, below.trans least, most.trans above⟩

theorem Near.between {x : Float} {number margin : ℚ} (near : Near x number margin) :
    Between x (number - margin) (number + margin) := by
  rcases near with ⟨result, exact, close⟩
  rw [abs_le] at close
  exact ⟨result, exact, by linarith, by linarith⟩

def slack : ℚ :=
  2 ^ (10 - 52 : Int)

theorem slack_eq : slack = 1 / 4398046511104 := by
  norm_num [slack]

variable {x y : Float} {number other : ℚ}

theorem Exactly.sum (first : Exactly x number) (second : Exactly y other)
    (low : -1024 ≤ number + other) (high : number + other ≤ 1024) :
    Between (x + y) (number + other - slack) (number + other + slack) :=
  (first.add second (by decide : (-1022 : Int) ≤ 10) (by decide)
    (by rw [abs_le]; constructor <;> norm_num <;> linarith)).between

theorem Exactly.difference (first : Exactly x number) (second : Exactly y other)
    (low : -1024 ≤ number - other) (high : number - other ≤ 1024) :
    Between (x - y) (number - other - slack) (number - other + slack) :=
  (first.sub second (by decide : (-1022 : Int) ≤ 10) (by decide)
    (by rw [abs_le]; constructor <;> norm_num <;> linarith)).between

theorem Exactly.product (first : Exactly x number) (second : Exactly y other)
    (low : -1024 ≤ number * other) (high : number * other ≤ 1024) :
    Between (x * y) (number * other - slack) (number * other + slack) :=
  (first.mul second (by decide : (-1022 : Int) ≤ 10) (by decide)
    (by rw [abs_le]; constructor <;> norm_num <;> linarith)).between

theorem Exactly.ratio (first : Exactly x number) (second : Exactly y other) (divides : other ≠ 0)
    (low : -1024 ≤ number / other) (high : number / other ≤ 1024) :
    Between (x / y) (number / other - slack) (number / other + slack) :=
  (first.div second divides (by decide : (-1022 : Int) ≤ 10) (by decide)
    (by rw [abs_le]; constructor <;> norm_num <;> linarith)).between

theorem exactly_or_not_finite (x : Float) : (∃ number, Exactly x number) ∨
    x.toModel.unpack = .notANumber ∨ ∃ sign, x.toModel.unpack = .infinity sign := by
  cases shape : x.toModel.unpack with
  | zero sign =>
      exact Or.inl ⟨_, _, (ofFloat?_eq_partsOf? x).trans (congrArg partsOf? shape), rfl⟩
  | finite sign mantissa exponent positive =>
      exact Or.inl ⟨_, _, (ofFloat?_eq_partsOf? x).trans (congrArg partsOf? shape), rfl⟩
  | notANumber => exact Or.inr (Or.inl rfl)
  | infinity sign => exact Or.inr (Or.inr ⟨sign, rfl⟩)

theorem exists_exactly {low high : Float} (above : low < x) (below : x < high) :
    ∃ number, Exactly x number := by
  have beyond := decide_eq_true_iff.mp above
  have under := decide_eq_true_iff.mp below
  change (low.toModel.unpack.compare x.toModel.unpack == some .lt) = true at beyond
  change (x.toModel.unpack.compare high.toModel.unpack == some .lt) = true at under
  rcases exactly_or_not_finite x with exact | shape | ⟨sign, shape⟩
  · exact exact
  · rw [shape] at under
    exact Bool.noConfusion under
  · rw [shape] at beyond under
    cases sign with
    | negative =>
        generalize low.toModel.unpack = least at beyond
        cases least with
        | infinity other => cases other <;> exact Bool.noConfusion beyond
        | notANumber => exact Bool.noConfusion beyond
        | zero other => exact Bool.noConfusion beyond
        | finite other mantissa exponent positive =>
            cases other <;> exact Bool.noConfusion beyond
    | positive =>
        generalize high.toModel.unpack = most at under
        cases most with
        | infinity other => cases other <;> exact Bool.noConfusion under
        | notANumber => exact Bool.noConfusion under
        | zero other => exact Bool.noConfusion under
        | finite other mantissa exponent positive =>
            cases other <;> exact Bool.noConfusion under

/-- A double that is no less than one finite number and no more than another is between them. -/
theorem between_of_le {low high : Float} {least most : ℚ} (bottom : Exactly low least)
    (top : Exactly high most) (above : low ≤ x) (below : x ≤ high) : Between x least most := by
  have beyond := decide_eq_true_iff.mp above
  have under := decide_eq_true_iff.mp below
  change (low.toModel.unpack.compare x.toModel.unpack).any (·.isLE) = true at beyond
  change (x.toModel.unpack.compare high.toModel.unpack).any (·.isLE) = true at under
  rcases exactly_or_not_finite x with ⟨number, exact⟩ | shape | ⟨sign, shape⟩
  · exact ⟨number, exact, (bottom.le_iff exact).mp above, (exact.le_iff top).mp below⟩
  · rw [shape] at under
    exact Bool.noConfusion under
  · rw [shape] at beyond under
    cases sign with
    | negative =>
        rcases bottom.unpacked with ⟨other, zero, _⟩ | ⟨other, _, _, _, finite, _⟩
        · rw [zero] at beyond
          exact Bool.noConfusion beyond
        · rw [finite] at beyond
          cases other <;> exact Bool.noConfusion beyond
    | positive =>
        rcases top.unpacked with ⟨other, zero, _⟩ | ⟨other, _, _, _, finite, _⟩
        · rw [zero] at under
          exact Bool.noConfusion under
        · rw [finite] at under
          cases other <;> exact Bool.noConfusion under

end DesignTokens
