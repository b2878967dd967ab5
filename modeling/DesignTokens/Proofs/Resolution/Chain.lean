import DesignTokens.Proofs.Resolution.Meaning
import DesignTokens.Proofs.Resolution.Plain

/-!
Chains of references.  The transforms on the way are applied to the value at the end,
the one that is closest to it first.
-/

namespace DesignTokens

inductive Chain (store : Store) (theme : Theme) : Path → List (Option Transform) → Path → Prop
  | here {path} : Chain store theme path [] path
  | plain {path text next transforms last} : Shows store theme path (.alias text) →
      Points store theme text next → Chain store theme next transforms last →
      Chain store theme path (none :: transforms) last
  | transformed {path text transform next transforms last} :
      Shows store theme path (.reference text transform) → Points store theme text next →
      Chain store theme next transforms last →
      Chain store theme path (transform :: transforms) last

variable {store : Store} {theme : Theme} {path next last : Path} {text : String}

theorem Reads.denotes {operand : Value} (reads : Reads store theme text operand)
    (points : Points store theme text next) : Denotes store theme next operand := by
  cases reads with
  | literal literal _ => exact absurd literal points.not_inline
  | followed other denotes =>
      rw [points.unique other]
      exact denotes

namespace Chain

theorem fits {transforms : List (Option Transform)} {allowance : Allowance}
    (chain : Chain store theme path transforms last) (fits : Fits store theme path allowance) :
    Fits store theme last allowance := by
  have whole := allowance.within?_zero
  induction chain with
  | here => exact fits
  | plain shows points _ ih =>
      rcases fits.within shows Value.Holds.alias with ⟨inner, within, fitting⟩
      obtain rfl := Option.some.inj (whole.symm.trans within)
      exact ih (fitting _ points)
  | transformed shows points _ ih =>
      rcases fits.within shows Value.Holds.reference with ⟨inner, within, fitting⟩
      obtain rfl := Option.some.inj (whole.symm.trans within)
      exact ih (fitting _ points)

end Chain

end DesignTokens
