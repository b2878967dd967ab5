import DesignTokens.Proofs.Resolution.Meaning
import DesignTokens.Proofs.Resolution.Plain
import DesignTokens.Resolution.Query

/-!
What resolution depends on: the values of the paths that are reported as referred
to, directly or through others.  Two stores that agree on these resolve a path alike.
-/

namespace DesignTokens

open Relation

def RefersTo (store : Store) (theme : Theme) (path target : Path) : Prop :=
  path ∈ store.referrers target theme

abbrev DependsOn (store : Store) (theme : Theme) : Path → Path → Prop :=
  ReflTransGen (RefersTo store theme)

theorem refersTo_iff {store : Store} {theme : Theme} {path target : Path} :
    RefersTo store theme path target ↔
      ∃ raw, store.visible? path theme = some raw ∧
        ∃ text ∈ raw.targets, Path.ofReference? text = some target := by
  simp only [RefersTo, Store.referrers, List.mem_filter, Option.any_eq_true, Value.refersTo,
    List.any_eq_true, beq_iff_eq]
  constructor
  · exact fun reported => reported.2
  · rintro ⟨raw, shown, mentions⟩
    exact ⟨Store.mem_visiblePaths_of_visible? shown, raw, shown, mentions⟩

theorem ofReference?_eq_none_of_target? {store : Store} {theme : Theme} {text : String}
    (shapeless : Path.ofReference? text = none) : store.target? theme text = none := by
  unfold Store.target?
  split
  · rfl
  · rw [shapeless]

theorem target?_congr {first second : Store} {theme other : Theme} {text : String}
    (agree : ∀ path, Path.ofReference? text = some path →
      first.visible? path theme = second.visible? path other) :
    first.target? theme text = second.target? other text := by
  cases spelled : Path.ofReference? text with
  | none => rw [ofReference?_eq_none_of_target? spelled, ofReference?_eq_none_of_target? spelled]
  | some path => simp only [Store.target?, spelled, agree path spelled]

/-- Two stores, each under a theme, show the same at all that a path depends on. -/
def AgreeFrom (first : Store) (theme : Theme) (second : Store) (other : Theme) (path : Path) :
    Prop :=
  ∀ needed, DependsOn first theme path needed →
    first.visible? needed theme = second.visible? needed other

namespace AgreeFrom

variable {first second : Store} {theme other : Theme} {path next : Path} {raw : Value}
  {text : String}

theorem here (agree : AgreeFrom first theme second other path) :
    first.visible? path theme = second.visible? path other :=
  agree path ReflTransGen.refl

theorem step (agree : AgreeFrom first theme second other path)
    (shown : first.visible? path theme = some raw) (mentions : text ∈ raw.targets)
    (spelled : Path.ofReference? text = some next) :
    AgreeFrom first theme second other next := by
  intro needed depends
  have reported : RefersTo first theme path next :=
    refersTo_iff.mpr ⟨raw, shown, text, mentions, spelled⟩
  exact agree needed (ReflTransGen.head reported depends)

theorem target?_eq (agree : AgreeFrom first theme second other path)
    (shown : first.visible? path theme = some raw) (mentions : text ∈ raw.targets) :
    first.target? theme text = second.target? other text :=
  target?_congr fun _ spelled => (agree.step shown mentions spelled).here

theorem follows (agree : AgreeFrom first theme second other path)
    (shown : first.visible? path theme = some raw) (mentions : text ∈ raw.targets)
    (points : Points first theme text next) : AgreeFrom first theme second other next :=
  agree.step shown mentions (ofReference?_eq_some_iff.mpr ⟨points.shaped, points.spelled⟩)

end AgreeFrom

theorem plainFrom_congr {first second : Store} {theme other : Theme} {trail : List Path}
    {current : Path} (agree : AgreeFrom first theme second other current) :
    plainFrom first theme trail current = plainFrom second other trail current := by
  induction trail, current using plainFrom.induct first theme with
  | case1 trail current visited =>
      rw [plainFrom_visited visited, plainFrom_visited visited]
  | case2 trail current fresh missing =>
      have absent := agree.here.symm.trans missing
      rw [plainFrom_missing fresh missing, plainFrom_missing fresh absent]
  | case3 trail current fresh raw shown ih =>
      have present := agree.here.symm.trans shown
      rw [plainFrom_shown fresh shown, plainFrom_shown fresh present]
      refine Value.replaceReferences_congr raw ?_
      intro _ text transform holds
      have mentions := Value.mem_targets_of_mem_references holds.mem_references
      unfold readWith
      rw [← agree.target?_eq shown mentions]
      cases found : first.target? theme text with
      | none => rfl
      | some target =>
          have points := target?_eq_some_iff.mp found
          have walked := ih target (agree.follows shown mentions points)
          simp only [walked]

theorem Leads.congr {first second : Store} {theme other : Theme} {path last : Path} {frames : Nat}
    (leads : Leads second other path frames last)
    (agree : AgreeFrom first theme second other path) :
    Leads first theme path frames last ∧ AgreeFrom first theme second other last := by
  induction leads with
  | here => exact ⟨Leads.here, agree⟩
  | step shows holds points _ ih =>
      have mentions := Value.mem_targets_of_mem_references holds.mem_references
      have shown := agree.here.trans (visible?_eq_some_iff.mpr shows)
      have same := agree.target?_eq shown mentions
      rw [target?_eq_some_iff.mpr points, target?_eq_some_iff] at same
      rcases ih (agree.follows shown mentions same) with ⟨leads, later⟩
      exact ⟨Leads.step (visible?_eq_some_iff.mp shown) holds same leads, later⟩

theorem Fits.congr {first second : Store} {theme other : Theme} {path : Path}
    {allowance : Allowance} (fits : Fits first theme path allowance)
    (agree : AgreeFrom first theme second other path) : Fits second other path allowance := by
  cases allowance with
  | unlimited => trivial
  | frames count =>
      intro frames last raw depth text transform leads shows holds
      rcases leads.congr agree with ⟨leads, later⟩
      have shown := later.here.trans (visible?_eq_some_iff.mpr shows)
      exact fits frames last raw depth text transform leads (visible?_eq_some_iff.mp shown) holds

theorem Denotes.congr {first second : Store} {theme : Theme} {path : Path} {value : Value}
    (agree : ∀ path, first.visible? path theme = second.visible? path theme)
    (denotes : Denotes first theme path value) : Denotes second theme path value := by
  rw [← plainFrom_nil_eq_ok_iff] at denotes ⊢
  rw [← denotes]
  exact (plainFrom_congr fun path _ => agree path).symm

end DesignTokens
