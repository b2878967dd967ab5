import DesignTokens.Proofs.Stylesheet.Token
import DesignTokens.Proofs.TokenSystem.Transparency

/-!
What is lost when a token is left to the page.  The variable that stands for it is all
there is to the token exactly if nothing but plain references lead to it.
-/

namespace DesignTokens

open Relation

namespace Value

def plainTarget? : Value → Option String
  | .alias text => some text
  | .reference text none => some text
  | _ => none

def reshapes : Value → Bool
  | .array _ => true
  | .object _ => true
  | .reference _ (some _) => true
  | _ => false

theorem plain_or_reshapes_or_scalar (value : Value) :
    (∃ text, value.plainTarget? = some text ∧ value.references = [(text, none)]) ∨
      value.reshapes = true ∨ value.references = [] := by
  cases value with
  | reference text transform => cases transform <;> simp [plainTarget?, reshapes, references]
  | _ => simp [plainTarget?, reshapes, references]

theorem not_reshapes_of_plainTarget? {value : Value} {text : String}
    (plain : value.plainTarget? = some text) : value.reshapes = false := by
  cases value with
  | reference text transform => cases transform <;> simp_all [plainTarget?, reshapes]
  | _ => simp_all [plainTarget?, reshapes]

end Value

def PassesOn (store : Store) (theme : Theme) (path next : Path) : Prop :=
  ∃ raw text, Shows store theme path raw ∧ raw.plainTarget? = some text ∧
    Points store theme text next

def Reshaped (store : Store) (theme : Theme) (path : Path) : Prop :=
  ∃ raw, Shows store theme path raw ∧ raw.reshapes = true

variable {store : Store} {theme : Theme}

theorem PassesOn.unique {path next other : Path} (first : PassesOn store theme path next)
    (second : PassesOn store theme path other) : next = other := by
  rcases first with ⟨raw, text, shows, plain, points⟩
  rcases second with ⟨held, spelled, again, replain, repoints⟩
  obtain rfl := shows.unique again
  obtain rfl := Option.some.inj (plain.symm.trans replain)
  exact points.unique repoints

theorem PassesOn.not_reshaped {path next : Path} (passes : PassesOn store theme path next) :
    ¬ Reshaped store theme path := by
  rintro ⟨held, again, reshapes⟩
  rcases passes with ⟨raw, text, shows, plain, _⟩
  rw [← shows.unique again, Value.not_reshapes_of_plainTarget? plain] at reshapes
  exact Bool.false_ne_true reshapes

/-- What holds of a path without a value, and passes from where a reference points to where it
stands, holds wherever a walk misses that path. -/
theorem of_notFound {missing : Path} {absence : Absence} {P : Path → Prop}
    (ends : (∀ raw, ¬ Shows store theme missing raw) → P missing)
    (onwards : ∀ {current target raw text transform}, Shows store theme current raw →
      (text, transform) ∈ raw.references → Points store theme text target → P target → P current)
    {trail : List Path} {current : Path}
    (failed : plainFrom store theme trail current = .error (.notFound missing absence)) :
    P current := by
  induction trail, current using plainFrom.induct store theme with
  | case1 trail current visited =>
      rw [plainFrom_visited visited] at failed
      cases Except.error.inj failed
  | case2 trail current fresh absent =>
      rw [plainFrom_missing fresh absent] at failed
      obtain ⟨rfl, _⟩ := Error.notFound.inj (Except.error.inj failed)
      exact ends (visible?_eq_none_iff.mp absent)
  | case3 trail current fresh raw shown ih =>
      have led : (Error.notFound missing absence).kind ∉ transformKinds := by
        simp [transformKinds, Error.kind]
      rcases plainFrom_fails_onwards fresh shown failed led with
        ⟨text, transform, target, member, points, failed⟩
      exact onwards (visible?_eq_some_iff.mp shown) member points (ih target failed)

/-- Where a walk ends at a path without a value, plain references lead there, unless they
lead to a value that makes something of what it refers to. -/
theorem passesOn_or_reshaped {trail : List Path} {current missing : Path} {absence : Absence}
    (failed : plainFrom store theme trail current = .error (.notFound missing absence)) :
    ReflTransGen (PassesOn store theme) current missing ∨
      ∃ stop, ReflTransGen (PassesOn store theme) current stop ∧ Reshaped store theme stop := by
  refine of_notFound (P := fun path => ReflTransGen (PassesOn store theme) path missing ∨
    ∃ stop, ReflTransGen (PassesOn store theme) path stop ∧ Reshaped store theme stop)
    (fun _ => Or.inl ReflTransGen.refl) ?_ failed
  intro current target raw text transform shows member points behind
  rcases raw.plain_or_reshapes_or_scalar with ⟨only, plain, single⟩ | reshapes | none
  · rw [single, List.mem_singleton] at member
    obtain ⟨rfl, rfl⟩ := Prod.mk.inj member
    have passes : PassesOn store theme current target := ⟨raw, text, shows, plain, points⟩
    rcases behind with reached | ⟨stop, reached, reshaped⟩
    · exact Or.inl (ReflTransGen.head passes reached)
    · exact Or.inr ⟨stop, ReflTransGen.head passes reached, reshaped⟩
  · exact Or.inr ⟨current, ReflTransGen.refl, raw, shows, reshapes⟩
  · simp [none] at member

theorem reaches_of_notFound {trail : List Path} {current missing : Path} {absence : Absence}
    (failed : plainFrom store theme trail current = .error (.notFound missing absence)) :
    Reaches store theme current missing ∧ ∀ raw, ¬ Shows store theme missing raw := by
  refine of_notFound (P := fun path => Reaches store theme path missing ∧
    ∀ raw, ¬ Shows store theme missing raw) (fun absent => ⟨ReflTransGen.refl, absent⟩) ?_ failed
  intro current target raw text transform shows member points behind
  have follows : Follows store theme current target :=
    ⟨raw, text, shows, Value.mem_targets_of_mem_references member, points⟩
  exact ⟨ReflTransGen.head follows behind.1, behind.2⟩

/-- Plain references that lead to a path without a value pass no other value on the way. -/
theorem not_reshaped_of_passesOn {path missing stop : Path}
    (absent : ∀ raw, ¬ Shows store theme missing raw)
    (passes : ReflTransGen (PassesOn store theme) path missing)
    (reached : ReflTransGen (PassesOn store theme) path stop) : ¬ Reshaped store theme stop := by
  have deterministic : Relator.RightUnique (PassesOn store theme) :=
    fun _ _ _ first second => first.unique second
  rintro ⟨raw, shows, reshapes⟩
  rcases ReflTransGen.total_of_right_unique deterministic passes reached with onwards | onwards
  · rcases ReflTransGen.cases_head onwards with rfl | ⟨next, step, _⟩
    · exact absent raw shows
    · rcases step with ⟨held, _, found, _⟩
      exact absent held found
  · rcases ReflTransGen.cases_head onwards with rfl | ⟨next, step, _⟩
    · exact absent raw shows
    · exact step.not_reshaped ⟨raw, shows, reshapes⟩

/-- A token whose walk misses another path is written as the variable of that path.  This
is faithful, one plain reference after another leading there, if and only if such
references lead to no composite and to no reference with a transform. -/
theorem fallback_faithful_iff {view : View} {cache : Cache} (memory : MemoryOf view.store cache)
    {theme : Theme} {path missing : Path} {absence : Absence}
    (failed : outcome view.store theme view.allowance cache path =
      .error (.notFound missing absence)) (elsewhere : missing ≠ path) :
    ((view.tokenText theme path).run cache).1 = .ok (view.variableOf missing) ∧
      Reaches view.store theme path missing ∧
      (TransGen (PassesOn view.store theme) path missing ↔
        ∀ stop, ReflTransGen (PassesOn view.store theme) path stop →
          ¬ Reshaped view.store theme stop) := by
  have plain : plainFrom view.store theme [] path = .error (.notFound missing absence) := by
    rcases outcome_eq_plain_or_tooDeep memory.sound view.allowance path with same | deep
    · exact same.symm.trans failed
    · rw [failed] at deep
      cases Except.error.inj deep
  have absent := (reaches_of_notFound plain).2
  refine ⟨?_, (reaches_of_notFound plain).1, ?_, ?_⟩
  · rw [View.run_tokenText, failed]
    simp [View.textOf, elsewhere]
  · intro passes stop reached
    exact not_reshaped_of_passesOn absent passes.to_reflTransGen reached
  · intro clear
    rcases passesOn_or_reshaped plain with passes | ⟨stop, reached, reshaped⟩
    · rcases reflTransGen_iff_eq_or_transGen.mp passes with same | passes
      · exact absurd same elsewhere
      · exact passes
    · exact absurd reshaped (clear stop reached)

namespace Dangling

abbrev gone : Path := .single "gone" (by decide)
abbrev button : Path := .single "button" (by decide)
abbrev brand : Path := .single "brand" (by decide)
abbrev border : Path := .single "border" (by decide)
abbrev gap : Path := .single "gap" (by decide)

def tokens : Store :=
  Store.empty.setAll
    [(button, .alias "brand"), (brand, .alias "gone"), (border, .array [.alias "gone", .null]),
      (gap, .reference "gone" (some (.scale 2)))] .light

def view : View :=
  ⟨tokens, {}, .unlimited⟩

theorem absent : tokens.visible? gone .light = none := by decide

theorem points_gone : Points tokens .light "gone" gone :=
  target?_eq_some_iff.mp (by decide)

theorem points_brand : Points tokens .light "brand" brand :=
  target?_eq_some_iff.mp (by decide)

theorem fails {trail : List Path} {current : Path} {raw : Value}
    (shown : tokens.visible? current .light = some raw) (apart : gone ∉ current :: trail)
    (fresh : current ∉ trail)
    (stops : ∀ (replace : String → Option Transform → Except Error Value) error,
      (∀ transform, replace "gone" transform = .error error) →
        raw.replaceReferences (fun _ => replace) 0 = .error error) :
    plainFrom tokens .light trail current = .error (.notFound gone (.referencedFrom current)) := by
  rw [plainFrom_shown fresh shown]
  refine stops _ _ fun transform => ?_
  rw [readWith_points points_gone, plainFrom_missing apart absent]
  rfl

theorem outcome_button :
    outcome tokens .light .unlimited Table.empty button =
      .error (.notFound gone (.referencedFrom brand)) := by
  have last : tokens.visible? brand .light = some (.alias "gone") := by rfl
  have shown : tokens.visible? button .light = some (.alias "brand") := by rfl
  have onwards : plainFrom tokens .light [button] brand =
      .error (.notFound gone (.referencedFrom brand)) :=
    fails last (by decide) (by decide) fun replace error refused => by
      rw [Value.replaceReferences, refused]
  rw [outcome_eq_plain (Cache.sound_empty tokens) (fits_unlimited button),
    plainFrom_shown List.not_mem_nil shown, Value.replaceReferences, readWith_points points_brand,
    onwards]
  rfl

theorem outcome_border :
    outcome tokens .light .unlimited Table.empty border =
      .error (.notFound gone (.referencedFrom border)) := by
  rw [outcome_eq_plain (Cache.sound_empty tokens) (fits_unlimited border)]
  have shown : tokens.visible? border .light = some (.array [.alias "gone", .null]) := by rfl
  refine fails shown (by decide) (by decide) ?_
  intro replace error refused
  rw [Value.replaceReferences, Value.replaceInItems, Value.replaceReferences, refused]
  rfl

theorem outcome_gap :
    outcome tokens .light .unlimited Table.empty gap =
      .error (.notFound gone (.referencedFrom gap)) := by
  rw [outcome_eq_plain (Cache.sound_empty tokens) (fits_unlimited gap)]
  have shown : tokens.visible? gap .light = some (.reference "gone" (some (.scale 2))) := by rfl
  refine fails shown (by decide) (by decide) ?_
  intro replace error refused
  rw [Value.replaceReferences, refused]

theorem not_passesOn {path : Path} (reshaped : Reshaped tokens .light path) :
    ¬ TransGen (PassesOn tokens .light) path gone := by
  intro passes
  rcases TransGen.head'_iff.mp passes with ⟨next, step, _⟩
  exact step.not_reshaped reshaped

end Dangling

open Dangling in
theorem fallback_faithful_button :
    outcome view.store .light view.allowance Table.empty button =
        .error (.notFound gone (.referencedFrom brand)) ∧
      ((view.tokenText .light button).run Table.empty).1 = .ok "var(--ant-gone)" ∧
      TransGen (PassesOn tokens .light) button gone ∧
      ∀ stop, ReflTransGen (PassesOn tokens .light) button stop →
        ¬ Reshaped tokens .light stop := by
  have first : PassesOn tokens .light button brand :=
    ⟨.alias "brand", "brand", Shows.own rfl, rfl, points_brand⟩
  have second : PassesOn tokens .light brand gone :=
    ⟨.alias "gone", "gone", Shows.own rfl, rfl, points_gone⟩
  have passes := TransGen.head first (TransGen.single second)
  have memory : MemoryOf view.store Table.empty := MemoryOf.empty tokens
  have faithful := fallback_faithful_iff memory outcome_button (by decide)
  exact ⟨outcome_button, faithful.1, passes, faithful.2.2.mp passes⟩

open Dangling in
/-- A list and a doubled gap are both written as the variable alone: the other member of
the one and the factor of the other are gone. -/
theorem fallback_loses :
    (outcome view.store .light view.allowance Table.empty border =
        .error (.notFound gone (.referencedFrom border)) ∧
      ((view.tokenText .light border).run Table.empty).1 = .ok "var(--ant-gone)" ∧
      ¬ TransGen (PassesOn tokens .light) border gone) ∧
    outcome view.store .light view.allowance Table.empty gap =
        .error (.notFound gone (.referencedFrom gap)) ∧
      ((view.tokenText .light gap).run Table.empty).1 = .ok "var(--ant-gone)" ∧
      ¬ TransGen (PassesOn tokens .light) gap gone := by
  have written : ∀ {path absence}, outcome view.store .light view.allowance Table.empty path =
      .error (.notFound gone absence) → gone ≠ path →
        ((view.tokenText .light path).run Table.empty).1 = .ok "var(--ant-gone)" := by
    intro path absence failed elsewhere
    rw [View.run_tokenText, failed]
    simp only [View.textOf, elsewhere, if_false]
    rfl
  refine ⟨⟨outcome_border, written outcome_border (by decide), ?_⟩,
    outcome_gap, written outcome_gap (by decide), ?_⟩
  · exact not_passesOn ⟨_, Shows.own rfl, rfl⟩
  · exact not_passesOn ⟨_, Shows.own rfl, rfl⟩

end DesignTokens
