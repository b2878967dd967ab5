import DesignTokens.Proofs.Resolution.Containment
import DesignTokens.Proofs.TokenSystem.Transparency

/-!
Errors of resolution are contained.  A reference may have any text: it is followed where
it spells a path and read as a literal elsewhere, and neither of the two can fail.
-/

namespace DesignTokens

namespace Color

def Readable {α : Type} (reading : Except ColorFault α) : Prop :=
  ∀ fault, reading = .error fault → ∃ text, fault = .number text

theorem readable_ok {α : Type} (value : α) : Readable (.ok value) :=
  fun _ failed => nomatch failed

theorem Readable.bind {α β : Type} {reading : Except ColorFault α}
    {next : α → Except ColorFault β} (first : Readable reading)
    (rest : ∀ value, reading = .ok value → Readable (next value)) :
    Readable (reading >>= next) := by
  intro fault failed
  cases result : reading with
  | error cause =>
      rw [result] at failed
      obtain rfl : cause = fault := Except.error.inj failed
      exact first cause result
  | ok value =>
      rw [result] at failed
      exact rest value result fault failed

theorem readable_number (text : List Char) : Readable (number text) := by
  intro fault failed
  unfold number at failed
  split at failed
  · exact nomatch failed
  · exact ⟨_, (Except.error.inj failed).symm⟩

theorem readable_rounded {x : Float} (between : Between x (-(1 / 3)) (255 + 1 / 3)) :
    Readable (rounded x) := by
  rcases round_byte between with ⟨whole, result, _⟩
  rw [rounded, result]
  exact readable_ok whole

theorem readable_alphaArgument (text : List Char) : Readable (alphaArgument text) := by
  unfold alphaArgument
  dsimp only
  split <;> exact (readable_number _).bind fun _ _ => readable_ok _

theorem readable_channelArgument (text : List Char) : Readable (channelArgument text) := by
  unfold channelArgument
  dsimp only
  split
  · refine (readable_number _).bind fun value _ => readable_rounded ?_
    exact times_byte_between exactly_255 ((clampUnit_between _).mono (by norm_num) (by norm_num))
  · refine (readable_number _).bind fun value _ => readable_rounded ?_
    exact (clamp_between exactly_zero_point exactly_255 (by norm_num) _).mono (by norm_num)
      (by norm_num)

theorem readable_hueArgument (text : List Char) : Readable (hueArgument text) :=
  (readable_number _).bind fun _ _ => readable_ok _

theorem readable_percentArgument (text : List Char) : Readable (percentArgument text) :=
  (readable_number _).bind fun _ _ => readable_ok _

theorem readable_ofArguments (model : Model) (channels : List Char × List Char × List Char)
    (alpha : Option (List Char)) : Readable (ofArguments model channels alpha) := by
  rcases channels with ⟨first, second, third⟩
  unfold ofArguments
  cases alpha <;>
    refine Readable.bind (by first | exact readable_ok _ | exact readable_alphaArgument _)
      fun opacity _ => ?_ <;>
    cases model with
  | rgb =>
      refine (readable_channelArgument first).bind fun red _ => ?_
      refine (readable_channelArgument second).bind fun green _ => ?_
      exact (readable_channelArgument third).bind fun blue _ => readable_ok _
  | hsl =>
      refine (readable_hueArgument first).bind fun hue _ => ?_
      refine (readable_percentArgument second).bind fun saturation readSaturation => ?_
      refine (readable_percentArgument third).bind fun lightness readLightness => ?_
      rcases ofHsl_proper hue (percentArgument_almost readSaturation)
        (percentArgument_almost readLightness) opacity with ⟨made, converted, _⟩
      rw [converted]
      exact readable_ok made

/-- A text that is no colour is none for how it reads, never for the arithmetic. -/
theorem parse_ne_arithmetic (text : String) (fault : NumberFault) :
    parse text ≠ .error (.arithmetic fault) := by
  intro failed
  unfold parse at failed
  dsimp only at failed
  split at failed
  · exact nomatch failed
  · split at failed
    · exact nomatch failed
    · split at failed
      · split at failed
        · rcases readable_ofArguments _ _ _ _ failed with ⟨shown, same⟩
          exact nomatch same
        · exact nomatch failed
      · exact nomatch failed

end Color

def Store.readTarget (store : Store) (theme : Theme) (text : String) :
    Except PathFault (Option Path) := do
  if !isPathText text || (Value.ofLiteral text).isMagnitude then
    return none
  let path ← Path.parse text
  if isKeywordText text && (store.visible? path theme).isNone then
    return none
  return some path

theorem Store.readTarget_eq_ok (store : Store) (theme : Theme) (text : String) :
    store.readTarget theme text = .ok (store.target? theme text) := by
  unfold readTarget target? Path.ofReference?
  cases shaped : isPathText text with
  | false => cases magnitude : (Value.ofLiteral text).isMagnitude <;> rfl
  | true =>
      rcases parse_ok_of_isPathText shaped with ⟨path, spelled⟩
      rw [spelled]
      cases magnitude : (Value.ofLiteral text).isMagnitude with
      | true => rfl
      | false =>
          cases hidden : isKeywordText text && (store.visible? path theme).isNone with
          | true => simp [hidden, Except.toOption, pure, Except.pure, bind, Except.bind]
          | false => simp [hidden, Except.toOption, pure, Except.pure, bind, Except.bind]

theorem Action.result_resolve {raw : String} {path : Path} (read : Path.read raw = .ok path)
    (scope : Scope) (system : TokenSystem) :
    ((Action.resolve raw scope).run system).1 =
      outcome system.store (scope.themeIn system) system.allowance system.cache path := by
  have opened : (Action.readPath raw).run system = (.ok path, system) := by
    rw [Action.readPath, read]
    rfl
  rw [Action.resolve, run_bind_ok opened]
  rfl

/-- Resolving a path gives a value, or fails for a missing token, a cycle, a transform that
does not fit or one that cannot be computed, unless the path takes more stack frames than there
are.  No text of a reference makes the walk fail, and neither does a colour. -/
theorem resolution_contained {system : TokenSystem} (reachable : system.Reachable)
    (proper : system.store.Proper) {raw : String} {path : Path}
    (read : Path.read raw = .ok path) (scope : Scope) :
    ((∃ value, ((Action.resolve raw scope).run system).1 = .ok value) ∨
      ∃ error, ((Action.resolve raw scope).run system).1 = .error error ∧
        (error.kind ∈ resolutionKinds ∨ error = .tooDeep path ∧
          ¬ Fits system.store (scope.themeIn system) path system.allowance)) ∧
    (system.allowance = .unlimited → ∀ error,
      ((Action.resolve raw scope).run system).1 = .error error →
        error.kind ∈ resolutionKinds) ∧
    (∀ theme text, system.store.readTarget theme text = .ok (system.store.target? theme text)) ∧
    ∀ text fault, Color.parse text ≠ .error (.arithmetic fault) := by
  have agrees := (@resolve_agrees system.store (scope.themeIn system) system.allowance path
    system.cache reachable.sound).2
  have contained : ∀ error, ((Action.resolve raw scope).run system).1 = .error error →
      error.kind ∈ resolutionKinds ∨ error = .tooDeep path ∧
        ¬ Fits system.store (scope.themeIn system) path system.allowance := by
    intro error failed
    rw [Action.result_resolve read] at failed
    rcases agrees with same | ⟨deep, refused⟩
    · exact .inl (kind_of_plainFrom proper (same.symm.trans failed))
    · exact .inr ⟨Except.error.inj (failed.symm.trans refused), deep⟩
  refine ⟨?_, ?_, system.store.readTarget_eq_ok, Color.parse_ne_arithmetic⟩
  · cases result : ((Action.resolve raw scope).run system).1 with
    | ok value => exact .inl ⟨value, rfl⟩
    | error error => exact .inr ⟨error, rfl, contained error result⟩
  · intro unlimited error failed
    rcases contained error failed with known | ⟨_, deep⟩
    · exact known
    · rw [unlimited] at deep
      exact absurd (fits_unlimited path) deep

namespace Wayward

theorem valid_first : isSegment "a" = true := by decide

theorem valid_second : isSegment "b" = true := by decide

def first : Path := .single "a" valid_first

def second : Path := .single "b" valid_second

def store : Store :=
  Store.empty.setAll [(first, .alias "b\n"), (second, .array [.alias "b c", .alias "gone"])] .light

theorem proper : store.Proper := by
  refine Store.proper_setAll ?_
  simp only [List.forall_mem_cons]
  refine ⟨Value.proper_reference rfl, Value.proper_array fun item member => ?_,
    List.forall_mem_nil _⟩
  simp only [List.mem_cons, List.not_mem_nil, or_false] at member
  rcases member with rfl | rfl <;> exact Value.proper_reference rfl

end Wayward

theorem resolution_contained_wayward :
    ∃ system : TokenSystem, system.Reachable ∧ system.store.Proper ∧
      Path.read "a" = .ok Wayward.first ∧
      (∀ error, ((Action.resolve "a" .active).run system).1 = .error error →
        error.kind ∈ resolutionKinds) ∧
      system.store.readTarget .light "b\n" = .ok (some Wayward.second) ∧
      system.store.readTarget .light "b c" = .ok none := by
  let system : TokenSystem := .ofStore {} Wayward.store .unlimited
  have reachable : system.Reachable := ⟨{}, Wayward.store, .unlimited, Folder.empty, [], rfl⟩
  have read : Path.read "a" = .ok Wayward.first := rfl
  have contained := resolution_contained reachable Wayward.proper read .active
  refine ⟨system, reachable, Wayward.proper, read, contained.2.1 rfl, ?_, ?_⟩
  · rw [contained.2.2.1]
    rfl
  · rw [contained.2.2.1]
    rfl

end DesignTokens
