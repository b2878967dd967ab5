import Mathlib.Data.List.ReduceOption
import DesignTokens.Proofs.Color.Written
import DesignTokens.Proofs.Resolution.Containment
import DesignTokens.Proofs.TokenSystem.Transparency

/-!
What a chain of references keeps.  A transform changes the size of a magnitude or the shade of a
colour, and never the kind of a value or its unit.
-/

namespace DesignTokens

namespace Value

def reference? : Value → Option (String × Option Transform)
  | .alias text => some (text, none)
  | .reference text transform => some (text, transform)
  | _ => none

theorem reference?_of_isScalar {value : Value} (simple : value.isScalar = true) :
    value.reference? = none := by
  cases value <;> simp_all [isScalar, isReference, reference?]

theorem mem_targets_of_reference? {value : Value} {text : String} {transform : Option Transform}
    (reference : value.reference? = some (text, transform)) : text ∈ value.targets := by
  cases value <;> simp_all [reference?, targets]

def unit? : Value → Option DimensionUnit
  | .dimension _ unit => some unit
  | _ => none

def transformableKinds : List String := ["color", "number", "dimension"]

structure Alike (value other : Value) : Prop where
  kind : value.kind = other.kind
  unit : value.unit? = other.unit?

theorem Alike.refl (value : Value) : value.Alike value :=
  ⟨rfl, rfl⟩

theorem Alike.trans {first second third : Value} (start : first.Alike second)
    (next : second.Alike third) : first.Alike third :=
  ⟨start.kind.trans next.kind, start.unit.trans next.unit⟩

theorem alike_of_calculate {value result : Value} {operation : Operation} {operand : Float}
    {path : Option Path} (done : value.calculate operation operand path = .ok result) :
    result.Alike value ∧ value.kind ∈ transformableKinds := by
  unfold calculate at done
  split at done
  · obtain ⟨magnitude, _, rfl⟩ := map_eq_ok_iff.mp done
    exact ⟨⟨rfl, rfl⟩, by simp [kind, transformableKinds]⟩
  · obtain ⟨magnitude, _, rfl⟩ := map_eq_ok_iff.mp done
    exact ⟨⟨rfl, rfl⟩, by simp [kind, transformableKinds]⟩
  · cases done

theorem alike_of_adjustColor {value result : Value} {change : ColorChange} {factor : Float}
    {path : Option Path} (done : value.adjustColor change factor path = .ok result) :
    result.Alike value ∧ value.kind ∈ transformableKinds := by
  obtain ⟨shade, rfl⟩ := color_of_adjustColor done
  unfold adjustColor at done
  split at done
  · exact ⟨⟨rfl, rfl⟩, by simp [kind, transformableKinds]⟩
  · cases done

theorem alike_of_transformed {value result : Value} {transform : Transform}
    {path : Option Path} (done : value.transformed transform path = .ok result) :
    result.Alike value ∧ value.kind ∈ transformableKinds := by
  cases transform with
  | math operation operand => exact alike_of_calculate done
  | scale factor => exact alike_of_calculate done
  | adjust change factor => exact alike_of_adjustColor done

/-- The transforms of a chain keep the kind and the unit, and if there are any then they are for
values of that kind. -/
theorem alike_of_appliedAll {value result : Value} {transforms : List (Option Transform)}
    (done : value.appliedAll transforms = .ok result) :
    result.Alike value ∧ (transforms.reduceOption ≠ [] → value.kind ∈ transformableKinds) := by
  induction transforms generalizing result with
  | nil =>
      obtain rfl := Except.ok.inj done
      exact ⟨Alike.refl _, fun some => absurd rfl some⟩
  | cons transform transforms ih =>
      obtain ⟨middle, earlier, applied⟩ := bind_eq_ok_iff.mp done
      obtain ⟨alike, fitting⟩ := ih earlier
      cases transform with
      | none =>
          obtain rfl := Except.ok.inj applied
          rw [List.reduceOption_cons_of_none]
          exact ⟨alike, fitting⟩
      | some transform =>
          obtain ⟨next, kept⟩ := alike_of_transformed applied
          exact ⟨next.trans alike, fun _ => alike.kind ▸ kept⟩

/-- Where all transforms of a chain are for the opacity, the shade stays, and the outermost of
them decides. -/
theorem faded_of_appliedAll {shade : Color} {result : Value} {transforms : List (Option Transform)}
    (done : (Value.color shade).appliedAll transforms = .ok result)
    (fading : ∀ transform ∈ transforms.reduceOption, ∃ factor, transform = .adjust .alpha factor) :
    ∃ opacity, result = .color { shade with alpha := opacity } ∧
      ∀ factor, transforms.reduceOption.head? = some (.adjust .alpha factor) →
        (opacity == factor) = true := by
  induction transforms generalizing result with
  | nil =>
      obtain rfl := Except.ok.inj done
      exact ⟨shade.alpha, rfl, by simp⟩
  | cons transform transforms ih =>
      obtain ⟨middle, earlier, applied⟩ := bind_eq_ok_iff.mp done
      cases transform with
      | none =>
          obtain rfl := Except.ok.inj applied
          rw [List.reduceOption_cons_of_none] at fading ⊢
          exact ih earlier fading
      | some transform =>
          rw [List.reduceOption_cons_of_some] at fading ⊢
          obtain ⟨⟨factor, rfl⟩, others⟩ := List.forall_mem_cons.mp fading
          obtain ⟨opacity, rfl, _⟩ := ih earlier others
          rw [Value.applied, Value.transformed, adjustColor] at applied
          split at applied
          · rename_i within
            obtain rfl := Except.ok.inj applied
            refine ⟨clampUnit factor, rfl, fun other outermost => ?_⟩
            cases Option.some.inj outermost
            exact clampUnit_beq within.1 within.2
          · cases applied

end Value

/-- Where the references of a path end: at a stored value that is none, or at a text that means
itself.  The transforms on the way stand in the order in which they are met. -/
inductive EndsIn (store : Store) (theme : Theme) : Path → List (Option Transform) → Value → Prop
  | stored {path raw} : Shows store theme path raw → raw.reference? = none →
      EndsIn store theme path [] raw
  | literal {path raw text transform} : Shows store theme path raw →
      raw.reference? = some (text, transform) → Inline store theme text →
      EndsIn store theme path [transform] (Value.ofLiteral text)
  | onwards {path raw text transform next transforms last} : Shows store theme path raw →
      raw.reference? = some (text, transform) → Points store theme text next →
      EndsIn store theme next transforms last →
      EndsIn store theme path (transform :: transforms) last

variable {store : Store} {theme : Theme} {path : Path} {value : Value}

theorem EndsIn.unique {transforms others : List (Option Transform)} {last other : Value}
    (first : EndsIn store theme path transforms last)
    (second : EndsIn store theme path others other) : transforms = others ∧ last = other := by
  induction first generalizing others other with
  | stored shows whole =>
      cases second with
      | stored again _ => exact ⟨rfl, shows.unique again⟩
      | literal again reference _ | onwards again reference _ _ =>
          obtain rfl := shows.unique again
          exact nomatch whole.symm.trans reference
  | literal shows reference inline =>
      cases second with
      | stored again whole =>
          obtain rfl := shows.unique again
          exact nomatch whole.symm.trans reference
      | literal again same _ =>
          obtain rfl := shows.unique again
          cases reference.symm.trans same
          exact ⟨rfl, rfl⟩
      | onwards again same points _ =>
          obtain rfl := shows.unique again
          cases reference.symm.trans same
          exact absurd inline points.not_inline
  | onwards shows reference points _ ih =>
      cases second with
      | stored again whole =>
          obtain rfl := shows.unique again
          exact nomatch whole.symm.trans reference
      | literal again same inline =>
          obtain rfl := shows.unique again
          cases reference.symm.trans same
          exact absurd inline points.not_inline
      | onwards again same others later =>
          obtain rfl := shows.unique again
          cases reference.symm.trans same
          obtain rfl := points.unique others
          obtain ⟨rfl, rfl⟩ := ih later
          exact ⟨rfl, rfl⟩

theorem Means.whole_or_reads {raw : Value} (means : Means store theme raw value) :
    raw.reference? = none ∨ ∃ text transform operand, raw.reference? = some (text, transform) ∧
      Reads store theme text operand ∧ operand.applied transform none = .ok value := by
  cases means with
  | scalar simple => exact Or.inl (Value.reference?_of_isScalar simple)
  | array | object => exact Or.inl rfl
  | «alias» reads => exact Or.inr ⟨_, none, value, rfl, reads, rfl⟩
  | reference reads applied => exact Or.inr ⟨_, _, _, rfl, reads, applied⟩

theorem Means.alike {raw : Value} (means : Means store theme raw value)
    (whole : raw.reference? = none) : value.Alike raw := by
  cases means with
  | scalar | array | object => exact ⟨rfl, rfl⟩
  | «alias» | reference => exact nomatch whole

/-- What a path denotes is made of the meaning of the value at the end of its references by the
transforms on the way. -/
theorem Denotes.exists_endsIn (denotes : Denotes store theme path value) :
    ∃ transforms last operand, EndsIn store theme path transforms last ∧
      last.reference? = none ∧ Means store theme last operand ∧
      operand.appliedAll transforms = .ok value := by
  have grounded := denotes.grounded
  induction grounded generalizing value with
  | intro path _ ih =>
      cases denotes with
      | @shown _ raw _ shows means =>
          rcases means.whole_or_reads with
            whole | ⟨text, transform, operand, reference, reads, applied⟩
          · exact ⟨[], raw, value, .stored shows whole, whole, means, rfl⟩
          · cases reads with
            | literal inline same =>
                subst same
                have simple := Value.isScalar_ofLiteral text
                exact ⟨[transform], _, _, .literal shows reference inline,
                  Value.reference?_of_isScalar simple, .scalar simple, applied⟩
            | @followed _ next _ points denotes =>
                have follows : Follows store theme path next :=
                  ⟨raw, text, shows, Value.mem_targets_of_reference? reference, points⟩
                obtain ⟨transforms, last, first, ends, whole, means, done⟩ :=
                  ih next follows denotes
                refine ⟨transform :: transforms, last, first,
                  .onwards shows reference points ends, whole, means, ?_⟩
                rw [Value.appliedAll, done]
                exact applied

/-- A path that resolves has the kind, and the unit, of the value at the end of its references;
transforms lie on the way only to a colour or a magnitude.  If all of them are for the opacity of a
colour then the shade is kept and the outermost factor is the opacity.  And where colours have
bytes for channels, the form in which a colour is kept reads back as its channels. -/
theorem resolved_kind_kept {cache : Cache} (memory : MemoryOf store cache) {allowance : Allowance}
    (found : outcome store theme allowance cache path = .ok value) :
    ∃ transforms last, EndsIn store theme path transforms last ∧
      (∀ others other, EndsIn store theme path others other →
        others = transforms ∧ other = last) ∧
      last.reference? = none ∧ value.kind = last.kind ∧ value.unit? = last.unit? ∧
      (last.kind ∉ Value.transformableKinds → transforms.reduceOption = []) ∧
      (∀ shade factor inner, last = .color shade →
        transforms.reduceOption = .adjust .alpha factor :: inner →
        (∀ transform ∈ inner, ∃ other, transform = .adjust .alpha other) →
          ∃ faded, value = .color faded ∧ faded.hex = shade.hex ∧
            (faded.alpha == factor) = true) ∧
      (store.Proper → ∀ shade, value = .color shade →
        Color.parse shade.hex = .ok { shade with alpha := 1.0 }) := by
  have denotes := denotes_of_outcome memory.sound found
  obtain ⟨transforms, last, operand, ends, whole, means, done⟩ := denotes.exists_endsIn
  obtain ⟨applied, fitting⟩ := Value.alike_of_appliedAll done
  have alike := applied.trans (means.alike whole)
  refine ⟨transforms, last, ends, fun _ _ other => other.unique ends, whole, alike.kind, alike.unit,
    fun unfit => ?_, ?_, fun proper shade same => ?_⟩
  · by_contra some
    exact unfit ((means.alike whole).kind ▸ fitting some)
  · rintro shade factor inner rfl outermost fading
    obtain rfl : operand = .color shade := by
      cases means with
      | scalar => rfl
    have all : ∀ transform ∈ transforms.reduceOption,
        ∃ other, transform = .adjust .alpha other := by
      rw [outermost]
      exact List.forall_mem_cons.mpr ⟨⟨factor, rfl⟩, fading⟩
    obtain ⟨opacity, rfl, decides⟩ := Value.faded_of_appliedAll done all
    exact ⟨_, rfl, rfl, decides factor (by rw [outermost]; rfl)⟩
  · subst same
    exact (denotes.proper proper shade Within.here).parse_hex

namespace Veil

abbrev faint : Path := .single "faint" (by decide)
abbrev tint : Path := .single "tint" (by decide)

def tokens : Store :=
  Store.empty.setAll
    [(faint, .reference "tint" (some (.adjust .alpha 0.5))),
      (tint, .reference "#40a9ff" (some (.adjust .alpha 0.25)))] .light

def shade (alpha : Float) : Color :=
  ⟨64, 169, 255, alpha⟩

theorem points_tint : Points tokens .light "tint" tint :=
  target?_eq_some_iff.mp (by decide)

theorem inline_hex : Inline tokens .light "#40a9ff" :=
  target?_eq_none_iff.mp (by decide)

theorem hex_shade (alpha : Float) : (shade alpha).hex = "#40a9ff" := by
  have digits : '#' :: channelDigits 64 ++ channelDigits 169 ++ channelDigits 255 =
      "#40a9ff".toList := by decide +kernel
  exact (congrArg String.ofList digits).trans String.ofList_toList

theorem literal : Value.ofLiteral "#40a9ff" = .color (shade 1.0) := by
  have proper : (shade 1.0).Proper := ⟨by decide, by decide, by decide⟩
  have read : Color.parse "#40a9ff" = .ok (shade 1.0) := (hex_shade 1.0) ▸ proper.parse_hex
  have trimmed : trim "#40a9ff".toList = "#40a9ff".toList := by decide
  have number : plainNumber? "#40a9ff".toList = none := by rfl
  have dimension : Value.dimensionOfText? "#40a9ff".toList = none := by rfl
  simp only [Value.ofLiteral, trimmed, number, dimension, String.ofList_toList, read]
  rfl

theorem fainter {factor : Float} (within : 0 ≤ factor ∧ factor ≤ 1) (color : Color) (path : Path) :
    (Value.color color).applied (some (.adjust .alpha factor)) (some path) =
      .ok (.color (color.withAlpha factor)) := by
  rw [Value.applied, Value.transformed, Value.adjustColor, if_pos within]
  rfl

theorem outcome_faint : outcome tokens .light .unlimited Table.empty faint =
    .ok (.color (((shade 1.0).withAlpha 0.25).withAlpha 0.5)) := by
  have outer : tokens.visible? faint .light =
      some (.reference "tint" (some (.adjust .alpha 0.5))) := by rfl
  have inner : tokens.visible? tint .light =
      some (.reference "#40a9ff" (some (.adjust .alpha 0.25))) := by rfl
  have half : (0 : Float) ≤ 0.5 ∧ (0.5 : Float) ≤ 1 := by decide +kernel
  have quarter : (0 : Float) ≤ 0.25 ∧ (0.25 : Float) ≤ 1 := by decide +kernel
  have first : plainFrom tokens .light [faint] tint =
      .ok (.color ((shade 1.0).withAlpha 0.25)) := by
    rw [plainFrom_shown (by decide) inner, Value.replaceReferences, readWith_inline inline_hex,
      literal]
    exact fainter quarter _ tint
  rw [outcome_eq_plain (Cache.sound_empty _) (fits_unlimited _),
    plainFrom_shown List.not_mem_nil outer, Value.replaceReferences, readWith_points points_tint,
    first]
  exact fainter half _ faint

theorem endsIn_faint : EndsIn tokens .light faint
    [some (.adjust .alpha 0.5), some (.adjust .alpha 0.25)] (.color (shade 1.0)) := by
  have inner : EndsIn tokens .light tint [some (.adjust .alpha 0.25)]
      (Value.ofLiteral "#40a9ff") := .literal (Shows.own rfl) rfl inline_hex
  rw [literal] at inner
  exact .onwards (Shows.own rfl) rfl points_tint inner

end Veil

open Veil in
theorem resolved_kind_kept_veil :
    EndsIn tokens .light faint [some (.adjust .alpha 0.5), some (.adjust .alpha 0.25)]
        (.color (shade 1.0)) ∧
      ∃ faded, outcome tokens .light .unlimited Table.empty faint = .ok (.color faded) ∧
        faded.hex = "#40a9ff" ∧ (faded.alpha == 0.5) = true := by
  obtain ⟨transforms, last, ends, only, _, _, _, _, fading, _⟩ :=
    resolved_kind_kept (MemoryOf.empty tokens) outcome_faint
  obtain ⟨rfl, rfl⟩ := only _ _ endsIn_faint
  have inner : ∀ transform ∈ [Transform.adjust .alpha 0.25],
      ∃ other, transform = .adjust .alpha other := by simp
  obtain ⟨faded, same, hex, alpha⟩ := fading (shade 1.0) 0.5 _ rfl rfl inner
  exact ⟨endsIn_faint, faded, outcome_faint.trans (congrArg Except.ok same),
    hex.trans (hex_shade 1.0), alpha⟩

end DesignTokens
