import DesignTokens.Proofs.Resolution.Meaning
import DesignTokens.Value.Style

/-!
What a path denotes holds no reference at any depth: references are replaced in
composites, literals are scalars, and a transform makes a scalar of a scalar.
-/

namespace DesignTokens

inductive Within : Value → Value → Prop
  | here {value} : Within value value
  | item {inner item items} : item ∈ items → Within inner item → Within inner (.array items)
  | entry {inner key value entries} : (key, value) ∈ entries → Within inner value →
      Within inner (.object entries)

namespace Value

def Concrete (value : Value) : Prop :=
  ∀ inner, Within inner value → inner.isReference = false

theorem concrete_of_isScalar {value : Value} (simple : value.isScalar = true) :
    value.Concrete := by
  intro inner within
  cases within with
  | here => cases value <;> simp_all [isScalar, isReference]
  | item => simp [isScalar] at simple
  | entry => simp [isScalar] at simple

theorem concrete_array {items : List Value} (each : ∀ item ∈ items, item.Concrete) :
    (Value.array items).Concrete := by
  intro inner within
  cases within with
  | here => rfl
  | item member deeper => exact each _ member inner deeper

theorem concrete_object {entries : List (String × Value)}
    (each : ∀ key value, (key, value) ∈ entries → value.Concrete) :
    (Value.object entries).Concrete := by
  intro inner within
  cases within with
  | here => rfl
  | entry member deeper => exact each _ _ member inner deeper

theorem Concrete.item {items : List Value} (concrete : (Value.array items).Concrete)
    {item : Value} (member : item ∈ items) : item.Concrete :=
  fun inner within => concrete inner (Within.item member within)

theorem isScalar_ofLiteral (text : String) : (ofLiteral text).isScalar = true := by
  have dimension : ∀ {raw : List Char} {value : Value}, dimensionOfText? raw = some value →
      value.isScalar = true := by
    intro raw value read
    simp only [dimensionOfText?, Option.bind_eq_some_iff, Option.map_eq_some_iff] at read
    rcases read with ⟨_, _, _, _, rfl⟩
    rfl
  rw [ofLiteral]
  split
  · rfl
  · split
    · rfl
    · split
      · rfl
      · split
        · rfl
        · split
          · rename_i read
            exact dimension read
          · split <;> rfl

theorem isMagnitude_of_calculate {value result : Value} {operation : Operation} {operand : Float}
    {path : Option Path} (done : value.calculate operation operand path = .ok result) :
    result.isMagnitude = true := by
  have computed : ∀ {computation : Except Error Float} {make : Float → Value},
      (∀ magnitude, (make magnitude).isMagnitude = true) → computation.map make = .ok result →
        result.isMagnitude = true := by
    intro computation make measured made
    cases computation with
    | error error => simp [Except.map] at made
    | ok magnitude =>
        rw [← Except.ok.inj made]
        exact measured magnitude
  unfold calculate at done
  split at done
  · exact computed (fun _ => rfl) done
  · exact computed (fun _ => rfl) done
  · simp at done

theorem color_of_adjustColor {value result : Value} {change : ColorChange} {factor : Float}
    {path : Option Path} (done : value.adjustColor change factor path = .ok result) :
    ∃ shade, result = .color shade := by
  unfold adjustColor at done
  split at done
  · split at done
    · split at done
      · exact ⟨_, (Except.ok.inj done).symm⟩
      · simp at done
    · simp at done
  · simp at done

/-- Whatever a transform is applied to, it makes a magnitude or a colour, or fails. -/
theorem shape_of_transformed {value result : Value} {transform : Transform}
    {path : Option Path} (done : value.transformed transform path = .ok result) :
    result.isMagnitude = true ∨ ∃ shade, result = .color shade := by
  cases transform with
  | math operation operand => exact Or.inl (isMagnitude_of_calculate done)
  | scale factor => exact Or.inl (isMagnitude_of_calculate done)
  | adjust change factor => exact Or.inr (color_of_adjustColor done)

theorem isScalar_of_isMagnitude {value : Value} (measured : value.isMagnitude = true) :
    value.isScalar = true := by
  cases value <;> simp_all [isMagnitude, isScalar, isReference]

theorem isScalar_of_transformed {value result : Value} {transform : Transform}
    {path : Option Path} (done : value.transformed transform path = .ok result) :
    result.isScalar = true := by
  rcases shape_of_transformed done with measured | ⟨shade, rfl⟩
  · exact isScalar_of_isMagnitude measured
  · rfl

theorem Concrete.applied {value result : Value} {transform : Option Transform}
    {path : Option Path} (concrete : value.Concrete)
    (done : value.applied transform path = .ok result) : result.Concrete := by
  cases transform with
  | none =>
      obtain rfl := Except.ok.inj done
      exact concrete
  | some transform => exact concrete_of_isScalar (isScalar_of_transformed done)

end Value

variable {store : Store} {theme : Theme}

mutual

theorem Denotes.concrete {path : Path} {value : Value} :
    Denotes store theme path value → value.Concrete
  | .shown _ means => means.concrete

theorem Means.concrete {raw value : Value} : Means store theme raw value → value.Concrete
  | .scalar simple => Value.concrete_of_isScalar simple
  | .array each => Value.concrete_array each.concrete
  | .object each => Value.concrete_object each.concrete
  | .alias reads => reads.concrete
  | .reference reads applied => reads.concrete.applied applied

theorem MeansEach.concrete {items results : List Value} :
    MeansEach store theme items results → ∀ result ∈ results, result.Concrete
  | .nil => by simp
  | .cons first rest => by
      intro result member
      rcases List.mem_cons.mp member with same | later
      · rw [same]
        exact first.concrete
      · exact rest.concrete result later

theorem MeansEntries.concrete {entries results : List (String × Value)} :
    MeansEntries store theme entries results →
      ∀ key result, (key, result) ∈ results → result.Concrete
  | .nil => by simp
  | .cons first rest => by
      intro key result member
      rcases List.mem_cons.mp member with same | later
      · rw [(Prod.mk.inj same).2]
        exact first.concrete
      · exact rest.concrete key result later

theorem Reads.concrete {text : String} {value : Value} :
    Reads store theme text value → value.Concrete
  | .literal _ read => by
      rw [← read]
      exact Value.concrete_of_isScalar (Value.isScalar_ofLiteral text)
  | .followed _ denotes => denotes.concrete

end

namespace Value

mutual

def cssWith (reference : String → Except Error String) : Value → Except Error String
  | .array items => return ", ".intercalate (← cssItemsWith reference items)
  | .alias target => reference target
  | .reference target _ => reference target
  | value => css "" value

def cssItemsWith (reference : String → Except Error String) :
    List Value → Except Error (List String)
  | [] => return []
  | item :: items => do
      let first ← cssWith reference item
      let rest ← cssItemsWith reference items
      return first :: rest

end

mutual

theorem css_eq_cssWith (lead : String) : ∀ value : Value,
    value.css lead = value.cssWith (variableText lead)
  | .string _ | .number _ | .boolean _ | .null | .color _ | .dimension .. | .shadow _
  | .object _ => by simp only [css, cssWith]
  | .typography style => by
      simp only [css, cssWith]
  | .alias _ | .reference .. => by simp only [css, cssWith]
  | .array items => by rw [css, cssWith, cssItems_eq_cssItemsWith lead items]

theorem cssItems_eq_cssItemsWith (lead : String) : ∀ items : List Value,
    cssItems lead items = cssItemsWith (variableText lead) items
  | [] => rfl
  | item :: items => by
      rw [cssItems, cssItemsWith, css_eq_cssWith lead item, cssItems_eq_cssItemsWith lead items]

end

mutual

theorem Concrete.cssWith_eq (reference other : String → Except Error String) :
    ∀ {value : Value}, value.Concrete → value.cssWith reference = value.cssWith other
  | .string _, _ | .number _, _ | .boolean _, _ | .null, _ | .color _, _ | .dimension .., _
  | .typography _, _ | .shadow _, _ | .object _, _ => by simp only [cssWith]
  | .alias _, concrete => absurd (concrete _ Within.here) (by simp [isReference])
  | .reference .., concrete => absurd (concrete _ Within.here) (by simp [isReference])
  | .array items, concrete => by
      rw [cssWith, cssWith,
        cssItemsWith_eq reference other fun item member => concrete.item member]

theorem cssItemsWith_eq (reference other : String → Except Error String) :
    ∀ {items : List Value}, (∀ item ∈ items, item.Concrete) →
      cssItemsWith reference items = cssItemsWith other items
  | [], _ => rfl
  | item :: items, each => by
      rw [cssItemsWith, cssItemsWith, Concrete.cssWith_eq reference other (each item (by simp)),
        cssItemsWith_eq reference other fun later member => each later (by simp [member])]

end

/-- The text of a concrete value is the same however references are written: none is. -/
theorem Concrete.css_eq {value : Value} (concrete : value.Concrete) (lead : String)
    (reference : String → Except Error String) : value.css lead = value.cssWith reference := by
  rw [css_eq_cssWith]
  exact concrete.cssWith_eq _ _

end Value

end DesignTokens
