import DesignTokens.Dtcg.Value
import DesignTokens.Proofs.Resolution.Concrete
import DesignTokens.Proofs.Text.Blank

/-!
Replacing the aliases in an exported value.  A stored value is written so that this gives
what it means, as long as no text in it looks like an alias and no transform is inside it.
-/

namespace DesignTokens

def bracedText? (text : String) : Option String :=
  match text.toList with
  | '{' :: rest => (dropTail ['}'] rest).map String.ofList
  | _ => none

theorem bracedText?_eq_some_iff {text target : String} :
    bracedText? text = some target ↔ text.toList = '{' :: target.toList ++ ['}'] := by
  unfold bracedText?
  split
  · rename_i rest same
    rw [same, List.cons_append, List.cons_inj_right, Option.map_eq_some_iff]
    constructor
    · rintro ⟨front, found, rfl⟩
      rw [String.toList_ofList, dropTail_eq_some_iff.mp found]
    · intro enclosed
      exact ⟨target.toList, dropTail_eq_some_iff.mpr enclosed, String.ofList_toList⟩
  · rename_i other
    constructor
    · exact nofun
    · intro enclosed
      exact absurd enclosed (other _)

theorem bracedText?_eq_none_of_head {text : String} (head : text.toList.head? ≠ some '{') :
    bracedText? text = none := by
  rw [Option.eq_none_iff_forall_ne_some]
  intro target braced
  rw [bracedText?_eq_some_iff.mp braced] at head
  exact head rfl

theorem bracedText?_eq_none_of_last {text : String} (last : text.toList.getLast? ≠ some '}') :
    bracedText? text = none := by
  rw [Option.eq_none_iff_forall_ne_some]
  intro target braced
  rw [bracedText?_eq_some_iff.mp braced, List.getLast?_concat] at last
  exact last rfl

theorem bracedText?_css (color : Color) : bracedText? color.css = none := by
  refine bracedText?_eq_none_of_head ?_
  rw [Color.css]
  split
  · simp [Color.hex]
  · simp

theorem bracedText?_dimensionText (value : Float) (unit : DimensionUnit) :
    bracedText? (dimensionText value unit) = none := by
  refine bracedText?_eq_none_of_last ?_
  have named : ∀ unit : DimensionUnit, ∃ last,
      unit.name.toList.getLast? = some last ∧ last ≠ '}' := by
    intro unit
    cases unit <;> exact ⟨_, rfl, by decide⟩
  rcases named unit with ⟨last, ends, other⟩
  rw [dimensionText, String.toList_append, List.getLast?_append, ends]
  simpa using other

namespace Dtcg

mutual

def expand (read : String → Option Value) : Json → Option Json
  | .text text =>
      match bracedText? text with
      | some target => (read target).map valueJson
      | none => some (.text text)
  | .array items => (expandItems read items).map .array
  | .object entries => (expandEntries read entries).map .object
  | json => some json

def expandItems (read : String → Option Value) : List Json → Option (List Json)
  | [] => some []
  | item :: items => do
      let first ← expand read item
      let rest ← expandItems read items
      return first :: rest

def expandEntries (read : String → Option Value) :
    List (String × Json) → Option (List (String × Json))
  | [] => some []
  | (key, member) :: entries => do
      let first ← expand read member
      let rest ← expandEntries read entries
      return (key, first) :: rest

end

end Dtcg

def Typography.texts (style : Typography) : List String :=
  [style.fontFamily, style.fontSize, style.fontWeight, style.lineHeight,
    style.letterSpacing].filterMap id

def Shadow.texts (layer : Shadow) : List String :=
  [layer.offsetX, layer.offsetY, layer.blur, layer.spread] ++ layer.color.toList

namespace Value

mutual

def isFaithful : Value → Bool
  | .string text => (bracedText? text).isNone
  | .typography style => style.texts.all fun text => (bracedText? text).isNone
  | .shadow layer => layer.texts.all fun text => (bracedText? text).isNone
  | .array items => faithfulItems items
  | .object entries => faithfulEntries entries
  | .reference _ transform => transform.isNone
  | _ => true

def faithfulItems : List Value → Bool
  | [] => true
  | item :: items => isFaithful item && faithfulItems items

def faithfulEntries : List (String × Value) → Bool
  | [] => true
  | (_, value) :: entries => isFaithful value && faithfulEntries entries

end

theorem isFaithful_of_transformed {value result : Value} {transform : Transform}
    {path : Option Path} (done : value.transformed transform path = .ok result) :
    result.isFaithful = true := by
  rcases shape_of_transformed done with measured | ⟨shade, rfl⟩
  · cases result <;> first | rfl | exact nomatch measured
  · rfl

end Value

namespace Dtcg

variable {read : String → Option Value}

theorem expand_text {text : String} (unbraced : bracedText? text = none) :
    expand read (.text text) = some (.text text) := by
  rw [expand, unbraced]

theorem expand_aliasJson (target : String) :
    expand read (aliasJson target) = (read target).map valueJson := by
  have braced : bracedText? ("\x7b" ++ target ++ "\x7d") = some target := by
    rw [bracedText?_eq_some_iff]
    simp
  rw [aliasJson, expand, braced]

theorem expand_numberJson (value : Float) :
    expand read (numberJson value) = some (numberJson value) := by
  unfold numberJson
  split <;> rw [expand] <;> exact nofun

theorem expandEntries_eq_self {entries : List (String × Json)}
    (each : ∀ entry ∈ entries, expand read entry.2 = some entry.2) :
    expandEntries read entries = some entries := by
  induction entries with
  | nil => rw [expandEntries]
  | cons entry entries ih =>
      have rest := ih fun other member => each other (List.mem_cons_of_mem _ member)
      rw [expandEntries, each entry List.mem_cons_self, rest]
      rfl

theorem expand_typographyJson {style : Typography}
    (unbraced : ∀ text ∈ style.texts, bracedText? text = none) :
    expand read (typographyJson style) = some (typographyJson style) := by
  rw [typographyJson, expand, expandEntries_eq_self]
  · rfl
  · intro entry member
    rcases List.mem_filterMap.mp member with ⟨⟨key, field⟩, listed, made⟩
    rcases Option.map_eq_some_iff.mp made with ⟨text, rfl, rfl⟩
    refine expand_text (unbraced text (List.mem_filterMap.mpr ⟨some text, ?_, rfl⟩))
    exact List.mem_map_of_mem (f := Prod.snd) listed

theorem expand_shadowJson {layer : Shadow}
    (unbraced : ∀ text ∈ layer.texts, bracedText? text = none) :
    expand read (shadowJson layer) = some (shadowJson layer) := by
  rw [shadowJson, expand, expandEntries_eq_self]
  · rfl
  · intro entry member
    rcases List.mem_append.mp member with texts | inset
    · have held : ∃ text ∈ layer.texts, entry.2 = .text text := by
        rcases List.mem_append.mp texts with lengths | shade
        · simp only [List.mem_cons, List.not_mem_nil, or_false] at lengths
          rcases lengths with rfl | rfl | rfl | rfl <;> exact ⟨_, by simp [Shadow.texts], rfl⟩
        · rcases Option.map_eq_some_iff.mp (Option.mem_toList.mp shade) with ⟨text, kept, rfl⟩
          refine ⟨text, List.mem_append_right _ (Option.mem_toList.mpr ?_), rfl⟩
          exact (Option.filter_eq_some_iff.mp kept).1
      rcases held with ⟨text, listed, same⟩
      rw [same]
      exact expand_text (unbraced text listed)
    · split at inset
      · rw [List.mem_singleton.mp inset]
        simp [expand]
      · exact absurd inset List.not_mem_nil

theorem expand_valueJson_of_isScalar {value : Value} (simple : value.isScalar = true)
    (faithful : value.isFaithful = true) :
    expand read (valueJson value) = some (valueJson value) := by
  cases value with
  | string text =>
      rw [Value.isFaithful, Option.isNone_iff_eq_none] at faithful
      exact expand_text faithful
  | number value => exact expand_numberJson value
  | boolean value => simp [valueJson, expand]
  | null => simp [valueJson, expand]
  | color shade => exact expand_text (bracedText?_css shade)
  | dimension value unit => exact expand_text (bracedText?_dimensionText value unit)
  | typography style =>
      rw [Value.isFaithful, List.all_eq_true] at faithful
      exact expand_typographyJson fun text member =>
        Option.isNone_iff_eq_none.mp (faithful text member)
  | shadow layer =>
      rw [Value.isFaithful, List.all_eq_true] at faithful
      exact expand_shadowJson fun text member =>
        Option.isNone_iff_eq_none.mp (faithful text member)
  | array items => exact nomatch simple
  | object entries => exact nomatch simple
  | «alias» target => exact nomatch simple
  | reference target transform => exact nomatch simple

variable {store : Store} {theme : Theme}

def ReadsAll (store : Store) (theme : Theme) (read : String → Option Value)
    (texts : List String) : Prop :=
  ∀ text ∈ texts, ∀ value, Reads store theme text value → read text = some value

theorem ReadsAll.left {texts more : List String}
    (readable : ReadsAll store theme read (texts ++ more)) : ReadsAll store theme read texts :=
  fun text member => readable text (List.mem_append_left _ member)

theorem ReadsAll.right {texts more : List String}
    (readable : ReadsAll store theme read (texts ++ more)) : ReadsAll store theme read more :=
  fun text member => readable text (List.mem_append_right _ member)

mutual

theorem expand_of_means {raw value : Value} :
    Means store theme raw value → raw.isFaithful = true →
      ReadsAll store theme read raw.targets → expand read (valueJson raw) = some (valueJson value)
  | .scalar simple => fun faithful _ => expand_valueJson_of_isScalar simple faithful
  | .array each => by
      intro faithful readable
      rw [valueJson, valueJson, expand, expand_of_meansEach each faithful readable]
      rfl
  | .object each => by
      intro faithful readable
      rw [valueJson, valueJson, expand, expand_of_meansEntries each faithful readable]
      rfl
  | .alias reads => by
      intro _ readable
      rw [valueJson, expand_aliasJson, readable _ List.mem_cons_self _ reads]
      rfl
  | .reference reads applied => by
      intro faithful readable
      rw [Value.isFaithful, Option.isNone_iff_eq_none] at faithful
      rw [faithful] at applied
      obtain rfl := Except.ok.inj applied
      rw [valueJson, expand_aliasJson, readable _ List.mem_cons_self _ reads]
      rfl

theorem expand_of_meansEach {items results : List Value} :
    MeansEach store theme items results → Value.faithfulItems items = true →
      ReadsAll store theme read (Value.targetsOfItems items) →
        expandItems read (itemsJson items) = some (itemsJson results)
  | .nil => fun _ _ => by rw [itemsJson, expandItems]
  | .cons first rest => by
      intro faithful readable
      rw [Value.faithfulItems, Bool.and_eq_true] at faithful
      rw [Value.targetsOfItems] at readable
      rw [itemsJson, itemsJson, expandItems, expand_of_means first faithful.1 readable.left,
        expand_of_meansEach rest faithful.2 readable.right]
      rfl

theorem expand_of_meansEntries {entries results : List (String × Value)} :
    MeansEntries store theme entries results → Value.faithfulEntries entries = true →
      ReadsAll store theme read (Value.targetsOfEntries entries) →
        expandEntries read (entriesJson entries) = some (entriesJson results)
  | .nil => fun _ _ => by rw [entriesJson, expandEntries]
  | .cons first rest => by
      intro faithful readable
      rw [Value.faithfulEntries, Bool.and_eq_true] at faithful
      rw [Value.targetsOfEntries] at readable
      rw [entriesJson, entriesJson, expandEntries, expand_of_means first faithful.1 readable.left,
        expand_of_meansEntries rest faithful.2 readable.right]
      rfl

end

end Dtcg

end DesignTokens
