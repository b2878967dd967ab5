import DesignTokens.Proofs.Table
import DesignTokens.Value.Coercion

/-!
How raw data can be refused.  An error of a reading is about tokens, about the fields of a
record, or about a scalar in the data that has no text.
-/

namespace DesignTokens

def FailsWith {α : Type} (allowed : Error → Prop) (result : Except Error α) : Prop :=
  ∀ error, result = .error error → allowed error

namespace FailsWith

variable {α β : Type} {allowed : Error → Prop}

theorem ok (value : α) : FailsWith allowed (.ok value) := by
  intro error failed
  cases failed

theorem error {fault : Error} (excused : allowed fault) :
    FailsWith allowed (.error fault : Except Error α) := by
  intro error failed
  cases failed
  exact excused

theorem mono {wider : Error → Prop} {result : Except Error α} (fails : FailsWith allowed result)
    (wide : ∀ error, allowed error → wider error) : FailsWith wider result := by
  intro error failed
  exact wide error (fails error failed)

theorem bind {first : Except Error α} {next : α → Except Error β} (fails : FailsWith allowed first)
    (later : ∀ value, first = .ok value → FailsWith allowed (next value)) :
    FailsWith allowed (first >>= next) := by
  cases first with
  | error fault => exact error (fails fault rfl)
  | ok value => exact later value rfl

theorem map {first : Except Error α} (f : α → β) (fails : FailsWith allowed first) :
    FailsWith allowed (f <$> first) := by
  cases first with
  | error fault => exact error (fails fault rfl)
  | ok value => exact ok (f value)

theorem mapError {result : Except Error α} {wider : Error → Prop} {turn : Error → Error}
    (fails : FailsWith allowed result) (turned : ∀ error, allowed error → wider (turn error)) :
    FailsWith wider (result.mapError turn) := by
  cases result with
  | error fault => exact error (turned fault (fails fault rfl))
  | ok value => exact ok value

theorem mapM {f : α → Except Error β} {values : List α}
    (each : ∀ value ∈ values, FailsWith allowed (f value)) :
    FailsWith allowed (values.mapM f) := by
  induction values with
  | nil => exact ok []
  | cons value values ih =>
      rw [List.mapM_cons]
      obtain ⟨here, others⟩ := List.forall_mem_cons.mp each
      refine bind here fun first _ => ?_
      exact bind (ih others) fun rest _ => ok (first :: rest)

end FailsWith

namespace Data

mutual

def scalars : Data → List Scalar
  | .scalar value => [value]
  | .list items => scalarsOfItems items
  | .mapping entries => scalarsOfEntries entries

def scalarsOfItems : List Data → List Scalar
  | [] => []
  | item :: items => scalars item ++ scalarsOfItems items

def scalarsOfEntries : List (Scalar × Data) → List Scalar
  | [] => []
  | (key, value) :: entries => key :: scalars value ++ scalarsOfEntries entries

end

mutual

theorem isWritable_of_scalars : ∀ data : Data,
    (∀ scalar ∈ data.scalars, scalar.isWritable = true) → data.isWritable = true
  | .scalar value, short => short value (by simp [scalars])
  | .list items, short => areWritable_of_scalars items short
  | .mapping entries, short => entriesAreWritable_of_scalars entries short

theorem areWritable_of_scalars : ∀ items,
    (∀ scalar ∈ scalarsOfItems items, scalar.isWritable = true) → areWritable items = true
  | [], _ => rfl
  | item :: items, short => by
      rw [areWritable, isWritable_of_scalars item fun scalar member => short scalar ?_,
        areWritable_of_scalars items fun scalar member => short scalar ?_]
      · rfl
      · exact List.mem_append_right _ member
      · exact List.mem_append_left _ member

theorem entriesAreWritable_of_scalars : ∀ entries,
    (∀ scalar ∈ scalarsOfEntries entries, scalar.isWritable = true) →
      entriesAreWritable entries = true
  | [], _ => rfl
  | (key, value) :: entries, short => by
      rw [entriesAreWritable, short key List.mem_cons_self,
        isWritable_of_scalars value fun scalar member => short scalar ?_,
        entriesAreWritable_of_scalars entries fun scalar member => short scalar ?_]
      · rfl
      · exact List.mem_cons_of_mem _ (List.mem_append_right _ member)
      · exact List.mem_cons_of_mem _ (List.mem_append_left _ member)

end

theorem scalars_subset_of_mem {entries : List (Scalar × Data)} {key : Scalar} {data : Data}
    (member : (key, data) ∈ entries) :
    key ∈ scalarsOfEntries entries ∧ data.scalars ⊆ scalarsOfEntries entries := by
  induction entries with
  | nil => cases member
  | cons entry entries ih =>
      obtain ⟨other, value⟩ := entry
      rcases List.mem_cons.mp member with same | later
      · obtain ⟨rfl, rfl⟩ := Prod.mk.inj same
        simp [scalarsOfEntries]
      · obtain ⟨known, within⟩ := ih later
        refine ⟨List.mem_cons_of_mem _ (List.mem_append_right _ known), fun scalar inside => ?_⟩
        exact List.mem_cons_of_mem _ (List.mem_append_right _ (within inside))

theorem scalars_subset_of_entry? {entries : List (Scalar × Data)} {key : String} {data : Data}
    (found : entry? entries key = some data) : data.scalars ⊆ scalarsOfEntries entries :=
  (scalars_subset_of_mem (Entries.mem_of_find?_eq_some found)).2

end Data

inductive Refusal (scalars : List Scalar) : Error → Prop
  | token {error : Error} (kind : error.kind.isTokenError = true) : Refusal scalars error
  | record : Refusal scalars .record
  | fieldNames : Refusal scalars .fieldNames
  | tooLong {scalar : Scalar} (member : scalar ∈ scalars) (long : scalar.isWritable = false) :
      Refusal scalars (.data (.tooManyDigits none))
  | endless {shown : String} (member : .endless shown ∈ scalars) :
      Refusal scalars (.data .endless)

namespace Refusal

theorem mono {scalars wider : List Scalar} (within : scalars ⊆ wider) {error : Error}
    (refusal : Refusal scalars error) : Refusal wider error := by
  cases refusal with
  | token kind => exact .token kind
  | record => exact .record
  | fieldNames => exact .fieldNames
  | tooLong member long => exact .tooLong (within member) long
  | endless member => exact .endless (within member)

theorem fails_mono {α : Type} {scalars wider : List Scalar} {result : Except Error α}
    (fails : FailsWith (Refusal scalars) result) (within : scalars ⊆ wider) :
    FailsWith (Refusal wider) result :=
  fails.mono fun _ => mono within

theorem of_unwritable {data : Data} (unwritable : data.isWritable = false) :
    Refusal data.scalars (.data (.tooManyDigits none)) := by
  cases short : data.scalars.all Scalar.isWritable with
  | true =>
      rw [data.isWritable_of_scalars (List.all_eq_true.mp short)] at unwritable
      cases unwritable
  | false =>
      obtain ⟨scalar, member, long⟩ := List.all_eq_false.mp short
      exact .tooLong member (Bool.eq_false_iff.mpr long)

end Refusal

section Readings

variable {scalars : List Scalar}

theorem fitting_fails {α : Type} (reading : Option α) :
    FailsWith (Refusal scalars) (fitting reading) := by
  cases reading with
  | none => exact FailsWith.error .record
  | some value => exact FailsWith.ok value

theorem Data.readText_fails (data : Data) : FailsWith (Refusal data.scalars) data.readText := by
  unfold Data.readText Data.written
  cases writable : data.isWritable with
  | true => exact FailsWith.ok _
  | false => exact FailsWith.error (.of_unwritable writable)

theorem Scalar.readText_fails {key : Scalar} (member : key ∈ scalars) :
    FailsWith (Refusal scalars) key.readText := by
  refine Refusal.fails_mono (Data.readText_fails (.scalar key)) fun scalar found => ?_
  rw [List.mem_singleton.mp found]
  exact member

theorem faultShowing_fails {α : Type} (fault : String → ValueFault) (data : Data) :
    FailsWith (Refusal data.scalars) (faultShowing fault data : Except Error α) := by
  unfold faultShowing Data.written
  cases writable : data.isWritable with
  | true => exact FailsWith.error (.token rfl)
  | false => exact FailsWith.error (.of_unwritable writable)

theorem Path.read_fails (raw : String) : FailsWith (Refusal scalars) (Path.read raw) := by
  unfold Path.read
  cases Path.parse raw with
  | error fault => exact FailsWith.error (.token rfl)
  | ok path => exact FailsWith.ok path

theorem Transform.ofData_fails (data : Data) :
    FailsWith (Refusal data.scalars) (Transform.ofData data) := by
  unfold Transform.ofData
  split
  · rename_i name argument
    have shown : FailsWith (Refusal (Data.mapping [(.text name, argument)]).scalars)
        (faultShowing .transformName (.text name) : Except Error Transform) := by
      refine Refusal.fails_mono (faultShowing_fails _ _) fun scalar found => ?_
      rw [List.mem_singleton.mp found]
      exact List.mem_cons_self
    dsimp only
    split
    · split
      · split
        · exact FailsWith.ok _
        · exact FailsWith.error (.token rfl)
      · exact FailsWith.error (.token rfl)
    · split
      · split
        · exact FailsWith.ok _
        · exact FailsWith.error (.token rfl)
      · exact shown
  · refine Refusal.fails_mono (faultShowing_fails _ _) fun scalar found => ?_
    rw [List.mem_singleton.mp found]
    exact List.mem_cons_self
  · exact faultShowing_fails _ _

theorem compositeFields_fails (key : String) (data : Data) :
    FailsWith (Refusal scalars) (compositeFields key data) := by
  cases data with
  | mapping entries => exact FailsWith.ok entries
  | scalar value => exact FailsWith.error (.token rfl)
  | list items => exact FailsWith.error (.token rfl)

theorem namedFields_fails {entries : List (Scalar × Data)} {field : Data → Except Error Data}
    (reads : ∀ data, FailsWith (Refusal data.scalars) (field data)) :
    FailsWith (Refusal (Data.scalarsOfEntries entries)) (namedFields entries field) := by
  refine FailsWith.bind (FailsWith.mapM fun entry member => ?_) fun fields _ => FailsWith.ok _
  obtain ⟨key, data⟩ := entry
  obtain ⟨known, within⟩ := Data.scalars_subset_of_mem member
  refine FailsWith.bind (Scalar.readText_fails known) fun name _ => ?_
  exact FailsWith.bind (Refusal.fails_mono (reads data) within) fun value _ => FailsWith.ok _

theorem textField_fails (data : Data) : FailsWith (Refusal data.scalars) (textField data) :=
  FailsWith.map _ data.readText_fails

theorem textUnlessBoolean_fails (data : Data) :
    FailsWith (Refusal data.scalars) (textUnlessBoolean data) := by
  unfold textUnlessBoolean
  split
  · exact FailsWith.ok _
  · exact textField_fails _

/-- The fields of a composite under one of the keys of a mapping. -/
theorem composite_fails {α : Type} {entries : List (Scalar × Data)} {key : String} {data : Data}
    (found : Data.entry? entries key = some data) {field : Data → Except Error Data}
    (reads : ∀ data, FailsWith (Refusal data.scalars) (field data)) (make : Fields → Option α) :
    FailsWith (Refusal (Data.scalarsOfEntries entries)) (do
      let fields ← namedFields (← compositeFields key data) field
      fitting (make fields)) := by
  refine FailsWith.bind (compositeFields_fails key data) fun fields read => ?_
  refine FailsWith.bind ?_ fun named _ => fitting_fails _
  cases data with
  | mapping inner =>
      obtain rfl := Except.ok.inj read
      exact Refusal.fails_mono (namedFields_fails reads) (Data.scalars_subset_of_entry? found)
  | scalar value => cases read
  | list items => cases read

namespace Value

theorem ofDollarKey?_fails {entries : List (Scalar × Data)} {result : Except Error Value}
    (written : ofDollarKey? entries = some result) :
    FailsWith (Refusal (Data.scalarsOfEntries entries)) result := by
  have reads : ∀ {key data}, Data.entry? entries key = some data →
      FailsWith (Refusal (Data.scalarsOfEntries entries)) data.readText :=
    fun found => Refusal.fails_mono (Data.readText_fails _) (Data.scalars_subset_of_entry? found)
  unfold ofDollarKey? at written
  split at written
  · rename_i data found
    obtain rfl := Option.some.inj written
    refine FailsWith.bind (reads found) fun target _ => ?_
    split
    · exact FailsWith.ok _
    · exact FailsWith.ok _
    · rename_i change _ transforms
      refine FailsWith.bind ?_ fun transform _ => FailsWith.ok _
      exact Refusal.fails_mono (Transform.ofData_fails change)
        (Data.scalars_subset_of_entry? transforms)
  split at written
  · rename_i data found
    obtain rfl := Option.some.inj written
    exact FailsWith.bind (reads found) fun text _ => fitting_fails _
  split at written
  · rename_i data found
    obtain rfl := Option.some.inj written
    exact composite_fails found textField_fails fun fields =>
      (Typography.ofFields? fields).map Value.typography
  split at written
  · rename_i data found
    obtain rfl := Option.some.inj written
    exact composite_fails found textUnlessBoolean_fails fun fields =>
      (Shadow.ofFields? fields).map Value.shadow
  · obtain ⟨data, found, rfl⟩ := Option.map_eq_some_iff.mp written
    exact FailsWith.map _ (reads found)

theorem ofScalar_fails (scalar : Scalar) :
    FailsWith (Refusal (Data.scalar scalar).scalars) (ofScalar scalar) := by
  cases scalar with
  | null => exact FailsWith.ok _
  | boolean value => exact FailsWith.ok _
  | integer value => exact fitting_fails _
  | number value => exact FailsWith.ok _
  | text value =>
      unfold ofScalar
      dsimp only
      split <;> exact FailsWith.ok _
  | bytes content => exact FailsWith.error (.token rfl)
  | «foreign» name text shown => exact FailsWith.error (.token rfl)
  | endless shown => exact FailsWith.error (.endless (List.mem_singleton.mpr rfl))

mutual

theorem coerce_fails : ∀ data : Data, FailsWith (Refusal data.scalars) (coerce data)
  | .scalar scalar => by
      rw [coerce]
      exact ofScalar_fails scalar
  | .list items => by
      rw [coerce]
      exact FailsWith.bind (coerceItems_fails items) fun values _ => FailsWith.ok _
  | .mapping entries => by
      rw [coerce]
      cases written : ofDollarKey? entries with
      | some result => exact ofDollarKey?_fails written
      | none => exact FailsWith.bind (coerceEntries_fails entries) fun values _ => FailsWith.ok _

theorem coerceItems_fails : ∀ items,
    FailsWith (Refusal (Data.scalarsOfItems items)) (coerceItems items)
  | [] => FailsWith.ok []
  | data :: rest => by
      rw [coerceItems]
      refine FailsWith.bind ?_ fun item _ => FailsWith.bind ?_ fun items _ => FailsWith.ok _
      · exact Refusal.fails_mono (coerce_fails data) (List.subset_append_left _ _)
      · exact Refusal.fails_mono (coerceItems_fails rest) (List.subset_append_right _ _)

theorem coerceEntries_fails : ∀ entries,
    FailsWith (Refusal (Data.scalarsOfEntries entries)) (coerceEntries entries)
  | [] => FailsWith.ok []
  | (key, data) :: rest => by
      have inner : data.scalars ⊆ Data.scalarsOfEntries ((key, data) :: rest) :=
        (Data.scalars_subset_of_mem List.mem_cons_self).2
      rw [coerceEntries]
      refine FailsWith.bind (Scalar.readText_fails List.mem_cons_self) fun name _ => ?_
      refine FailsWith.bind ?_ fun value _ => FailsWith.bind ?_ fun entries _ => FailsWith.ok _
      · exact Refusal.fails_mono (coerce_fails data) inner
      · refine Refusal.fails_mono (coerceEntries_fails rest) fun scalar member => ?_
        exact List.mem_cons_of_mem _ (List.mem_append_right _ member)

end

theorem ofData_fails (data : Data) : FailsWith (Refusal data.scalars) (ofData data) := by
  unfold ofData
  split
  · exact faultShowing_fails _ data
  · exact coerce_fails data

end Value

end Readings

end DesignTokens
