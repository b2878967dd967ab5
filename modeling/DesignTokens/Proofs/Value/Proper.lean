import DesignTokens.Proofs.Color.Bytes
import DesignTokens.Proofs.Resolution.Concrete
import DesignTokens.Proofs.Store.Write

/-!
Values whose colours have bytes for channels.  Reading makes no others, transforms make
none of these, and writing them to a store keeps the store free of others.
-/

namespace DesignTokens

namespace Value

def Proper (value : Value) : Prop :=
  ∀ color, Within (.color color) value → color.Proper

theorem proper_of_isScalar {value : Value} (simple : value.isScalar = true)
    (shade : ∀ color, value = .color color → color.Proper) : value.Proper := by
  intro color within
  cases within with
  | here => exact shade color rfl
  | item => simp [isScalar] at simple
  | entry => simp [isScalar] at simple

theorem proper_colorless {value : Value} (simple : value.isScalar = true)
    (other : ∀ color, value ≠ .color color) : value.Proper :=
  proper_of_isScalar simple fun color same => absurd same (other color)

theorem proper_array {items : List Value} (each : ∀ item ∈ items, item.Proper) :
    (Value.array items).Proper := by
  intro color within
  cases within with
  | item member deeper => exact each _ member color deeper

theorem proper_object {entries : List (String × Value)}
    (each : ∀ key value, (key, value) ∈ entries → value.Proper) :
    (Value.object entries).Proper := by
  intro color within
  cases within with
  | entry member deeper => exact each _ _ member color deeper

theorem proper_ofLiteral (text : String) : (ofLiteral text).Proper := by
  refine proper_of_isScalar (isScalar_ofLiteral text) fun color read => ?_
  unfold ofLiteral at read
  dsimp only at read
  split at read
  · simp at read
  · split at read
    · simp at read
    · split at read
      · simp at read
      · split at read
        · simp at read
        · split at read
          · rename_i dimension
            simp only [dimensionOfText?, Option.bind_eq_some_iff, Option.map_eq_some_iff]
              at dimension
            rcases dimension with ⟨_, _, _, _, rfl⟩
            simp at read
          · split at read
            · rename_i parsed
              obtain rfl := Value.color.inj read
              exact Color.parse_proper parsed
            · simp at read

theorem calculate_error {value : Value} {operation : Operation} {operand : Float}
    {path : Option Path} {error : Error}
    (failed : value.calculate operation operand path = .error error) :
    error.kind = .typeMismatch ∨ error.kind = .invalidTransform := by
  have computed : ∀ {magnitude : Float} {make : Float → Value},
      (operation.compute magnitude operand).map make = .error error →
        error.kind = .invalidTransform := by
    intro magnitude make computation
    cases operation with
    | divide =>
        rw [Operation.compute] at computation
        split at computation
        · obtain rfl := Except.error.inj computation
          rfl
        · simp [Except.map] at computation
    | _ => simp [Operation.compute, Except.map] at computation
  unfold calculate at failed
  split at failed
  · exact Or.inr (computed failed)
  · exact Or.inr (computed failed)
  · obtain rfl := Except.error.inj failed
    exact Or.inl rfl

/-- A transform of a proper value gives a proper value, or fails for its argument or its factor. -/
theorem Proper.transformed {value : Value} (proper : value.Proper) (transform : Transform)
    (path : Option Path) :
    (∃ result, value.transformed transform path = .ok result ∧ result.Proper) ∨
      ∃ error, value.transformed transform path = .error error ∧
        (error.kind = .typeMismatch ∨ error.kind = .invalidTransform) := by
  have calculated : ∀ operation operand,
      (∃ result, value.calculate operation operand path = .ok result ∧ result.Proper) ∨
        ∃ error, value.calculate operation operand path = .error error ∧
          (error.kind = .typeMismatch ∨ error.kind = .invalidTransform) := by
    intro operation operand
    cases run : value.calculate operation operand path with
    | ok result =>
        have measured := isMagnitude_of_calculate run
        refine Or.inl ⟨result, rfl, proper_of_isScalar (isScalar_of_isMagnitude measured) ?_⟩
        rintro color rfl
        exact nomatch measured
    | error error => exact Or.inr ⟨error, rfl, calculate_error run⟩
  cases transform with
  | math operation operand => exact calculated operation operand
  | scale factor => exact calculated .multiply factor
  | adjust change factor =>
      cases value with
      | color shade =>
          rw [Value.transformed, adjustColor]
          split
          · rcases ColorChange.apply_proper (proper shade Within.here) change factor with
              ⟨changed, applied, bytes⟩
            rw [applied]
            refine Or.inl ⟨_, rfl, proper_of_isScalar rfl ?_⟩
            intro color same
            obtain rfl := Value.color.inj same
            exact bytes
          · exact Or.inr ⟨_, rfl, Or.inr rfl⟩
      | _ => exact Or.inr ⟨_, rfl, Or.inl rfl⟩

theorem Proper.applied {value result : Value} (proper : value.Proper)
    {transform : Option Transform} {path : Option Path}
    (done : value.applied transform path = .ok result) : result.Proper := by
  cases transform with
  | none =>
      obtain rfl := Except.ok.inj done
      exact proper
  | some transform =>
      change value.transformed transform path = .ok result at done
      rcases proper.transformed transform path with ⟨made, run, kept⟩ | ⟨error, run, _⟩
      · rw [run] at done
        obtain rfl := Except.ok.inj done
        exact kept
      · rw [run] at done
        simp at done

theorem Proper.applied_error {value : Value} (proper : value.Proper)
    {transform : Option Transform} {path : Option Path} {error : Error}
    (failed : value.applied transform path = .error error) :
    error.kind = .typeMismatch ∨ error.kind = .invalidTransform := by
  cases transform with
  | none => simp [Value.applied] at failed
  | some transform =>
      change value.transformed transform path = .error error at failed
      rcases proper.transformed transform path with ⟨made, run, _⟩ | ⟨other, run, kind⟩
      · rw [run] at failed
        simp at failed
      · rw [run] at failed
        obtain rfl := Except.error.inj failed
        exact kind

theorem proper_reference {value : Value} (reference : value.isReference = true) :
    value.Proper := by
  intro color within
  cases within <;> simp [isReference] at reference

theorem ofScalar_proper {scalar : Scalar} {value : Value} (read : ofScalar scalar = .ok value) :
    value.Proper := by
  cases scalar with
  | null | boolean | number =>
      obtain rfl := Except.ok.inj read
      exact proper_colorless rfl (by simp)
  | integer number =>
      rw [ofScalar] at read
      cases finite : finiteFloat? number with
      | none => simp [finite, fitting] at read
      | some x =>
          rw [finite] at read
          obtain rfl := Except.ok.inj read
          exact proper_colorless rfl (by simp)
  | text text =>
      rw [ofScalar] at read
      split at read
      · obtain rfl := Except.ok.inj read
        exact proper_reference rfl
      · obtain rfl := Except.ok.inj read
        exact proper_ofLiteral text
  | _ => simp [ofScalar] at read

theorem fitting_eq_ok_iff {α : Type} {found : Option α} {value : α} :
    fitting found = .ok value ↔ found = some value := by
  cases found <;> simp [fitting]

theorem ofDollarKey?_proper {entries : List (Scalar × Data)} {value : Value}
    (read : ofDollarKey? entries = some (.ok value)) : value.Proper := by
  unfold ofDollarKey? at read
  split at read
  · rcases bind_eq_ok_iff.mp (Option.some.inj read) with ⟨target, _, read⟩
    split at read
    · obtain rfl := Except.ok.inj read
      exact proper_reference rfl
    · obtain rfl := Except.ok.inj read
      exact proper_reference rfl
    · rcases bind_eq_ok_iff.mp read with ⟨transform, _, same⟩
      obtain rfl := Except.ok.inj same
      exact proper_reference rfl
  · split at read
    · rcases bind_eq_ok_iff.mp (Option.some.inj read) with ⟨text, _, read⟩
      rw [fitting_eq_ok_iff, Option.map_eq_some_iff] at read
      rcases read with ⟨color, parsed, rfl⟩
      refine proper_of_isScalar rfl fun other same => ?_
      obtain rfl := Value.color.inj same
      cases run : Color.parse text with
      | error fault => simp [run, Except.toOption] at parsed
      | ok made =>
          rw [run] at parsed
          obtain rfl := Option.some.inj parsed
          exact Color.parse_proper run
    · split at read
      · rcases bind_eq_ok_iff.mp (Option.some.inj read) with ⟨composite, _, read⟩
        rcases bind_eq_ok_iff.mp read with ⟨fields, _, read⟩
        rw [fitting_eq_ok_iff, Option.map_eq_some_iff] at read
        rcases read with ⟨style, _, rfl⟩
        exact proper_colorless rfl (by simp)
      · split at read
        · rcases bind_eq_ok_iff.mp (Option.some.inj read) with ⟨composite, _, read⟩
          rcases bind_eq_ok_iff.mp read with ⟨fields, _, read⟩
          rw [fitting_eq_ok_iff, Option.map_eq_some_iff] at read
          rcases read with ⟨layer, _, rfl⟩
          exact proper_colorless rfl (by simp)
        · rw [Option.map_eq_some_iff] at read
          rcases read with ⟨data, _, read⟩
          cases text : data.readText with
          | error error => simp [text] at read
          | ok made =>
              rw [text] at read
              obtain rfl := Except.ok.inj read
              exact proper_colorless rfl (by simp)

mutual

theorem coerce_proper : ∀ (data : Data) (value : Value), coerce data = .ok value → value.Proper
  | .scalar scalar, value, read => ofScalar_proper read
  | .list items, value, read => by
      rw [coerce] at read
      rcases bind_eq_ok_iff.mp read with ⟨results, readItems, same⟩
      obtain rfl := Except.ok.inj same
      exact proper_array (coerceItems_proper items results readItems)
  | .mapping entries, value, read => by
      rw [coerce] at read
      cases dollar : ofDollarKey? entries with
      | some result =>
          rw [dollar] at read
          obtain rfl : result = .ok value := read
          exact ofDollarKey?_proper dollar
      | none =>
          rw [dollar] at read
          rcases bind_eq_ok_iff.mp read with ⟨results, readEntries, same⟩
          obtain rfl := Except.ok.inj same
          refine proper_object fun key member inside => ?_
          rcases Entries.mem_insertAll inside with none | listed
          · exact absurd none List.not_mem_nil
          · exact coerceEntries_proper entries results readEntries key member listed

theorem coerceItems_proper : ∀ (items : List Data) (results : List Value),
    coerceItems items = .ok results → ∀ result ∈ results, result.Proper
  | [], results, read => by
      obtain rfl := Except.ok.inj read
      simp
  | data :: rest, results, read => by
      rw [coerceItems] at read
      rcases bind_eq_ok_iff.mp read with ⟨first, readFirst, read⟩
      rcases bind_eq_ok_iff.mp read with ⟨others, readRest, same⟩
      obtain rfl := Except.ok.inj same
      intro result member
      rcases List.mem_cons.mp member with same | later
      · rw [same]
        exact coerce_proper data first readFirst
      · exact coerceItems_proper rest others readRest result later

theorem coerceEntries_proper : ∀ (entries : List (Scalar × Data)) (results : List (String × Value)),
    coerceEntries entries = .ok results → ∀ key result, (key, result) ∈ results → result.Proper
  | [], results, read => by
      obtain rfl := Except.ok.inj read
      simp
  | (key, data) :: rest, results, read => by
      rw [coerceEntries] at read
      rcases bind_eq_ok_iff.mp read with ⟨name, _, read⟩
      rcases bind_eq_ok_iff.mp read with ⟨first, readFirst, read⟩
      rcases bind_eq_ok_iff.mp read with ⟨others, readRest, same⟩
      obtain rfl := Except.ok.inj same
      intro known result member
      rcases List.mem_cons.mp member with same | later
      · rw [(Prod.mk.inj same).2]
        exact coerce_proper data first readFirst
      · exact coerceEntries_proper rest others readRest known result later

end

end Value

def Store.Proper (store : Store) : Prop :=
  ∀ path theme value, store.get? path theme = some value → value.Proper

namespace Store

def Write.written : Write → List Value
  | .set _ _ value => [value]
  | .setAll entries _ => entries.map Prod.snd
  | _ => []

theorem setAll_holds {store : Store} {entries : List (Path × Value)} {owner : Theme}
    {held : (Path × Theme) × Value} (member : held ∈ (store.setAll entries owner).values.entries) :
    held.2 ∈ entries.map Prod.snd ∨ held ∈ store.values.entries := by
  unfold setAll at member
  split at member
  · exact Or.inr member
  · rcases Entries.mem_insertAll member with old | new
    · exact Or.inr old
    · rcases List.mem_map.mp new with ⟨entry, listed, rfl⟩
      exact Or.inl (List.mem_map.mpr ⟨entry, listed, rfl⟩)

/-- After a write, every value was there before or is among those that were written. -/
theorem apply_holds {store : Store} (write : Write) {held : (Path × Theme) × Value}
    (member : held ∈ (write.apply store).values.entries) :
    held.2 ∈ write.written ∨ ∃ key, (key, held.2) ∈ store.values.entries := by
  have kept : held ∈ store.values.entries →
      held.2 ∈ write.written ∨ ∃ key, (key, held.2) ∈ store.values.entries :=
    fun old => Or.inr ⟨held.1, old⟩
  cases write with
  | set path theme value =>
      rcases Entries.mem_insert member with old | rfl
      · exact kept old
      · exact Or.inl List.mem_cons_self
  | remove path theme =>
      simp only [Write.apply, remove] at member
      split at member
      · exact kept (List.mem_of_mem_filter member)
      · exact kept member
  | setAll entries theme =>
      rcases setAll_holds member with new | old
      · exact Or.inl new
      · exact kept old
  | copyTheme source target =>
      rcases setAll_holds member with copied | old
      · rcases List.mem_map.mp copied with ⟨⟨path, value⟩, listed, same⟩
        have found := mem_items_iff.mp listed
        rw [get?, ← Table.mem_entries_iff] at found
        exact Or.inr ⟨(path, source), same ▸ found⟩
      · exact kept old
  | clearTheme theme =>
      simp only [Write.apply, clearTheme] at member
      split at member
      · exact kept member
      · exact kept (List.mem_of_mem_filter member)
  | clear => exact absurd member List.not_mem_nil
  | setMetadata path metadata => exact kept member
  | setAllMetadata entries => exact kept member

theorem proper_empty : Store.empty.Proper := by
  intro path theme value found
  exact nomatch found

theorem Proper.apply {store : Store} (proper : store.Proper) (write : Write)
    (written : ∀ value ∈ write.written, value.Proper) : (write.apply store).Proper := by
  intro path theme value found
  rw [get?, ← Table.mem_entries_iff] at found
  rcases apply_holds write found with new | ⟨key, old⟩
  · exact written value new
  · rw [Table.mem_entries_iff] at old
    exact proper key.1 key.2 value old

theorem proper_setAll {entries : List (Path × Value)} {theme : Theme}
    (each : ∀ entry ∈ entries, entry.2.Proper) : (Store.empty.setAll entries theme).Proper := by
  refine proper_empty.apply (.setAll entries theme) fun value written => ?_
  obtain ⟨entry, member, rfl⟩ := List.mem_map.mp written
  exact each entry member

end Store

end DesignTokens
