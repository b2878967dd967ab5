import DesignTokens.Proofs.Resolution.Chain

/-!
When a path has a value at all: what it leads to is there, never leads back to itself,
and no transform on the way fails.
-/

namespace DesignTokens

open Relation

variable {store : Store} {theme : Theme}

mutual

theorem Means.readsAs {raw value : Value} :
    Means store theme raw value → ∀ text transform, (text, transform) ∈ raw.references →
      ∃ result, ReadsAs store theme text transform result
  | .scalar simple => by
      cases raw <;> simp_all [Value.isScalar, Value.isReference, Value.references]
  | .array each => by simpa only [Value.references] using each.readsAs
  | .object each => by simpa only [Value.references] using each.readsAs
  | .alias reads => by
      intro text transform member
      rw [Value.references, List.mem_singleton] at member
      obtain ⟨rfl, rfl⟩ := Prod.mk.inj member
      exact ⟨value, value, reads, rfl⟩
  | .reference reads applied => by
      intro text transform member
      rw [Value.references, List.mem_singleton] at member
      obtain ⟨rfl, rfl⟩ := Prod.mk.inj member
      exact ⟨value, _, reads, applied⟩

theorem MeansEach.readsAs {items results : List Value} :
    MeansEach store theme items results →
      ∀ text transform, (text, transform) ∈ Value.referencesOfItems items →
        ∃ result, ReadsAs store theme text transform result
  | .nil => by simp [Value.referencesOfItems]
  | .cons first rest => by
      intro text transform member
      rw [Value.referencesOfItems, List.mem_append] at member
      rcases member with member | member
      · exact first.readsAs text transform member
      · exact rest.readsAs text transform member

theorem MeansEntries.readsAs {entries results : List (String × Value)} :
    MeansEntries store theme entries results →
      ∀ text transform, (text, transform) ∈ Value.referencesOfEntries entries →
        ∃ result, ReadsAs store theme text transform result
  | .nil => by simp [Value.referencesOfEntries]
  | .cons first rest => by
      intro text transform member
      rw [Value.referencesOfEntries, List.mem_append] at member
      rcases member with member | member
      · exact first.readsAs text transform member
      · exact rest.readsAs text transform member

end

theorem Reads.unique {text : String} {operand other : Value}
    (first : Reads store theme text operand) (second : Reads store theme text other) :
    operand = other := by
  cases first with
  | literal literal same =>
      cases second with
      | literal _ equal => rw [← same, equal]
      | followed points _ => exact absurd literal points.not_inline
  | followed points denotes => exact denotes.unique (second.denotes points)

def Transformable (store : Store) (theme : Theme) (path : Path) : Prop :=
  ∀ raw text transform operand, Shows store theme path raw →
    (text, transform) ∈ raw.references → Reads store theme text operand →
      ∃ result, operand.applied transform none = .ok result

theorem Denotes.follows {path next : Path} {value : Value}
    (denotes : Denotes store theme path value) (follows : Follows store theme path next) :
    ∃ operand, Denotes store theme next operand := by
  rcases follows with ⟨raw, text, shows, mentions, points⟩
  rcases Value.exists_mem_references_of_mem_targets mentions with ⟨transform, member⟩
  cases denotes with
  | shown found means =>
      rw [found.unique shows] at means
      rcases means.readsAs text transform member with ⟨_, operand, reads, _⟩
      exact ⟨operand, reads.denotes points⟩

theorem Denotes.reaches {path last : Path} {value : Value}
    (denotes : Denotes store theme path value) (reaches : Reaches store theme path last) :
    ∃ operand, Denotes store theme last operand := by
  induction reaches with
  | refl => exact ⟨value, denotes⟩
  | tail _ step ih =>
      rcases ih with ⟨operand, middle⟩
      exact middle.follows step

theorem Denotes.transformable {path : Path} {value : Value}
    (denotes : Denotes store theme path value) : Transformable store theme path := by
  intro raw text transform operand shows member reads
  cases denotes with
  | shown found means =>
      rw [found.unique shows] at means
      rcases means.readsAs text transform member with ⟨result, other, read, applied⟩
      rw [reads.unique read]
      exact ⟨result, applied⟩

def success : MonadRelation (Except Error) (Except Error) where
  relates first _ := ∃ value, first = .ok value
  pure value := ⟨value, rfl⟩
  bind := by
    rintro α β first second next after ⟨value, rfl⟩ continues
    exact continues value

def failure (cause : Error → Prop) : MonadRelation (Except Error) (Except Error) where
  relates first _ := ∀ error, first = .error error → cause error
  pure value error failed := by simp [Pure.pure, Except.pure] at failed
  bind := by
    intro α β first second next after start continues error failed
    cases first with
    | error reason =>
        obtain rfl := Except.error.inj failed
        exact start reason rfl
    | ok value => exact continues value error failed

theorem replaceReferences_succeeds {raw : Value}
    {replace : Nat → String → Option Transform → Except Error Value}
    (each : ∀ depth text transform, (text, transform) ∈ raw.references →
      ∃ result, replace depth text transform = .ok result) :
    ∃ value, raw.replaceReferences replace 0 = .ok value :=
  @Value.replaceReferences_relates _ _ _ _ success replace replace 0 raw
    fun _ text transform holds => each _ text transform holds.mem_references

theorem replaceReferences_fails {raw : Value}
    {replace : Nat → String → Option Transform → Except Error Value} {error : Error}
    (failed : raw.replaceReferences replace 0 = .error error) :
    ∃ depth text transform, (text, transform) ∈ raw.references ∧
      replace depth text transform = .error error := by
  let cause : Error → Prop := fun error =>
    ∃ depth text transform, (text, transform) ∈ raw.references ∧
      replace depth text transform = .error error
  have related := @Value.replaceReferences_relates _ _ _ _ (failure cause) replace replace 0 raw
  exact related (fun _ text transform holds error found =>
    ⟨_, text, transform, holds.mem_references, found⟩) error failed

theorem plainFrom_succeeds {trail : List Path} {current : Path}
    (linked : Linked store theme trail current)
    (clear : ∀ reached, Reaches store theme current reached →
      (∃ raw, Shows store theme reached raw) ∧ ¬ Cyclic store theme reached ∧
        Transformable store theme reached) :
    ∃ value, plainFrom store theme trail current = .ok value := by
  induction trail, current using plainFrom.induct store theme with
  | case1 trail current visited =>
      -- A path that is on its own trail leads back to itself.
      exact absurd (linked current visited) (clear current ReflTransGen.refl).2.1
  | case2 trail current fresh missing =>
      rcases (clear current ReflTransGen.refl).1 with ⟨raw, shows⟩
      exact absurd shows (visible?_eq_none_iff.mp missing raw)
  | case3 trail current fresh raw shown ih =>
      have shows := visible?_eq_some_iff.mp shown
      have transformable := (clear current ReflTransGen.refl).2.2
      rw [plainFrom_shown fresh shown]
      refine replaceReferences_succeeds fun _ text transform member => ?_
      rcases inline_or_points store theme text with literal | ⟨target, points⟩
      · rcases transformable raw text transform _ shows member (Reads.literal literal rfl) with
          ⟨result, applied⟩
        refine ⟨result, ?_⟩
        rw [readWith_inline literal]
        exact (Value.applied_eq_ok_iff _ _ _ _ _).mp applied
      · have follows : Follows store theme current target :=
          ⟨raw, text, shows, Value.mem_targets_of_mem_references member, points⟩
        rcases ih target (linked.step follows) fun reached reaches =>
          clear reached (ReflTransGen.head follows reaches) with ⟨operand, found⟩
        have reads := Reads.followed points (denotes_of_plainFrom found)
        rcases transformable raw text transform operand shows member reads with ⟨result, applied⟩
        refine ⟨result, ?_⟩
        rw [readWith_points points, found]
        exact (Value.applied_eq_ok_iff _ _ _ _ _).mp applied

def transformKinds : List ErrorKind :=
  [.typeMismatch, .invalidTransform, .color]

theorem kind_of_calculate {value : Value} {operation : Operation} {operand : Float}
    {path : Option Path} {error : Error}
    (failed : value.calculate operation operand path = .error error) :
    error.kind ∈ transformKinds := by
  have computed : ∀ magnitude {fault}, operation.compute magnitude operand = .error fault →
      fault.kind ∈ transformKinds := by
    intro magnitude fault stopped
    cases operation with
    | divide =>
        rw [Operation.compute] at stopped
        split at stopped
        · obtain rfl := Except.error.inj stopped
          decide
        · exact nomatch stopped
    | _ => exact nomatch stopped
  unfold Value.calculate at failed
  split at failed
  · rename_i magnitude
    cases run : operation.compute magnitude operand with
    | ok result => simp [run, Except.map] at failed
    | error fault =>
        rw [run] at failed
        obtain rfl := Except.error.inj failed
        exact computed magnitude run
  · rename_i magnitude unit
    cases run : operation.compute magnitude operand with
    | ok result => simp [run, Except.map] at failed
    | error fault =>
        rw [run] at failed
        obtain rfl := Except.error.inj failed
        exact computed magnitude run
  · obtain rfl := Except.error.inj failed
    simp [transformKinds, Error.kind]

theorem kind_of_adjustColor {value : Value} {change : ColorChange} {factor : Float}
    {path : Option Path} {error : Error}
    (failed : value.adjustColor change factor path = .error error) :
    error.kind ∈ transformKinds := by
  unfold Value.adjustColor at failed
  split at failed
  · split at failed
    · split at failed
      · exact nomatch failed
      · obtain rfl := Except.error.inj failed
        simp [transformKinds, Error.kind]
    · obtain rfl := Except.error.inj failed
      simp [transformKinds, Error.kind]
  · obtain rfl := Except.error.inj failed
    simp [transformKinds, Error.kind]

theorem kind_of_applied {value : Value} {transform : Option Transform} {path : Option Path}
    {error : Error} (failed : value.applied transform path = .error error) :
    error.kind ∈ transformKinds := by
  cases transform with
  | none => exact nomatch failed
  | some transform =>
      cases transform with
      | math operation operand => exact kind_of_calculate failed
      | scale factor => exact kind_of_calculate failed
      | adjust change factor => exact kind_of_adjustColor failed

/-- A walk that fails with anything but a transform fails because of a reference that it
follows, and with the failure of the walk from there. -/
theorem plainFrom_fails_onwards {trail : List Path} {current : Path} {raw : Value} {error : Error}
    (fresh : current ∉ trail) (shown : store.visible? current theme = some raw)
    (failed : plainFrom store theme trail current = .error error)
    (led : error.kind ∉ transformKinds) :
    ∃ text transform target, (text, transform) ∈ raw.references ∧
      Points store theme text target ∧
      plainFrom store theme (current :: trail) target = .error error := by
  rw [plainFrom_shown fresh shown] at failed
  rcases replaceReferences_fails failed with ⟨_, text, transform, member, unread⟩
  rcases inline_or_points store theme text with literal | ⟨target, points⟩
  · rw [readWith_inline literal] at unread
    exact absurd (kind_of_applied unread) led
  · rw [readWith_points points] at unread
    cases found : plainFrom store theme (current :: trail) target with
    | ok operand =>
        rw [found] at unread
        exact absurd (kind_of_applied unread) led
    | error reason =>
        rw [found] at unread
        obtain rfl := Except.error.inj unread
        exact ⟨text, transform, target, member, points, found⟩

/-- A cycle is reported only where a walk really comes back to a path, and this path
stands at the end of the chain that is reported. -/
theorem cyclic_of_plainFrom {trail : List Path} {current : Path} {chain : List Path}
    (linked : Linked store theme trail current)
    (failed : plainFrom store theme trail current = .error (.circular chain)) :
    ∃ lead looped, chain = lead ++ [looped] ∧ looped ∈ lead ∧
      Reaches store theme current looped ∧ Cyclic store theme looped := by
  induction trail, current using plainFrom.induct store theme with
  | case1 trail current visited =>
      rw [plainFrom_visited visited] at failed
      obtain rfl := Error.circular.inj (Except.error.inj failed)
      exact ⟨trail.reverse, current, rfl, List.mem_reverse.mpr visited, ReflTransGen.refl,
        linked current visited⟩
  | case2 trail current fresh missing =>
      rw [plainFrom_missing fresh missing] at failed
      simp at failed
  | case3 trail current fresh raw shown ih =>
      have led : (Error.circular chain).kind ∉ transformKinds := by simp [transformKinds, Error.kind]
      rcases plainFrom_fails_onwards fresh shown failed led with
        ⟨text, transform, target, member, points, failed⟩
      have follows : Follows store theme current target :=
        ⟨raw, text, visible?_eq_some_iff.mp shown,
          Value.mem_targets_of_mem_references member, points⟩
      rcases ih target (linked.step follows) failed with
        ⟨lead, looped, ends, again, reaches, cyclic⟩
      exact ⟨lead, looped, ends, again, ReflTransGen.head follows reaches, cyclic⟩

end DesignTokens
