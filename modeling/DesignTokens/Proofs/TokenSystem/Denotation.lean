import DesignTokens.Proofs.Resolution.Bounded
import DesignTokens.Proofs.Resolution.Chain
import DesignTokens.Proofs.Resolution.Concrete
import DesignTokens.Proofs.Resolution.Cycles
import DesignTokens.Proofs.TokenSystem.Transparency

/-!
What resolution returns is what paths denote, as far as references may nest, and it holds
no reference.  It always ends, and finds a value unless something on the way is missing,
leads back to itself or cannot be transformed.
-/

namespace DesignTokens

/-- A value with no reference at any depth, and a text that owes nothing to the way in
which references are written. -/
structure Value.Settled (value : Value) : Prop where
  concrete : value.Concrete
  text : ∀ lead reference, value.css lead = value.cssWith reference

theorem Denotes.settled {store : Store} {theme : Theme} {path : Path} {value : Value}
    (denotes : Denotes store theme path value) : value.Settled :=
  ⟨denotes.concrete, denotes.concrete.css_eq⟩

/-- What resolution returns is concrete, over any memory that a run can leave behind, and
so is all that such a memory holds. -/
theorem resolved_settled {store : Store} {cache : Cache} (memory : MemoryOf store cache) :
    (∀ theme allowance path value,
      outcome store theme allowance cache path = .ok value → value.Settled) ∧
    ∀ theme path value, cache.find? (path, theme) = some value → value.Settled := by
  constructor
  · intro theme allowance path value found
    exact (denotes_of_outcome memory.sound found).settled
  · intro theme path value held
    exact (memory.sound path theme value held).settled

theorem resolved_settled_tower :
    ∃ cache, cache.find? (Tower.path 0, .light) = some (Tower.value 1) ∧
      outcome (Tower.store 1) .light .unlimited cache (Tower.path 0) = .ok (Tower.value 1) ∧
      (Tower.value 1).Settled := by
  have found := (outcome_eq_ok_iff (Cache.sound_empty (Tower.store 1))
    (fits_unlimited _)).mpr (Tower.denotes 1 0)
  have held := find?_after_resolve found
  have memory := MemoryOf.resolved (Tower.store 1) .light (Tower.read_label 0) .unlimited
  have again := (outcome_eq_ok_iff memory.sound (fits_unlimited _)).mpr (Tower.denotes 1 0)
  have settled := resolved_settled memory
  refine ⟨_, held, again, ?_⟩
  exact (settled.1 .light .unlimited (Tower.path 0) (Tower.value 1) again)

/-- No walk enters a path twice or leaves the paths that the theme shows, so these bound
how far it goes.  Only real cycles are reported, never a path that is reached twice. -/
theorem resolution_cycle_safe {store : Store} {cache : Cache} (memory : MemoryOf store cache)
    (theme : Theme) (path : Path) :
    (∀ allowance, Guarded.Completes (resolve store theme allowance path)
      (resolveWithin store theme (store.visiblePaths theme) allowance [] path)) ∧
    ((∃ value, outcome store theme .unlimited cache path = .ok value) ↔
      ∀ reached, Reaches store theme path reached →
        (∃ raw, Shows store theme reached raw) ∧ ¬ Cyclic store theme reached ∧
          Transformable store theme reached) ∧
    ∀ allowance chain, outcome store theme allowance cache path = .error (.circular chain) →
      ∃ lead looped, chain = lead ++ [looped] ∧ looped ∈ lead ∧
        Reaches store theme path looped ∧ Cyclic store theme looped := by
  have sound := memory.sound
  have start : Linked store theme [] path := by
    intro visited member
    simp at member
  refine ⟨fun allowance => resolve_completes store theme allowance path, ⟨?_, ?_⟩, ?_⟩
  · rintro ⟨value, found⟩ reached reaches
    have denotes := denotes_of_outcome sound found
    rcases denotes.reaches reaches with ⟨operand, middle⟩
    refine ⟨?_, middle.not_cyclic, middle.transformable⟩
    cases middle with
    | shown shows _ => exact ⟨_, shows⟩
  · intro clear
    rw [outcome_eq_plain sound (fits_unlimited path)]
    exact plainFrom_succeeds start clear
  · intro allowance chain failed
    rcases outcome_eq_plain_or_tooDeep sound allowance path with same | deep
    · exact cyclic_of_plainFrom start (same.symm.trans failed)
    · rw [failed] at deep
      simp at deep

def diamond : Store :=
  Store.empty.setAll
    [(Tower.path 0, .array [.alias (Tower.label 1), .alias (Tower.label 2)]),
      (Tower.path 1, .alias (Tower.label 3)), (Tower.path 2, .alias (Tower.label 3)),
      (Tower.path 3, .null)] .light

theorem resolution_cycle_safe_diamond :
    outcome diamond .light .unlimited Table.empty (Tower.path 0) = .ok (.array [.null, .null]) ∧
      ∀ reached, Reaches diamond .light (Tower.path 0) reached →
        ¬ Cyclic diamond .light reached := by
  have top : Shows diamond .light (Tower.path 0)
    (.array [.alias (Tower.label 1), .alias (Tower.label 2)]) := Shows.own rfl
  have left : Shows diamond .light (Tower.path 1) (.alias (Tower.label 3)) := Shows.own rfl
  have right : Shows diamond .light (Tower.path 2) (.alias (Tower.label 3)) := Shows.own rfl
  have base : Shows diamond .light (Tower.path 3) .null := Shows.own rfl
  have bottom : Reads diamond .light (Tower.label 3) .null :=
    Reads.followed (Tower.points_of_shows base) (Denotes.shown base (Means.scalar rfl))
  have first : Reads diamond .light (Tower.label 1) .null :=
    Reads.followed (Tower.points_of_shows left) (Denotes.shown left (Means.alias bottom))
  have second : Reads diamond .light (Tower.label 2) .null :=
    Reads.followed (Tower.points_of_shows right) (Denotes.shown right (Means.alias bottom))
  have denotes : Denotes diamond .light (Tower.path 0) (.array [.null, .null]) :=
    Denotes.shown top (Means.array (MeansEach.cons (Means.alias first)
      (MeansEach.cons (Means.alias second) MeansEach.nil)))
  have found := (outcome_eq_ok_iff (Cache.sound_empty diamond) (fits_unlimited _)).mpr denotes
  have safe := resolution_cycle_safe (MemoryOf.empty diamond) .light (Tower.path 0)
  exact ⟨found, fun reached reaches => (safe.2.1.mp ⟨_, found⟩ reached reaches).2.1⟩

end DesignTokens
