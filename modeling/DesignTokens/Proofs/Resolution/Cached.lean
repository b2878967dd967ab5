import DesignTokens.Proofs.Computation
import DesignTokens.Proofs.Resolution.Meaning
import DesignTokens.Proofs.Resolution.Plain
import DesignTokens.Proofs.Table

/-!
Resolution with a memory.  As long as what is remembered is what paths denote, a
walk finds what a walk without a memory finds, and remembers nothing else.  So the memory
has no part in what resolving a path returns, unless nesting is limited.
-/

namespace DesignTokens

open Relation

/-- Every remembered value is what its path denotes. -/
def Cache.Sound (cache : Cache) (store : Store) : Prop :=
  ∀ path theme value, cache.find? (path, theme) = some value → Denotes store theme path value

theorem Cache.sound_empty (store : Store) : Cache.Sound Table.empty store := by
  intro path theme value found
  simp at found

theorem Cache.Sound.insert {cache : Cache} {store : Store} {theme : Theme} {path : Path}
    {value : Value} (sound : cache.Sound store) (denotes : Denotes store theme path value) :
    Cache.Sound (cache.insert (path, theme) value) store := by
  intro other otherTheme held found
  rw [Table.find?_insert] at found
  split at found
  · rename_i same
    obtain ⟨rfl, rfl⟩ := Prod.mk.inj same
    obtain rfl := Option.some.inj found
    exact denotes
  · exact sound other otherTheme held found

/-- Over one memory, a walk finds what a computation without a memory finds.  Where
stack frames are limited it may fail for that instead. -/
def AgreesOn (store : Store) (limited : Prop) (root : Path) {α : Type} (cache : Cache)
    (walk : Walk α) (plain : Except Error α) : Prop :=
  Cache.Sound (walk.run cache).2 store ∧
    ((walk.run cache).1 = plain ∨ limited ∧ (walk.run cache).1 = .error (.tooDeep root))

def Agrees (store : Store) (limited : Prop) (root : Path) {α : Type} (walk : Walk α)
    (plain : Except Error α) : Prop :=
  ∀ cache : Cache, cache.Sound store → AgreesOn store limited root cache walk plain

namespace Agrees

variable {store : Store} {limited : Prop} {root : Path}

theorem ofExcept {α : Type} (result : Except Error α) :
    Agrees store limited root (Walk.ofExcept result) result :=
  fun _ sound => ⟨sound, Or.inl rfl⟩

theorem bind {α β : Type} {first : Walk α} {plain : Except Error α} {next : α → Walk β}
    {after : α → Except Error β} (agrees : Agrees store limited root first plain)
    (continues : ∀ value, Agrees store limited root (next value) (after value)) :
    Agrees store limited root (first >>= next) (plain >>= after) := by
  intro cache sound
  rcases agrees cache sound with ⟨kept, outcome⟩
  rcases run : first.run cache with ⟨result, middle⟩
  rw [run] at kept outcome
  cases result with
  | error error =>
      rw [AgreesOn, run_bind_error run]
      refine ⟨kept, ?_⟩
      rcases outcome with rfl | ⟨deep, same⟩
      · exact Or.inl rfl
      · obtain rfl := Except.error.inj same
        exact Or.inr ⟨deep, rfl⟩
  | ok value =>
      rw [AgreesOn, run_bind_ok run]
      rcases outcome with rfl | ⟨_, impossible⟩
      · exact continues value middle kept
      · simp at impossible

theorem mono {α : Type} {walk : Walk α} {plain : Except Error α} {wider : Prop}
    (agrees : Agrees store limited root walk plain) (weaker : limited → wider) :
    Agrees store wider root walk plain := by
  intro cache sound
  rcases agrees cache sound with ⟨kept, outcome⟩
  exact ⟨kept, outcome.imp_right fun deep => ⟨weaker deep.1, deep.2⟩⟩

end Agrees

def agreement (store : Store) (limited : Prop) (root : Path) :
    MonadRelation Walk (Except Error) where
  relates := Agrees store limited root
  pure value := Agrees.ofExcept (.ok value)
  bind := Agrees.bind

variable {store : Store} {theme : Theme}

def readThrough (store : Store) (theme : Theme) (allowance : Option Allowance) (trail : List Path)
    (current : Path) (valueOf : Allowance → Path → Walk Value) (text : String)
    (transform : Option Transform) : Walk Value := do
  match allowance with
  | none => throw (.tooDeep ((current :: trail).getLast (List.cons_ne_nil _ _)))
  | some allowance =>
      match store.target? theme text with
      | none => finish (Value.ofLiteral text) transform current
      | some target => finish (← valueOf allowance target) transform current

theorem resolveFrom_remembered {allowance : Allowance} {trail : List Path} {current : Path}
    {cache : Cache} {value : Value} (hit : cache.find? (current, theme) = some value) :
    (resolveFrom store theme allowance trail current).run cache = (.ok value, cache) := by
  rw [resolveFrom, run_get_bind, hit]
  rfl

theorem resolveFrom_visited {allowance : Allowance} {trail : List Path} {current : Path}
    {cache : Cache} (miss : cache.find? (current, theme) = none) (visited : current ∈ trail) :
    (resolveFrom store theme allowance trail current).run cache =
      (.error (.circular (trail.reverse ++ [current])), cache) := by
  rw [resolveFrom, run_get_bind, miss]
  simp only [visited]
  rfl

theorem resolveFrom_missing {allowance : Allowance} {trail : List Path} {current : Path}
    {cache : Cache} (miss : cache.find? (current, theme) = none) (fresh : current ∉ trail)
    (missing : store.visible? current theme = none) :
    (resolveFrom store theme allowance trail current).run cache =
      (.error (.notFound current (absenceAfter trail)), cache) := by
  rw [resolveFrom, run_get_bind, miss]
  simp only [fresh, dif_neg, not_false_eq_true]
  split
  · rfl
  · rename_i raw found
    simp [missing] at found

theorem resolveFrom_shown {allowance : Allowance} {trail : List Path} {current : Path}
    {cache : Cache} {raw : Value} (miss : cache.find? (current, theme) = none)
    (fresh : current ∉ trail) (shown : store.visible? current theme = some raw) :
    (resolveFrom store theme allowance trail current).run cache =
      (do
        let value ← raw.replaceReferences (fun depth =>
          readThrough store theme (allowance.within? depth) trail current
            fun inner target => resolveFrom store theme inner (current :: trail) target) 0
        modify (·.insert (current, theme) value)
        return value : Walk Value).run cache := by
  rw [resolveFrom, run_get_bind, miss]
  simp only [fresh, dif_neg, not_false_eq_true]
  split
  · rename_i missing
    simp [missing] at shown
  · rename_i held found
    obtain rfl := Option.some.inj (found.symm.trans shown)
    rfl

theorem finish_agrees {limited : Prop} {root : Path} (value : Value)
    (transform : Option Transform) (path : Path) :
    Agrees store limited root (finish value transform path)
      (value.applied transform (some path)) := by
  cases transform with
  | none => exact Agrees.ofExcept (.ok value)
  | some transform => exact Agrees.ofExcept _

theorem readThrough_agrees {limited : Prop} {allowance : Option Allowance} {trail : List Path}
    {current root : Path} {valueOf : Allowance → Path → Walk Value}
    {plainOf : Path → Except Error Value} {text : String} {transform : Option Transform}
    (refused : allowance = none →
      limited ∧ root = (current :: trail).getLast (List.cons_ne_nil _ _))
    (walks : ∀ inner target, allowance = some inner → Points store theme text target →
      Agrees store limited root (valueOf inner target) (plainOf target)) :
    Agrees store limited root
      (readThrough store theme allowance trail current valueOf text transform)
      (readWith store theme current plainOf text transform) := by
  unfold readThrough readWith
  cases allowance with
  | none =>
      rcases refused rfl with ⟨deep, rfl⟩
      exact fun _ sound => ⟨sound, Or.inr ⟨deep, rfl⟩⟩
  | some inner =>
      cases found : store.target? theme text with
      | none => exact finish_agrees _ _ _
      | some target =>
          exact (walks inner target rfl (target?_eq_some_iff.mp found)).bind fun value =>
            finish_agrees value transform current

theorem agrees_of_miss {limited : Prop} {root : Path} {allowance : Allowance} {trail : List Path}
    {current : Path} (linked : Linked store theme trail current)
    (missed : ∀ cache : Cache, cache.Sound store → cache.find? (current, theme) = none →
      AgreesOn store limited root cache (resolveFrom store theme allowance trail current)
        (plainFrom store theme trail current)) :
    Agrees store limited root (resolveFrom store theme allowance trail current)
      (plainFrom store theme trail current) := by
  intro cache sound
  cases hit : cache.find? (current, theme) with
  | some value =>
      rw [AgreesOn, resolveFrom_remembered hit]
      exact ⟨sound, Or.inl (plainFrom_of_linked (sound current theme value hit) linked).symm⟩
  | none => exact missed cache sound hit

theorem agreesOn_of_shown {limited : Prop} {root : Path} {allowance : Allowance}
    {trail : List Path} {current : Path} {raw : Value} {cache : Cache} (sound : cache.Sound store)
    (miss : cache.find? (current, theme) = none) (fresh : current ∉ trail)
    (shown : store.visible? current theme = some raw)
    (members : Agrees store limited root
      (raw.replaceReferences (fun depth =>
        readThrough store theme (allowance.within? depth) trail current
          fun inner target => resolveFrom store theme inner (current :: trail) target) 0)
      (raw.replaceReferences (fun _ =>
        readWith store theme current (plainFrom store theme (current :: trail))) 0)) :
    AgreesOn store limited root cache (resolveFrom store theme allowance trail current)
      (plainFrom store theme trail current) := by
  have plain := @plainFrom_shown store theme trail current raw fresh shown
  rcases members cache sound with ⟨kept, outcome⟩
  rw [AgreesOn, resolveFrom_shown miss fresh shown]
  rw [← plain] at outcome
  rcases run : (raw.replaceReferences (fun depth =>
    readThrough store theme (allowance.within? depth) trail current
      fun inner target => resolveFrom store theme inner (current :: trail) target) 0).run cache
    with ⟨result, middle⟩
  rw [run] at kept outcome
  cases result with
  | error error =>
      rw [run_bind_error run]
      exact ⟨kept, outcome⟩
  | ok value =>
      rw [run_bind_ok run]
      rcases outcome with found | ⟨_, impossible⟩
      · exact ⟨kept.insert (denotes_of_plainFrom found.symm), Or.inl found⟩
      · simp at impossible

/-- A walk over a sound memory finds what a walk without one finds, unless references
nest too deep. -/
theorem resolveFrom_agrees {trail : List Path} {current : Path} (allowance : Allowance)
    (linked : Linked store theme trail current) :
    Agrees store (¬ Fits store theme current allowance)
      ((current :: trail).getLast (List.cons_ne_nil _ _))
      (resolveFrom store theme allowance trail current)
      (plainFrom store theme trail current) := by
  -- The induction follows the walk without a memory, which visits at least as much.
  induction trail, current using plainFrom.induct store theme generalizing allowance with
  | case1 trail current visited =>
      refine agrees_of_miss linked fun cache sound miss => ?_
      rw [AgreesOn, resolveFrom_visited miss visited, plainFrom_visited visited]
      exact ⟨sound, Or.inl rfl⟩
  | case2 trail current fresh missing =>
      refine agrees_of_miss linked fun cache sound miss => ?_
      rw [AgreesOn, resolveFrom_missing miss fresh missing, plainFrom_missing fresh missing]
      exact ⟨sound, Or.inl rfl⟩
  | case3 trail current fresh raw shown ih =>
      refine agrees_of_miss linked fun cache sound miss => ?_
      refine agreesOn_of_shown sound miss fresh shown ?_
      refine Value.replaceReferences_relates (agreement store _ _) 0 raw ?_
      intro depth text transform holds
      rw [Nat.zero_add]
      have shows := visible?_eq_some_iff.mp shown
      have mentions := Value.mem_targets_of_mem_references holds.mem_references
      refine readThrough_agrees ?_ ?_
      · intro refused
        refine ⟨?_, rfl⟩
        intro fits
        rcases fits.within shows holds with ⟨inner, enough, _⟩
        simp [refused] at enough
      · intro inner target within points
        have follows : Follows store theme current target := ⟨raw, text, shows, mentions, points⟩
        have walked := ih target inner (linked.step follows)
        rw [List.getLast_cons (List.cons_ne_nil _ _)] at walked
        refine walked.mono ?_
        intro deep fits
        rcases fits.within shows holds with ⟨other, enough, fitting⟩
        obtain rfl := Option.some.inj (within.symm.trans enough)
        exact deep (fitting target points)

def outcome (store : Store) (theme : Theme) (allowance : Allowance) (cache : Cache)
    (path : Path) : Except Error Value :=
  ((resolve store theme allowance path).run cache).1

variable {cache : Cache}

theorem resolve_agrees (allowance : Allowance) (path : Path) :
    Agrees store (¬ Fits store theme path allowance) path (resolve store theme allowance path)
      (plainFrom store theme [] path) := by
  have start : Linked store theme [] path := by
    intro visited member
    simp at member
  exact resolveFrom_agrees allowance start

theorem Cache.Sound.resolve {allowance : Allowance} (sound : cache.Sound store) (path : Path) :
    Cache.Sound ((DesignTokens.resolve store theme allowance path).run cache).2 store :=
  (resolve_agrees allowance path cache sound).1

theorem outcome_eq_plain {allowance : Allowance} {path : Path} (sound : cache.Sound store)
    (fits : Fits store theme path allowance) :
    outcome store theme allowance cache path = plainFrom store theme [] path := by
  rcases (resolve_agrees allowance path cache sound).2 with same | ⟨deep, _⟩
  · exact same
  · exact absurd fits deep

/-- Too few stack frames turn no outcome into another, except into an error of their own. -/
theorem outcome_eq_plain_or_tooDeep (sound : cache.Sound store) (allowance : Allowance)
    (path : Path) :
    outcome store theme allowance cache path = plainFrom store theme [] path ∨
      outcome store theme allowance cache path = .error (.tooDeep path) := by
  rcases (resolve_agrees allowance path cache sound).2 with same | ⟨_, deep⟩
  · exact Or.inl same
  · exact Or.inr deep

theorem plain_of_outcome_error {allowance : Allowance} {path : Path} {error : Error}
    (sound : cache.Sound store) (failed : outcome store theme allowance cache path = .error error)
    (shallow : error ≠ .tooDeep path) : plainFrom store theme [] path = .error error := by
  rcases outcome_eq_plain_or_tooDeep sound allowance path with same | deep
  · exact same.symm.trans failed
  · exact absurd (Except.error.inj (failed.symm.trans deep)) shallow

theorem outcome_eq_ok_iff {allowance : Allowance} {path : Path} {value : Value}
    (sound : cache.Sound store) (fits : Fits store theme path allowance) :
    outcome store theme allowance cache path = .ok value ↔ Denotes store theme path value := by
  rw [outcome_eq_plain sound fits, plainFrom_nil_eq_ok_iff]

theorem denotes_of_outcome {allowance : Allowance} {path : Path} {value : Value}
    (sound : cache.Sound store) (found : outcome store theme allowance cache path = .ok value) :
    Denotes store theme path value := by
  rcases outcome_eq_plain_or_tooDeep sound allowance path with same | deep
  · rw [← plainFrom_nil_eq_ok_iff, ← same, found]
  · rw [found] at deep
    simp at deep

theorem find?_after_resolve {allowance : Allowance} {path : Path} {value : Value}
    (found : outcome store theme allowance cache path = .ok value) :
    ((resolve store theme allowance path).run cache).2.find? (path, theme) = some value := by
  rw [outcome, resolve] at found
  rw [resolve]
  cases hit : cache.find? (path, theme) with
  | some held =>
      rw [resolveFrom_remembered hit] at found ⊢
      obtain rfl := Except.ok.inj found
      exact hit
  | none =>
      cases shown : store.visible? path theme with
      | none =>
          rw [resolveFrom_missing hit List.not_mem_nil shown] at found
          simp at found
      | some raw =>
          rw [resolveFrom_shown hit List.not_mem_nil shown] at found ⊢
          rcases run : (raw.replaceReferences (fun depth =>
            readThrough store theme (allowance.within? depth) [] path
              fun inner target => resolveFrom store theme inner [path] target) 0).run cache
            with ⟨result, middle⟩
          cases result with
          | error error =>
              rw [run_bind_error run] at found
              simp at found
          | ok held =>
              rw [run_bind_ok run] at found ⊢
              obtain rfl := Except.ok.inj found
              exact (Table.find?_insert middle _ _ held).trans (if_pos rfl)

end DesignTokens
