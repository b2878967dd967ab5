import DesignTokens.Proofs.Resolution.Cycles
import DesignTokens.Proofs.Resolution.Cached
import DesignTokens.Proofs.Value.Proper
import DesignTokens.Resolution.Query

/-!
What resolving can fail with.  Over a store whose colours have bytes for channels no
arithmetic fails, so every failure is about tokens.
-/

namespace DesignTokens

variable {store : Store} {theme : Theme}

theorem Store.Proper.shows (proper : store.Proper) {path : Path} {raw : Value}
    (shows : Shows store theme path raw) : raw.Proper := by
  cases shows with
  | own found => exact proper path theme raw found
  | light _ found => exact proper path .light raw found

mutual

theorem Denotes.proper (proper : store.Proper) {path : Path} {value : Value} :
    Denotes store theme path value → value.Proper
  | .shown shows means => means.proper proper (proper.shows shows)

theorem Means.proper (proper : store.Proper) {raw value : Value} :
    Means store theme raw value → raw.Proper → value.Proper
  | .scalar _ => id
  | .array each => fun whole => Value.proper_array <|
      each.proper proper fun _ member color within => whole color (Within.item member within)
  | .object each => fun whole => Value.proper_object <|
      each.proper proper fun _ _ member color within =>
        whole color (Within.entry member within)
  | .alias reads => fun _ => reads.proper proper
  | .reference reads applied => fun _ => (reads.proper proper).applied applied

theorem MeansEach.proper (proper : store.Proper) {items results : List Value} :
    MeansEach store theme items results → (∀ item ∈ items, item.Proper) →
      ∀ result ∈ results, result.Proper
  | .nil => by simp
  | .cons first rest => by
      intro whole result member
      rcases List.mem_cons.mp member with same | later
      · rw [same]
        exact first.proper proper (whole _ List.mem_cons_self)
      · exact rest.proper proper (fun item known => whole item (List.mem_cons_of_mem _ known))
          result later

theorem MeansEntries.proper (proper : store.Proper) {entries results : List (String × Value)} :
    MeansEntries store theme entries results →
      (∀ key value, (key, value) ∈ entries → value.Proper) →
        ∀ key result, (key, result) ∈ results → result.Proper
  | .nil => by simp
  | .cons first rest => by
      intro whole key result member
      rcases List.mem_cons.mp member with same | later
      · rw [(Prod.mk.inj same).2]
        exact first.proper proper (whole _ _ List.mem_cons_self)
      · exact rest.proper proper
          (fun other value known => whole other value (List.mem_cons_of_mem _ known)) key result
          later

theorem Reads.proper (proper : store.Proper) {text : String} {value : Value} :
    Reads store theme text value → value.Proper
  | .literal _ read => by
      rw [← read]
      exact Value.proper_ofLiteral text
  | .followed _ denotes => denotes.proper proper

end

def resolutionKinds : List ErrorKind :=
  [.tokenNotFound, .circularReference, .typeMismatch, .invalidTransform]

theorem Value.Proper.kind_of_applied {operand : Value} (proper : operand.Proper)
    {transform : Option Transform} {path : Option Path} {error : Error}
    (failed : operand.applied transform path = .error error) : error.kind ∈ resolutionKinds := by
  rcases proper.applied_error failed with same | same <;> simp [resolutionKinds, same]

theorem kind_of_plainFrom (proper : store.Proper) {trail : List Path} {current : Path}
    {error : Error} (failed : plainFrom store theme trail current = .error error) :
    error.kind ∈ resolutionKinds := by
  induction trail, current using plainFrom.induct store theme generalizing error with
  | case1 trail current visited =>
      rw [plainFrom_visited visited] at failed
      obtain rfl := Except.error.inj failed
      simp [resolutionKinds, Error.kind]
  | case2 trail current fresh missing =>
      rw [plainFrom_missing fresh missing] at failed
      obtain rfl := Except.error.inj failed
      simp [resolutionKinds, Error.kind]
  | case3 trail current fresh raw shown ih =>
      rw [plainFrom_shown fresh shown] at failed
      rcases replaceReferences_fails failed with ⟨_, text, transform, member, failed⟩
      rcases inline_or_points store theme text with literal | ⟨target, points⟩
      · rw [readWith_inline literal] at failed
        exact (Value.proper_ofLiteral text).kind_of_applied failed
      · rw [readWith_points points] at failed
        cases found : plainFrom store theme (current :: trail) target with
        | ok operand =>
            rw [found] at failed
            exact ((denotes_of_plainFrom found).proper proper).kind_of_applied failed
        | error reason =>
            rw [found] at failed
            obtain rfl := Except.error.inj failed
            exact ih target found

def Contained (store : Store) (theme : Theme) (allowance : Allowance) (path : Path) : Prop :=
  ∀ cache : Cache, cache.Sound store → ∀ error,
    outcome store theme allowance cache path = .error error → error.kind.isTokenError = true

theorem Store.Proper.contained (proper : store.Proper) (theme : Theme) (allowance : Allowance)
    (path : Path) : Contained store theme allowance path := by
  intro cache sound error failed
  have contained : ∀ kind ∈ resolutionKinds, kind.isTokenError = true := by decide
  rcases outcome_eq_plain_or_tooDeep sound allowance path with same | deep
  · rw [same] at failed
    exact contained _ (kind_of_plainFrom proper failed)
  · rw [deep] at failed
    obtain rfl := Except.error.inj failed
    rfl

theorem Denotes.contained {path : Path} {value : Value} (denotes : Denotes store theme path value)
    (allowance : Allowance) : Contained store theme allowance path := by
  intro cache sound error failed
  rcases outcome_eq_plain_or_tooDeep sound allowance path with same | deep
  · rw [same, plainFrom_nil_eq_ok_iff.mpr denotes] at failed
    exact nomatch failed
  · rw [deep] at failed
    obtain rfl := Except.error.inj failed
    rfl

theorem resolve?_eq_outcome {cache after : Cache} {allowance : Allowance} {path : Path}
    {resolved : Option Value}
    (run : (resolve? store theme allowance path).run cache = (.ok resolved, after)) :
    resolved = (outcome store theme allowance cache path).toOption := by
  rw [resolve?, ← bind_pure_comp, run_tryCatch] at run
  rw [outcome]
  rcases start : (resolve store theme allowance path).run cache with ⟨result, middle⟩
  cases result with
  | ok value =>
      rw [run_bind_ok start] at run
      exact (Except.ok.inj (congrArg Prod.fst run)).symm
  | error error =>
      rw [run_bind_error start] at run
      by_cases about : error.kind.isTokenError = true
      · simp only [about, if_true] at run
        exact (Except.ok.inj (congrArg Prod.fst run)).symm
      · simp only [about] at run
        have clash : Except.error error = Except.ok resolved := congrArg Prod.fst run
        simp at clash

/-- Asking for a value that may be missing does not fail where failures are about tokens. -/
theorem run_resolve? {cache : Cache} (sound : cache.Sound store) {allowance : Allowance}
    {path : Path} (contained : Contained store theme allowance path) :
    (resolve? store theme allowance path).run cache =
      (.ok (outcome store theme allowance cache path).toOption,
        ((resolve store theme allowance path).run cache).2) := by
  have tokenError := contained cache sound
  rw [outcome] at tokenError ⊢
  rw [resolve?, ← bind_pure_comp, run_tryCatch]
  rcases run : (resolve store theme allowance path).run cache with ⟨result, after⟩
  rw [run] at tokenError
  cases result with
  | ok value =>
      rw [run_bind_ok run]
      rfl
  | error error =>
      rw [run_bind_error run]
      simp only [tokenError error rfl, if_true]
      rfl

end DesignTokens
