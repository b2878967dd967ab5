import DesignTokens.Proofs.Resolution.Cached

/-!
What a walk learns, and that it learns no less than it needs: a memory that knows more
never makes a walk fail that succeeds without it.
-/

namespace DesignTokens

open Relation

def Cache.Knows (cache : Cache) (theme : Theme) (path : Path) : Prop :=
  ∃ value, cache.find? (path, theme) = some value

def Remembers (store : Store) (theme : Theme) (root : Path) (before after : Cache) : Prop :=
  ∃ path value, Reaches store theme root path ∧
    (∀ next, Follows store theme path next → before.Knows theme next) ∧
    after = before.insert (path, theme) value

/-- Whatever is known, all that it refers to is known as well. -/
def Cache.Closed (cache : Cache) (store : Store) : Prop :=
  ∀ theme path next, cache.Knows theme path → Follows store theme path next →
    cache.Knows theme next

variable {store : Store} {theme : Theme}

theorem knows_insert_iff (cache : Cache) (theme owner : Theme) (path other : Path) (value : Value) :
    Cache.Knows (cache.insert (path, owner) value) theme other ↔
      (path = other ∧ owner = theme) ∨ cache.Knows theme other := by
  unfold Cache.Knows
  rw [Table.find?_insert]
  by_cases same : (path, owner) = (other, theme)
  · obtain ⟨rfl, rfl⟩ := Prod.mk.inj same
    simp
  · have apart : ¬ (path = other ∧ owner = theme) := by
      rintro ⟨rfl, rfl⟩
      exact same rfl
    simp [same, apart]

section Remembering

variable {root : Path} {before after : Cache}

theorem knows_of_remembers (steps : ReflTransGen (Remembers store theme root) before after)
    {owner : Theme} {path : Path} (known : before.Knows owner path) : after.Knows owner path := by
  induction steps with
  | refl => exact known
  | tail _ step ih =>
      rcases step with ⟨other, value, _, _, rfl⟩
      exact (knows_insert_iff _ _ _ _ _ _).mpr (Or.inr ih)

theorem reaches_of_remembers (steps : ReflTransGen (Remembers store theme root) before after)
    {owner : Theme} {path : Path} (known : after.Knows owner path) :
    before.Knows owner path ∨ owner = theme ∧ Reaches store theme root path := by
  induction steps with
  | refl => exact Or.inl known
  | tail _ step ih =>
      rcases step with ⟨other, value, reaches, _, rfl⟩
      rcases (knows_insert_iff _ _ _ _ _ _).mp known with ⟨rfl, rfl⟩ | earlier
      · exact Or.inr ⟨rfl, reaches⟩
      · exact ih earlier

theorem Cache.Closed.remembers (closed : before.Closed store)
    (steps : ReflTransGen (Remembers store theme root) before after) : after.Closed store := by
  induction steps with
  | refl => exact closed
  | tail _ step ih =>
      rcases step with ⟨other, value, _, ready, rfl⟩
      intro owner path next known follows
      rw [knows_insert_iff]
      rcases (knows_insert_iff _ _ _ _ _ _).mp known with ⟨rfl, rfl⟩ | earlier
      · exact Or.inr (ready next follows)
      · exact Or.inr (ih owner path next earlier follows)

end Remembering

theorem Cache.Closed.reaches {cache : Cache} (closed : cache.Closed store) {path last : Path}
    (known : cache.Knows theme path) (reaches : Reaches store theme path last) :
    cache.Knows theme last := by
  induction reaches with
  | refl => exact known
  | tail _ follows ih => exact closed theme _ _ ih follows

def stepping (step : Cache → Cache → Prop) : MonadRelation Walk Walk where
  relates first _ := Steps step first
  pure := Steps.pure
  bind moved continues := Steps.bind moved continues

namespace Value

variable {step : Cache → Cache → Prop} {replace : Nat → String → Option Transform → Walk Value}
  {depth : Nat}

def Replaced (step : Cache → Cache → Prop)
    (replace : Nat → String → Option Transform → Walk Value) (before after : Cache)
    (reference : String × Option Transform) : Prop :=
  ∃ depth start value finish,
    (replace depth reference.1 reference.2).run start = (.ok value, finish) ∧
      ReflTransGen step before start ∧ ReflTransGen step finish after

theorem Replaced.widen {step : Cache → Cache → Prop}
    {replace : Nat → String → Option Transform → Walk Value} {before start finish after : Cache}
    {reference : String × Option Transform}
    (replaced : Replaced step replace start finish reference)
    (earlier : ReflTransGen step before start) (later : ReflTransGen step finish after) :
    Replaced step replace before after reference := by
  rcases replaced with ⟨depth, middle, value, last, run, up, down⟩
  exact ⟨depth, middle, value, last, run, earlier.trans up, down.trans later⟩

theorem replaceReferences_steps {raw : Value}
    (moves : ∀ depth text transform, (text, transform) ∈ raw.references →
      Steps step (replace depth text transform)) :
    Steps step (raw.replaceReferences replace depth) :=
  have paired : (stepping step).relates (raw.replaceReferences replace depth)
      (raw.replaceReferences replace depth) :=
    replaceReferences_relates (stepping step) depth raw fun _ text transform holds =>
      moves _ text transform holds.mem_references
  paired

theorem replaceInItems_steps {items : List Value}
    (moves : ∀ depth text transform, (text, transform) ∈ referencesOfItems items →
      Steps step (replace depth text transform)) :
    Steps step (replaceInItems replace depth items) :=
  have paired : (stepping step).relates (replaceInItems replace depth items)
      (replaceInItems replace depth items) :=
    replaceInItems_relates (stepping step) depth items fun _ listed _ text transform holds =>
      moves _ text transform (mem_referencesOfItems_iff.mpr ⟨_, listed, holds.mem_references⟩)
  paired

theorem replaceInEntries_steps {entries : List (String × Value)}
    (moves : ∀ depth text transform, (text, transform) ∈ referencesOfEntries entries →
      Steps step (replace depth text transform)) :
    Steps step (replaceInEntries replace depth entries) :=
  have paired : (stepping step).relates (replaceInEntries replace depth entries)
      (replaceInEntries replace depth entries) :=
    replaceInEntries_relates (stepping step) depth entries
      fun _ _ listed _ text transform holds =>
        moves _ text transform
          (mem_referencesOfEntries_iff.mpr ⟨_, _, listed, holds.mem_references⟩)
  paired

mutual

theorem replaced_of_run {depth : Nat} : ∀ (raw result : Value) (before after : Cache),
    (∀ depth text transform, (text, transform) ∈ raw.references →
      Steps step (replace depth text transform)) →
      (raw.replaceReferences replace depth).run before = (.ok result, after) →
        ∀ reference ∈ raw.references, Replaced step replace before after reference
  | .string _ | .number _ | .boolean _ | .null | .color _ | .dimension .. | .typography _
  | .shadow _ => by simp [references]
  | .alias target => by
      intro result before after _ run reference member
      rw [references, List.mem_singleton] at member
      rw [member]
      exact ⟨depth, before, result, after, run, .refl, .refl⟩
  | .reference target transform => by
      intro result before after _ run reference member
      rw [references, List.mem_singleton] at member
      rw [member]
      exact ⟨depth, before, result, after, run, .refl, .refl⟩
  | .array items => by
      intro result before after moves run
      rw [replaceReferences] at run
      rcases run_bind_eq_ok run with ⟨results, middle, walked, finished⟩
      obtain rfl : middle = after := congrArg Prod.snd finished
      rw [references] at moves ⊢
      exact replacedItems_of_run items results before middle moves walked
  | .object entries => by
      intro result before after moves run
      rw [replaceReferences] at run
      rcases run_bind_eq_ok run with ⟨results, middle, walked, finished⟩
      obtain rfl : middle = after := congrArg Prod.snd finished
      rw [references] at moves ⊢
      exact replacedEntries_of_run entries results before middle moves walked

theorem replacedItems_of_run {depth : Nat} : ∀ (items results : List Value) (before after : Cache),
    (∀ depth text transform, (text, transform) ∈ referencesOfItems items →
      Steps step (replace depth text transform)) →
      (replaceInItems replace depth items).run before = (.ok results, after) →
        ∀ reference ∈ referencesOfItems items, Replaced step replace before after reference
  | [] => by simp [referencesOfItems]
  | item :: items => by
      intro results before after moves run reference member
      rw [replaceInItems] at run
      rcases run_bind_eq_ok run with ⟨first, middle, walked, more⟩
      rcases run_bind_eq_ok more with ⟨rest, last, walkedRest, finished⟩
      obtain rfl : last = after := congrArg Prod.snd finished
      simp only [referencesOfItems, List.mem_append] at moves member
      have here := fun depth text transform known => moves depth text transform (Or.inl known)
      have later := fun depth text transform known => moves depth text transform (Or.inr known)
      have up := (replaceReferences_steps here).of_run walked
      have down := (replaceInItems_steps later).of_run walkedRest
      rcases member with mine | other
      · exact (replaced_of_run item first before middle here walked reference mine).widen .refl down
      · exact (replacedItems_of_run items rest middle last later walkedRest reference other).widen
          up .refl

theorem replacedEntries_of_run {depth : Nat} :
    ∀ (entries results : List (String × Value)) (before after : Cache),
    (∀ depth text transform, (text, transform) ∈ referencesOfEntries entries →
      Steps step (replace depth text transform)) →
      (replaceInEntries replace depth entries).run before = (.ok results, after) →
        ∀ reference ∈ referencesOfEntries entries, Replaced step replace before after reference
  | [] => by simp [referencesOfEntries]
  | (key, value) :: entries => by
      intro results before after moves run reference member
      rw [replaceInEntries] at run
      rcases run_bind_eq_ok run with ⟨first, middle, walked, more⟩
      rcases run_bind_eq_ok more with ⟨rest, last, walkedRest, finished⟩
      obtain rfl : last = after := congrArg Prod.snd finished
      simp only [referencesOfEntries, List.mem_append] at moves member
      have here := fun depth text transform known => moves depth text transform (Or.inl known)
      have later := fun depth text transform known => moves depth text transform (Or.inr known)
      have up := (replaceReferences_steps here).of_run walked
      have down := (replaceInEntries_steps later).of_run walkedRest
      rcases member with mine | other
      · have replaced := replaced_of_run value first before middle here walked reference mine
        exact replaced.widen .refl down
      · have replaced :=
          replacedEntries_of_run entries rest middle last later walkedRest reference other
        exact replaced.widen up .refl

end

end Value

theorem knows_of_resolveFrom {allowance : Allowance} {trail : List Path} {current : Path}
    {before after : Cache} {value : Value}
    (run : (resolveFrom store theme allowance trail current).run before = (.ok value, after)) :
    after.find? (current, theme) = some value := by
  cases hit : before.find? (current, theme) with
  | some held =>
      rw [resolveFrom_remembered hit] at run
      obtain rfl : held = value := Except.ok.inj (congrArg Prod.fst run)
      obtain rfl : before = after := congrArg Prod.snd run
      exact hit
  | none =>
      by_cases visited : current ∈ trail
      · rw [resolveFrom_visited hit visited] at run
        exact nomatch run
      · cases shown : store.visible? current theme with
        | none =>
            rw [resolveFrom_missing hit visited shown] at run
            exact nomatch run
        | some raw =>
            rw [resolveFrom_shown hit visited shown] at run
            rcases run_bind_eq_ok run with ⟨found, middle, _, finished⟩
            obtain rfl : found = value := Except.ok.inj (congrArg Prod.fst finished)
            obtain rfl : middle.insert (current, theme) found = after := congrArg Prod.snd finished
            exact (Table.find?_insert middle _ _ found).trans (if_pos rfl)

theorem finish_steps {step : Cache → Cache → Prop} (value : Value) (transform : Option Transform)
    (path : Path) : Steps step (finish value transform path) := by
  cases transform with
  | none => exact Steps.pure value
  | some transform => exact Steps.ofResult _

theorem readThrough_steps {step : Cache → Cache → Prop} {allowance : Option Allowance}
    {trail : List Path} {current : Path} {valueOf : Allowance → Path → Walk Value} {text : String}
    {transform : Option Transform}
    (walks : ∀ inner target, Points store theme text target → Steps step (valueOf inner target)) :
    Steps step (readThrough store theme allowance trail current valueOf text transform) := by
  unfold readThrough
  cases allowance with
  | none => exact Steps.throw _
  | some inner =>
      cases found : store.target? theme text with
      | none => exact finish_steps _ _ _
      | some target =>
          exact (walks inner target (target?_eq_some_iff.mp found)).bind fun value =>
            finish_steps value transform current

theorem run_finish_state (value : Value) (transform : Option Transform) (path : Path)
    (cache : Cache) : ((finish value transform path).run cache).2 = cache := by
  cases transform <;> rfl

theorem run_readThrough_points {allowance : Option Allowance} {trail : List Path}
    {current target : Path} {valueOf : Allowance → Path → Walk Value} {text : String}
    {transform : Option Transform} (points : Points store theme text target)
    {before after : Cache} {value : Value}
    (run : (readThrough store theme allowance trail current valueOf text transform).run before =
      (.ok value, after)) :
    ∃ inner operand, allowance = some inner ∧
      (valueOf inner target).run before = (.ok operand, after) ∧
        operand.applied transform (some current) = .ok value := by
  cases allowance with
  | none => exact nomatch run
  | some inner =>
      rw [readThrough, target?_eq_some_iff.mpr points] at run
      rcases run_bind_eq_ok run with ⟨operand, middle, walked, finished⟩
      have kept := run_finish_state operand transform current middle
      rw [finished] at kept
      obtain rfl : after = middle := kept
      refine ⟨inner, operand, rfl, walked, ?_⟩
      cases transform with
      | none => exact congrArg Prod.fst finished
      | some transform => exact congrArg Prod.fst finished

theorem Remembers.of_follows {root next : Path} (follows : Follows store theme root next)
    {before after : Cache} (remembers : Remembers store theme next before after) :
    Remembers store theme root before after := by
  rcases remembers with ⟨path, value, reaches, ready, same⟩
  exact ⟨path, value, ReflTransGen.head follows reaches, ready, same⟩

/-- A walk remembers the paths that it reaches, each after all that it refers to. -/
theorem resolveFrom_remembers (allowance : Allowance) {trail : List Path} {current : Path} :
    Steps (Remembers store theme current) (resolveFrom store theme allowance trail current) := by
  induction trail, current using plainFrom.induct store theme generalizing allowance with
  | case1 trail current visited =>
      intro cache
      change ReflTransGen _ cache ((resolveFrom store theme allowance trail current).run cache).2
      cases hit : cache.find? (current, theme) with
      | some held => rw [resolveFrom_remembered hit]
      | none => rw [resolveFrom_visited hit visited]
  | case2 trail current fresh missing =>
      intro cache
      change ReflTransGen _ cache ((resolveFrom store theme allowance trail current).run cache).2
      cases hit : cache.find? (current, theme) with
      | some held => rw [resolveFrom_remembered hit]
      | none => rw [resolveFrom_missing hit fresh missing]
  | case3 trail current fresh raw shown ih =>
      intro cache
      change ReflTransGen _ cache ((resolveFrom store theme allowance trail current).run cache).2
      cases hit : cache.find? (current, theme) with
      | some held => rw [resolveFrom_remembered hit]
      | none =>
          have shows := visible?_eq_some_iff.mp shown
          have moves : ∀ depth text transform, (text, transform) ∈ raw.references →
              Steps (Remembers store theme current)
                (readThrough store theme (allowance.within? depth) trail current
                  (fun inner target => resolveFrom store theme inner (current :: trail) target)
                  text transform) := by
            intro depth text transform member
            refine readThrough_steps fun inner target points before => ?_
            have follows : Follows store theme current target :=
              ⟨raw, text, shows, Value.mem_targets_of_mem_references member, points⟩
            exact ReflTransGen.mono (fun _ _ => Remembers.of_follows follows) _ _
              (ih target inner before)
          rw [resolveFrom_shown hit fresh shown]
          rcases run : (raw.replaceReferences (fun depth =>
            readThrough store theme (allowance.within? depth) trail current
              fun inner target => resolveFrom store theme inner (current :: trail) target) 0).run
                cache with ⟨result, middle⟩
          have walked := (Value.replaceReferences_steps moves).of_run run
          cases result with
          | error error =>
              rw [run_bind_error run]
              exact walked
          | ok value =>
              rw [run_bind_ok run]
              refine walked.tail ⟨current, value, .refl, fun next follows => ?_, rfl⟩
              rcases follows with ⟨held, text, shows', mentions, points⟩
              obtain rfl := shows.unique shows'
              rcases Value.exists_mem_references_of_mem_targets mentions with ⟨transform, member⟩
              rcases Value.replaced_of_run raw value cache middle moves run _ member with
                ⟨depth, start, operand, finish, read, _, later⟩
              rcases run_readThrough_points points read with ⟨inner, found, _, walk, _⟩
              exact knows_of_remembers later ⟨found, knows_of_resolveFrom walk⟩

structure Ahead (store : Store) (theme : Theme) (cold warm : Cache) : Prop where
  coldSound : cold.Sound store
  warmSound : warm.Sound store
  closed : warm.Closed store
  covers : ∀ path, cold.Knows theme path → warm.Knows theme path

def warming (store : Store) (theme : Theme) : MonadRelation Walk Walk where
  relates first second := ∀ cold warm, Ahead store theme cold warm → ∀ value after,
    first.run cold = (.ok value, after) → ∃ later, second.run warm = (.ok value, later) ∧
      Ahead store theme after later
  pure value := by
    intro cold warm ahead other after run
    obtain rfl := Except.ok.inj (congrArg Prod.fst run)
    obtain rfl := congrArg Prod.snd run
    exact ⟨warm, rfl, ahead⟩
  bind := by
    intro α β first second next continued start continues cold warm ahead value after run
    rcases run_bind_eq_ok run with ⟨found, middle, walked, rest⟩
    rcases start cold warm ahead found middle walked with ⟨between, same, onward⟩
    rw [run_bind_ok same]
    exact continues found middle between onward value after rest

theorem finish_warming (value : Value) (transform : Option Transform) (path : Path) :
    (warming store theme).relates (finish value transform path) (finish value transform path) := by
  intro cold warm ahead result after run
  have coldKept := run_finish_state value transform path cold
  rw [run] at coldKept
  obtain rfl : after = cold := coldKept
  refine ⟨warm, ?_, ahead⟩
  cases transform with
  | none => exact congrArg (·, warm) (congrArg Prod.fst run)
  | some transform => exact congrArg (·, warm) (congrArg Prod.fst run)

theorem readThrough_warming {allowance : Option Allowance} {trail : List Path} {current : Path}
    {valueOf : Allowance → Path → Walk Value} {text : String} {transform : Option Transform}
    (walks : ∀ inner target, Points store theme text target →
      (warming store theme).relates (valueOf inner target) (valueOf inner target)) :
    (warming store theme).relates
      (readThrough store theme allowance trail current valueOf text transform)
      (readThrough store theme allowance trail current valueOf text transform) := by
  unfold readThrough
  cases allowance with
  | none =>
      intro cold warm ahead value after run
      exact nomatch run
  | some inner =>
      cases found : store.target? theme text with
      | none => exact finish_warming _ _ _
      | some target =>
          exact (warming store theme).bind (walks inner target (target?_eq_some_iff.mp found))
            fun value => finish_warming value transform current

theorem denotes_of_resolveFrom {allowance : Allowance} {trail : List Path} {current : Path}
    (linked : Linked store theme trail current) {cache after : Cache} (sound : cache.Sound store)
    {value : Value}
    (run : (resolveFrom store theme allowance trail current).run cache = (.ok value, after)) :
    after.Sound store ∧ Denotes store theme current value := by
  rcases resolveFrom_agrees allowance linked cache sound with ⟨kept, outcome⟩
  rw [run] at kept outcome
  refine ⟨kept, ?_⟩
  rcases outcome with same | ⟨_, deep⟩
  · exact denotes_of_plainFrom same.symm
  · exact nomatch deep

theorem ahead_of_known {allowance : Allowance} {trail : List Path} {current : Path}
    (linked : Linked store theme trail current) {cold warm after : Cache}
    (ahead : Ahead store theme cold warm) {value held : Value}
    (run : (resolveFrom store theme allowance trail current).run cold = (.ok value, after))
    (hit : warm.find? (current, theme) = some held) :
    (resolveFrom store theme allowance trail current).run warm = (.ok value, warm) ∧
      Ahead store theme after warm := by
  rcases denotes_of_resolveFrom linked ahead.coldSound run with ⟨kept, denotes⟩
  obtain rfl := (ahead.warmSound current theme held hit).unique denotes
  refine ⟨resolveFrom_remembered hit, kept, ahead.warmSound, ahead.closed, fun path known => ?_⟩
  have remembers : Steps (Remembers store theme current)
      (resolveFrom store theme allowance trail current) := resolveFrom_remembers allowance
  have steps := remembers.of_run run
  rcases reaches_of_remembers steps known with earlier | ⟨_, reaches⟩
  · exact ahead.covers path earlier
  · exact ahead.closed.reaches ⟨held, hit⟩ reaches

/-- A walk that succeeds over a memory succeeds over every memory that is ahead of it. -/
theorem resolveFrom_ahead (allowance : Allowance) {trail : List Path} {current : Path}
    (linked : Linked store theme trail current) :
    (warming store theme).relates (resolveFrom store theme allowance trail current)
      (resolveFrom store theme allowance trail current) := by
  induction trail, current using plainFrom.induct store theme generalizing allowance with
  | case1 trail current visited =>
      -- A path on its own trail denotes nothing, so no walk from it succeeds.
      intro cold warm ahead value after run
      have denotes := (denotes_of_resolveFrom linked ahead.coldSound run).2
      exact absurd (linked current visited) denotes.not_cyclic
  | case2 trail current fresh missing =>
      intro cold warm ahead value after run
      have denotes := (denotes_of_resolveFrom linked ahead.coldSound run).2
      cases denotes with
      | shown shows _ => exact absurd shows (visible?_eq_none_iff.mp missing _)
  | case3 trail current fresh raw shown ih =>
      intro cold warm ahead value after run
      cases hit : warm.find? (current, theme) with
      | some held => exact ⟨warm, ahead_of_known linked ahead run hit⟩
      | none =>
          -- Neither memory knows the path, so both walks go into its value.
          have miss : cold.find? (current, theme) = none := by
            cases known : cold.find? (current, theme) with
            | none => rfl
            | some held =>
                rcases ahead.covers current ⟨held, known⟩ with ⟨other, found⟩
                exact absurd (found.symm.trans hit) (Option.some_ne_none other)
          have shows := visible?_eq_some_iff.mp shown
          have members : (warming store theme).relates
              (raw.replaceReferences (fun depth =>
                readThrough store theme (allowance.within? depth) trail current
                  fun inner target => resolveFrom store theme inner (current :: trail) target) 0)
              (raw.replaceReferences (fun depth =>
                readThrough store theme (allowance.within? depth) trail current
                  fun inner target => resolveFrom store theme inner (current :: trail) target)
                0) := by
            refine Value.replaceReferences_relates (warming store theme) 0 raw ?_
            intro depth text transform holds
            refine readThrough_warming fun inner target points => ?_
            exact ih target inner (linked.step ⟨raw, text, shows,
              Value.mem_targets_of_mem_references holds.mem_references, points⟩)
          have started := run
          rw [resolveFrom_shown miss fresh shown] at run
          rcases run_bind_eq_ok run with ⟨found, middle, walked, finished⟩
          obtain rfl : found = value := Except.ok.inj (congrArg Prod.fst finished)
          obtain rfl : middle.insert (current, theme) found = after := congrArg Prod.snd finished
          rcases members cold warm ahead found middle walked with ⟨between, same, onward⟩
          have again : (resolveFrom store theme allowance trail current).run warm =
              (.ok found, between.insert (current, theme) found) := by
            rw [resolveFrom_shown hit fresh shown, run_bind_ok same]
            rfl
          refine ⟨_, again, (denotes_of_resolveFrom linked ahead.coldSound started).1,
            (denotes_of_resolveFrom linked ahead.warmSound again).1,
            ahead.closed.remembers ((resolveFrom_remembers allowance).of_run again), ?_⟩
          intro path known
          rw [knows_insert_iff] at known ⊢
          exact known.imp_right (onward.covers path)

theorem outcome_of_ahead {allowance : Allowance} {cold warm : Cache}
    (ahead : Ahead store theme cold warm) {path : Path} {value : Value}
    (found : outcome store theme allowance cold path = .ok value) :
    outcome store theme allowance warm path = .ok value := by
  have start : Linked store theme [] path := by
    intro visited member
    simp at member
  rcases run : (resolve store theme allowance path).run cold with ⟨result, after⟩
  rw [outcome, run] at found
  obtain rfl : result = .ok value := found
  rcases resolveFrom_ahead allowance start cold warm ahead value after run with ⟨later, same, _⟩
  exact congrArg Prod.fst same

theorem Cache.Closed.resolve {cache : Cache} (closed : cache.Closed store) (theme : Theme)
    (allowance : Allowance) (path : Path) :
    Cache.Closed ((DesignTokens.resolve store theme allowance path).run cache).2 store :=
  closed.remembers (resolveFrom_remembers allowance cache)

theorem knows_after_resolve {cache : Cache} {owner : Theme} {known : Path}
    (knows : cache.Knows owner known) (theme : Theme) (allowance : Allowance) (path : Path) :
    Cache.Knows ((DesignTokens.resolve store theme allowance path).run cache).2 owner known :=
  have steps : ReflTransGen (Remembers store theme path) cache
      ((DesignTokens.resolve store theme allowance path).run cache).2 :=
    resolveFrom_remembers allowance cache
  knows_of_remembers steps knows

theorem Cache.closed_empty (store : Store) : Cache.Closed Table.empty store := by
  rintro theme path next ⟨value, found⟩
  simp at found

end DesignTokens
