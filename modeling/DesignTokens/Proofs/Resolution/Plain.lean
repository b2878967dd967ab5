import DesignTokens.Proofs.Computation
import DesignTokens.Proofs.Resolution.Meaning

/-!
Resolution without a memory: a walk that finds every value anew.  It finds a value
exactly where a path denotes one.
-/

namespace DesignTokens

open Relation

def readWith (store : Store) (theme : Theme) (current : Path)
    (valueOf : Path → Except Error Value) (text : String) (transform : Option Transform) :
    Except Error Value :=
  match store.target? theme text with
  | none => (Value.ofLiteral text).applied transform (some current)
  | some target => do (← valueOf target).applied transform (some current)

def plainFrom (store : Store) (theme : Theme) (trail : List Path) (current : Path) :
    Except Error Value :=
  if _ : current ∈ trail then .error (.circular (trail.reverse ++ [current]))
  else
    match _ : store.visible? current theme with
    | none => .error (.notFound current (absenceAfter trail))
    | some raw =>
        raw.replaceReferences (fun _ => readWith store theme current fun target =>
          plainFrom store theme (current :: trail) target) 0
termination_by store.unvisited theme trail
decreasing_by
  exact countP_not_mem_cons_lt _ _ _ (Store.mem_visiblePaths_of_visible? ‹_›) ‹_›

variable {store : Store} {theme : Theme}

theorem plainFrom_visited {trail : List Path} {current : Path} (visited : current ∈ trail) :
    plainFrom store theme trail current = .error (.circular (trail.reverse ++ [current])) := by
  rw [plainFrom, dif_pos visited]

theorem plainFrom_missing {trail : List Path} {current : Path} (fresh : current ∉ trail)
    (missing : store.visible? current theme = none) :
    plainFrom store theme trail current = .error (.notFound current (absenceAfter trail)) := by
  rw [plainFrom, dif_neg fresh]
  split
  · rfl
  · rename_i raw found
    simp [missing] at found

theorem plainFrom_shown {trail : List Path} {current : Path} {raw : Value}
    (fresh : current ∉ trail) (shown : store.visible? current theme = some raw) :
    plainFrom store theme trail current =
      raw.replaceReferences
        (fun _ => readWith store theme current (plainFrom store theme (current :: trail))) 0 := by
  rw [plainFrom, dif_neg fresh]
  split
  · rename_i missing
    simp [missing] at shown
  · rename_i held found
    obtain rfl := Option.some.inj (found.symm.trans shown)
    rfl

def ReadsAs (store : Store) (theme : Theme) (text : String) (transform : Option Transform)
    (value : Value) : Prop :=
  ∃ operand, Reads store theme text operand ∧ operand.applied transform none = .ok value

theorem readWith_inline {current : Path} {valueOf : Path → Except Error Value} {text : String}
    {transform : Option Transform} (literal : Inline store theme text) :
    readWith store theme current valueOf text transform =
      (Value.ofLiteral text).applied transform (some current) := by
  rw [readWith, target?_eq_none_iff.mpr literal]

theorem readWith_points {current target : Path} {valueOf : Path → Except Error Value}
    {text : String} {transform : Option Transform} (points : Points store theme text target) :
    readWith store theme current valueOf text transform =
      (do (← valueOf target).applied transform (some current)) := by
  rw [readWith, target?_eq_some_iff.mpr points]

theorem inline_or_points (store : Store) (theme : Theme) (text : String) :
    Inline store theme text ∨ ∃ target, Points store theme text target := by
  cases found : store.target? theme text with
  | none => exact Or.inl (target?_eq_none_iff.mp found)
  | some target => exact Or.inr ⟨target, target?_eq_some_iff.mp found⟩

theorem readsAs_of_readWith {current : Path} {valueOf : Path → Except Error Value}
    {text : String} {transform : Option Transform} {value : Value}
    (sound : ∀ target operand, Points store theme text target → valueOf target = .ok operand →
      Denotes store theme target operand)
    (read : readWith store theme current valueOf text transform = .ok value) :
    ReadsAs store theme text transform value := by
  rcases inline_or_points store theme text with literal | ⟨target, points⟩
  · rw [readWith_inline literal, Value.applied_eq_ok_iff _ _ _ _ none] at read
    exact ⟨_, Reads.literal literal rfl, read⟩
  · rw [readWith_points points, bind_eq_ok_iff] at read
    rcases read with ⟨operand, found, applied⟩
    rw [Value.applied_eq_ok_iff _ _ _ _ none] at applied
    exact ⟨operand, Reads.followed points (sound target operand points found), applied⟩

theorem readWith_of_readsAs {current : Path} {valueOf : Path → Except Error Value}
    {text : String} {transform : Option Transform} {value : Value}
    (complete : ∀ target operand, Points store theme text target →
      Denotes store theme target operand → valueOf target = .ok operand)
    (reads : ReadsAs store theme text transform value) :
    readWith store theme current valueOf text transform = .ok value := by
  rcases reads with ⟨operand, reads, applied⟩
  rw [Value.applied_eq_ok_iff _ _ _ _ (some current)] at applied
  cases reads with
  | literal literal same => rw [readWith_inline literal, same, applied]
  | followed points denotes =>
      rw [readWith_points points, bind_eq_ok_iff]
      exact ⟨operand, complete _ operand points denotes, applied⟩

mutual

theorem means_of_replaceReferences
    {replace : Nat → String → Option Transform → Except Error Value} {depth : Nat} :
    ∀ raw value,
      (∀ depth text transform, (text, transform) ∈ raw.references → ∀ result,
        replace depth text transform = .ok result → ReadsAs store theme text transform result) →
      raw.replaceReferences replace depth = .ok value → Means store theme raw value
  | .string _, value, _, replaced | .number _, value, _, replaced | .boolean _, value, _, replaced
  | .null, value, _, replaced | .color _, value, _, replaced | .dimension .., value, _, replaced
  | .typography _, value, _, replaced | .shadow _, value, _, replaced => by
      obtain rfl := Except.ok.inj replaced
      exact Means.scalar rfl
  | .alias text, value, each, replaced => by
      rw [Value.replaceReferences] at replaced
      rcases each _ text none (by simp [Value.references]) value replaced with
        ⟨operand, reads, applied⟩
      obtain rfl := Except.ok.inj applied
      exact Means.alias reads
  | .reference text transform, value, each, replaced => by
      rw [Value.replaceReferences] at replaced
      rcases each _ text transform (by simp [Value.references]) value replaced with
        ⟨operand, reads, applied⟩
      exact Means.reference reads applied
  | .array items, value, each, replaced => by
      rw [Value.replaceReferences, bind_eq_ok_iff] at replaced
      rcases replaced with ⟨results, replaced, same⟩
      obtain rfl := Except.ok.inj same
      rw [Value.references] at each
      exact Means.array (meansEach_of_replaceInItems items results each replaced)
  | .object entries, value, each, replaced => by
      rw [Value.replaceReferences, bind_eq_ok_iff] at replaced
      rcases replaced with ⟨results, replaced, same⟩
      obtain rfl := Except.ok.inj same
      rw [Value.references] at each
      exact Means.object (meansEntries_of_replaceInEntries entries results each replaced)

theorem meansEach_of_replaceInItems
    {replace : Nat → String → Option Transform → Except Error Value} {depth : Nat} :
    ∀ items results,
      (∀ depth text transform, (text, transform) ∈ Value.referencesOfItems items → ∀ result,
        replace depth text transform = .ok result → ReadsAs store theme text transform result) →
      Value.replaceInItems replace depth items = .ok results →
      MeansEach store theme items results
  | [], results, _, replaced => by
      obtain rfl := Except.ok.inj replaced
      exact MeansEach.nil
  | item :: items, results, each, replaced => by
      simp only [Value.referencesOfItems, List.mem_append] at each
      simp only [Value.replaceInItems, bind_eq_ok_iff] at replaced
      rcases replaced with ⟨first, headReplaced, rest, tailReplaced, same⟩
      obtain rfl := Except.ok.inj same
      exact MeansEach.cons
        (means_of_replaceReferences item first
          (fun depth text transform member => each depth text transform (Or.inl member))
          headReplaced)
        (meansEach_of_replaceInItems items rest
          (fun depth text transform member => each depth text transform (Or.inr member))
          tailReplaced)

theorem meansEntries_of_replaceInEntries
    {replace : Nat → String → Option Transform → Except Error Value} {depth : Nat} :
    ∀ entries results,
      (∀ depth text transform, (text, transform) ∈ Value.referencesOfEntries entries → ∀ result,
        replace depth text transform = .ok result → ReadsAs store theme text transform result) →
      Value.replaceInEntries replace depth entries = .ok results →
      MeansEntries store theme entries results
  | [], results, _, replaced => by
      obtain rfl := Except.ok.inj replaced
      exact MeansEntries.nil
  | (key, value) :: entries, results, each, replaced => by
      simp only [Value.referencesOfEntries, List.mem_append] at each
      simp only [Value.replaceInEntries, bind_eq_ok_iff] at replaced
      rcases replaced with ⟨first, headReplaced, rest, tailReplaced, same⟩
      obtain rfl := Except.ok.inj same
      exact MeansEntries.cons
        (means_of_replaceReferences value first
          (fun depth text transform member => each depth text transform (Or.inl member))
          headReplaced)
        (meansEntries_of_replaceInEntries entries rest
          (fun depth text transform member => each depth text transform (Or.inr member))
          tailReplaced)

end

mutual

theorem replaceReferences_of_means
    {replace : Nat → String → Option Transform → Except Error Value} {depth : Nat} :
    ∀ {raw value}, Means store theme raw value →
      (∀ depth text transform, (text, transform) ∈ raw.references → ∀ result,
        ReadsAs store theme text transform result → replace depth text transform = .ok result) →
      raw.replaceReferences replace depth = .ok value
  | raw, _, .scalar simple, _ => by
      cases raw <;> first | rfl | simp [Value.isScalar, Value.isReference] at simple
  | _, _, @Means.alias _ _ text _ reads, each => by
      rw [Value.replaceReferences]
      exact each depth text none (by simp [Value.references]) _ ⟨_, reads, rfl⟩
  | _, _, @Means.reference _ _ text transform _ _ reads applied, each => by
      rw [Value.replaceReferences]
      exact each depth text transform (by simp [Value.references]) _ ⟨_, reads, applied⟩
  | _, _, .array means, each => by
      rw [Value.references] at each
      rw [Value.replaceReferences, replaceInItems_of_meansEach means each]
      rfl
  | _, _, .object means, each => by
      rw [Value.references] at each
      rw [Value.replaceReferences, replaceInEntries_of_meansEntries means each]
      rfl

theorem replaceInItems_of_meansEach
    {replace : Nat → String → Option Transform → Except Error Value} {depth : Nat} :
    ∀ {items results}, MeansEach store theme items results →
      (∀ depth text transform, (text, transform) ∈ Value.referencesOfItems items → ∀ result,
        ReadsAs store theme text transform result → replace depth text transform = .ok result) →
      Value.replaceInItems replace depth items = .ok results
  | _, _, .nil, _ => rfl
  | _, _, .cons first rest, each => by
      simp only [Value.referencesOfItems, List.mem_append] at each
      rw [Value.replaceInItems,
        replaceReferences_of_means first fun depth text transform member =>
          each depth text transform (Or.inl member),
        replaceInItems_of_meansEach rest fun depth text transform member =>
          each depth text transform (Or.inr member)]
      rfl

theorem replaceInEntries_of_meansEntries
    {replace : Nat → String → Option Transform → Except Error Value} {depth : Nat} :
    ∀ {entries results}, MeansEntries store theme entries results →
      (∀ depth text transform, (text, transform) ∈ Value.referencesOfEntries entries → ∀ result,
        ReadsAs store theme text transform result → replace depth text transform = .ok result) →
      Value.replaceInEntries replace depth entries = .ok results
  | _, _, .nil, _ => rfl
  | _, _, .cons first rest, each => by
      simp only [Value.referencesOfEntries, List.mem_append] at each
      rw [Value.replaceInEntries,
        replaceReferences_of_means first fun depth text transform member =>
          each depth text transform (Or.inl member),
        replaceInEntries_of_meansEntries rest fun depth text transform member =>
          each depth text transform (Or.inr member)]
      rfl

end

theorem denotes_of_plainFrom {trail : List Path} {current : Path} {value : Value}
    (found : plainFrom store theme trail current = .ok value) :
    Denotes store theme current value := by
  induction trail, current using plainFrom.induct store theme generalizing value with
  | case1 trail current visited => simp [plainFrom_visited visited] at found
  | case2 trail current fresh missing => simp [plainFrom_missing fresh missing] at found
  | case3 trail current fresh raw shown ih =>
      rw [plainFrom_shown fresh shown] at found
      refine Denotes.shown (visible?_eq_some_iff.mp shown)
        (means_of_replaceReferences raw value ?_ found)
      intro _ text transform _ result read
      exact readsAs_of_readWith (fun target operand _ walked => ih target walked) read

theorem plainFrom_of_denotes {trail : List Path} {current : Path} {value : Value}
    (denotes : Denotes store theme current value)
    (apart : ∀ visited ∈ trail, ¬ Reaches store theme current visited) :
    plainFrom store theme trail current = .ok value := by
  induction trail, current using plainFrom.induct store theme generalizing value with
  | case1 trail current visited => exact absurd ReflTransGen.refl (apart current visited)
  | case2 trail current fresh missing =>
      cases denotes with
      | shown shows _ => exact absurd shows (visible?_eq_none_iff.mp missing _)
  | case3 trail current fresh raw shown ih =>
      rw [plainFrom_shown fresh shown]
      have acyclic := denotes.not_cyclic
      cases denotes with
      | shown shows means =>
          obtain rfl := (visible?_eq_some_iff.mp shown).unique shows
          refine replaceReferences_of_means means ?_
          intro _ text transform member result reads
          refine readWith_of_readsAs ?_ reads
          intro target operand points denotes
          -- The trail grows by the current path, which no target leads back to.
          have step : Follows store theme current target :=
            ⟨raw, text, shows, Value.mem_targets_of_mem_references member, points⟩
          refine ih target denotes ?_
          intro visited member reached
          rcases List.mem_cons.mp member with rfl | earlier
          · exact acyclic (TransGen.head' step reached)
          · exact apart visited earlier (ReflTransGen.head step reached)

theorem plainFrom_nil_eq_ok_iff {path : Path} {value : Value} :
    plainFrom store theme [] path = .ok value ↔ Denotes store theme path value :=
  ⟨denotes_of_plainFrom, fun denotes => plainFrom_of_denotes denotes (by simp)⟩

theorem Denotes.unique {path : Path} {value other : Value}
    (first : Denotes store theme path value) (second : Denotes store theme path other) :
    value = other := by
  rw [← plainFrom_nil_eq_ok_iff] at first second
  exact Except.ok.inj (first.symm.trans second)

def Linked (store : Store) (theme : Theme) (trail : List Path) (current : Path) : Prop :=
  ∀ visited ∈ trail, TransGen (Follows store theme) visited current

theorem Linked.step {trail : List Path} {current next : Path}
    (linked : Linked store theme trail current) (follows : Follows store theme current next) :
    Linked store theme (current :: trail) next := by
  intro visited member
  rcases List.mem_cons.mp member with rfl | earlier
  · exact TransGen.single follows
  · exact (linked visited earlier).tail follows

theorem plainFrom_of_linked {trail : List Path} {current : Path} {value : Value}
    (denotes : Denotes store theme current value) (linked : Linked store theme trail current) :
    plainFrom store theme trail current = .ok value := by
  refine plainFrom_of_denotes denotes ?_
  intro visited member reached
  exact denotes.not_cyclic (TransGen.trans_right reached (linked visited member))

end DesignTokens
