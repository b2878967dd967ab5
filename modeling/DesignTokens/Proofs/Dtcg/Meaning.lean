import DesignTokens.Proofs.Dtcg.Document
import DesignTokens.Proofs.Dtcg.Expansion
import DesignTokens.Proofs.TokenSystem.Transparency

/-!
What the tokens of a document mean.  Replacing the aliases in what is written for a token
gives what the token resolves to, except where a text only looks like an alias, or an alias
stands for a transformed reference inside a composite.
-/

namespace DesignTokens

open Relation

namespace Value

def isTransformed : Value → Bool
  | .reference _ transform => transform.isSome
  | _ => false

theorem not_isTransformed_of_isFaithful {value : Value} (faithful : value.isFaithful = true) :
    value.isTransformed = false := by
  cases value with
  | reference target transform =>
      rw [isFaithful, Option.isNone_iff_eq_none] at faithful
      rw [faithful]
      rfl
  | _ => rfl

theorem reference_of_isTransformed {value : Value} (transformed : value.isTransformed = true) :
    ∃ target transform, value = .reference target (some transform) := by
  cases value with
  | reference target transform =>
      rcases Option.isSome_iff_exists.mp transformed with ⟨transform, rfl⟩
      exact ⟨target, transform, rfl⟩
  | _ => exact nomatch transformed

end Value

namespace Dtcg

variable {store : Store} {theme : Theme} {read : String → Option Value}

theorem exported_of_untransformed {raw : Value} (untransformed : raw.isTransformed = false)
    {resolved : Option Value} : exported raw resolved = valueJson raw := by
  unfold exported
  split
  · exact nomatch untransformed
  · rfl

theorem expand_exported {raw value : Value} (means : Means store theme raw value)
    (kept : raw.isTransformed = true ∨ raw.isFaithful = true)
    (readable : ReadsAll store theme read raw.targets) :
    expand read (exported raw (some value)) = some (valueJson value) := by
  rcases kept with transformed | faithful
  · rcases Value.reference_of_isTransformed transformed with ⟨target, transform, rfl⟩
    cases means with
    | scalar simple => exact nomatch simple
    | reference _ applied =>
        exact expand_valueJson_of_isScalar (Value.isScalar_of_transformed applied)
          (Value.isFaithful_of_transformed applied)
  · rw [exported_of_untransformed (Value.not_isTransformed_of_isFaithful faithful)]
    exact expand_of_means means faithful readable

end Dtcg

namespace View

variable {view : View} {theme : Theme}

def reading? (view : View) (theme : Theme) (cache : Cache) (text : String) : Option Value :=
  match view.store.target? theme text with
  | none => some (Value.ofLiteral text)
  | some target => (outcome view.store theme view.allowance cache target).toOption

def meaning? (view : View) (theme : Theme) (cache : Cache) (members : Dtcg.Members)
    (path : Path) : Option Json :=
  ((Dtcg.groupAt members path.segments).find? "$value").bind
    (Dtcg.expand (view.reading? theme cache))

theorem meaning?_of_lists {start cache : Cache} {members : Dtcg.Members}
    (lists : Dtcg.Lists (view.Contributes theme start) members (view.publicPaths theme))
    {path : Path} (listed : path ∈ view.publicPaths theme) {raw : Value}
    (shows : Shows view.store theme path raw) :
    ∃ before, ReflTransGen (Resolves view.store view.allowance) start before ∧
      view.meaning? theme cache members path = Dtcg.expand (view.reading? theme cache)
        (Dtcg.exported raw (outcome view.store theme view.allowance before path).toOption) := by
  rcases value_of_contributes (lists.holds path listed) shows with ⟨before, reached, written⟩
  refine ⟨before, reached, ?_⟩
  rw [meaning?, written]
  rfl

/-- Over a closed memory, the texts in the value of a known path are read as what they denote. -/
theorem readsAll {cache : Cache} (sound : cache.Sound view.store) (closed : cache.Closed view.store)
    {path : Path} {raw : Value} (known : cache.Knows theme path)
    (shows : Shows view.store theme path raw) :
    Dtcg.ReadsAll view.store theme (view.reading? theme cache) raw.targets := by
  intro text mentions value reads
  cases reads with
  | literal inline same => rw [reading?, target?_eq_none_iff.mpr inline, same]
  | followed points denotes =>
      rcases closed theme path _ known ⟨raw, text, shows, mentions, points⟩ with ⟨held, found⟩
      have remembered : outcome view.store theme view.allowance cache _ = .ok held :=
        congrArg Prod.fst (resolveFrom_remembered found)
      rw [reading?, target?_eq_some_iff.mpr points]
      dsimp only
      rw [remembered, (sound _ _ _ found).unique denotes]
      rfl

theorem knows_of_resolves {store : Store} {allowance : Allowance} {before after : Cache}
    (steps : ReflTransGen (Resolves store allowance) before after) {path : Path}
    (knows : before.Knows theme path) : after.Knows theme path := by
  induction steps with
  | refl => exact knows
  | tail _ step ih =>
      rcases step with ⟨owner, other, rfl⟩
      exact knows_after_resolve ih owner allowance other

/-- A document that lists a path leaves its value behind, if it has one. -/
theorem placeTokens_knows {start : Cache} (memory : MemoryOf view.store start) {path : Path}
    {value : Value} (found : outcome view.store theme view.allowance start path = .ok value)
    {paths : List Path} (listed : path ∈ paths) {members result : Dtcg.Members}
    {cache after : Cache} (reached : ReflTransGen (Resolves view.store view.allowance) start cache)
    (run : (view.placeTokens theme members paths).run cache = (.ok result, after)) :
    after.Knows theme path := by
  induction paths generalizing members cache with
  | nil => exact absurd listed List.not_mem_nil
  | cons other rest ih =>
      rw [placeTokens] at run
      rcases run_bind_eq_ok run with ⟨fields, middle, made, remaining⟩
      have onward := (view.tokenFields_steps theme other).of_run made
      rcases List.mem_cons.mp listed with rfl | later
      · -- The result is remembered here, and later tokens only add to what is remembered.
        have again := memory.outcome_kept reached found
        rcases tokenFields_eq (congrArg Prod.fst made) with ⟨raw, shows, _⟩
        have sound := (memory.ahead reached theme).warmSound
        have contained := (denotes_of_outcome sound again).contained view.allowance
        rw [run_tokenFields sound contained shows] at made
        obtain rfl := congrArg Prod.snd made
        exact knows_of_resolves ((view.placeTokens_steps theme rest _).of_run remaining)
          ⟨value, find?_after_resolve again⟩
      · exact ih later (reached.trans onward) remaining

end View

/-- What a document says of a token that resolves is what it resolves to, once each alias
is replaced by what a reference with its text resolves to then.  The token is a transformed
reference itself, or it holds none, and no text that stands in braces. -/
theorem document_meaning (view : View) {cache : Cache} (proper : view.store.Proper)
    (memory : MemoryOf view.store cache) (theme : Theme) :
    ∃ members after, (view.document theme).run cache = (.ok members, after) ∧
      ∀ path ∈ view.publicPaths theme, ∀ raw, Shows view.store theme path raw →
        raw.isTransformed = true ∨ raw.isFaithful = true →
        ∀ value, outcome view.store theme view.allowance cache path = .ok value →
          view.meaning? theme after members path = some (Dtcg.valueJson value) := by
  rcases view.document_total theme memory.sound
    (fun path _ => proper.contained theme view.allowance path) with ⟨members, after, run⟩
  refine ⟨members, after, run, ?_⟩
  intro path listed raw shows kept value found
  rcases View.meaning?_of_lists (View.document_lists run) listed shows with ⟨before, reached, said⟩
  rw [said, memory.outcome_kept reached found]
  -- The memory it leaves holds the token, and being closed, whatever the token refers to.
  have ahead := memory.ahead ((view.document_steps theme).of_run run) theme
  have known := View.placeTokens_knows memory found listed .refl run
  cases denotes_of_outcome memory.sound found with
  | shown visible means =>
      rw [visible.unique shows] at means
      exact Dtcg.expand_exported means kept (View.readsAll ahead.warmSound ahead.closed known shows)

namespace Blurred

def store : Store :=
  Store.empty.setAll
    [(⟨["unit"], by decide, by decide⟩, .number 1),
      (⟨["card"], by decide, by decide⟩, .object [("size", .alias "unit")]),
      (⟨["gaps"], by decide, by decide⟩, .array [.reference "unit" (some (.scale 2))]),
      (⟨["note"], by decide, by decide⟩, .string "\x7bunit\x7d")] .light

theorem shows_cases {path : Path} {raw : Value} (shows : Shows store .light path raw) :
    raw = .number 1 ∨ raw = .object [("size", .alias "unit")] ∨
      raw = .array [.reference "unit" (some (.scale 2))] ∨ raw = .string "\x7bunit\x7d" := by
  have listed : raw ∈ [Value.number 1, .object [("size", .alias "unit")],
      .array [.reference "unit" (some (.scale 2))], .string "\x7bunit\x7d"] :=
    Store.mem_values_of_shows shows
  simpa using listed

theorem shows_number : Shows store .light ⟨["unit"], by decide, by decide⟩ (.number 1) :=
  Shows.own rfl

theorem points_number : Points store .light "unit" ⟨["unit"], by decide, by decide⟩ :=
  target?_eq_some_iff.mp (by decide)

theorem reads_number : Reads store .light "unit" (.number 1) :=
  Reads.followed points_number (Denotes.shown shows_number (Means.scalar rfl))

theorem of_holds {path : Path} {raw : Value} {depth : Nat} {text : String}
    {transform : Option Transform} (shows : Shows store .light path raw)
    (holds : raw.Holds depth text transform) : depth = 1 ∧ text = "unit" := by
  rcases shows_cases shows with rfl | rfl | rfl | rfl
  · cases holds
  · cases holds with
    | entry listed inner =>
        obtain ⟨_, rfl⟩ := Prod.mk.inj (List.mem_singleton.mp listed)
        cases inner
        exact ⟨rfl, rfl⟩
  · cases holds with
    | item listed inner =>
        obtain rfl := List.mem_singleton.mp listed
        cases inner
        exact ⟨rfl, rfl⟩
  · cases holds

theorem fits (path : Path) {count : Nat} (enough : 4 ≤ count) :
    Fits store .light path (.frames count) := by
  refine Fits.of_within fun raw depth text transform shows holds => ?_
  obtain ⟨rfl, rfl⟩ := of_holds shows holds
  refine ⟨_, Allowance.within?_frames_eq_some_iff.mpr ⟨enough, rfl⟩, fun next points => ?_⟩
  obtain rfl := points.unique points_number
  -- The unit refers to nothing, so a walk ends there.
  refine Fits.of_within fun raw depth text transform shown holds => ?_
  rw [shown.unique shows_number] at holds
  cases holds

theorem proper : store.Proper := by
  refine Store.proper_setAll ?_
  simp only [List.forall_mem_cons]
  refine ⟨Value.proper_colorless rfl (by simp), ?_, ?_, Value.proper_colorless rfl (by simp),
    List.forall_mem_nil _⟩
  · refine Value.proper_object fun key value member => ?_
    rw [List.mem_singleton] at member
    obtain ⟨rfl, rfl⟩ := Prod.mk.inj member
    exact Value.proper_reference rfl
  · refine Value.proper_array fun item member => ?_
    rw [List.mem_singleton.mp member]
    exact Value.proper_reference rfl

def system : TokenSystem :=
  TokenSystem.ofStore {} store

theorem resolves {path : Path} {raw value : Value} (shows : Shows store .light path raw)
    (means : Means store .light raw value) :
    outcome store .light system.allowance Table.empty path = .ok value :=
  (outcome_eq_ok_iff (Cache.sound_empty store) (fits path (by decide))).mpr (Denotes.shown shows means)

end Blurred

theorem document_meaning_blurred :
    Blurred.store.Proper ∧ ∃ members after,
      (Blurred.system.view.document .light).run Table.empty = (.ok members, after) ∧
        Blurred.system.view.meaning? .light after members ⟨["card"], by decide, by decide⟩ =
          some (.object [("size", Dtcg.numberJson 1)]) := by
  rcases document_meaning Blurred.system.view Blurred.proper
    (MemoryOf.empty Blurred.store) .light with ⟨members, after, run, means⟩
  refine ⟨Blurred.proper, members, after, run, ?_⟩
  have shows : Shows Blurred.store .light ⟨["card"], by decide, by decide⟩
      (.object [("size", .alias "unit")]) := Shows.own rfl
  have listed : ⟨["card"], by decide, by decide⟩ ∈ Blurred.system.view.publicPaths .light :=
    mem_publicPaths_iff.mpr ⟨⟨_, shows⟩, by decide⟩
  exact means _ listed _ shows (Or.inr rfl) (.object [("size", .number 1)])
    (Blurred.resolves shows (Means.object (.cons (Means.alias Blurred.reads_number) .nil)))

/-- A transform inside an array is not written, and a text in braces is written as it stands. -/
theorem document_meaning_lost :
    Blurred.system.Reachable ∧ ∃ members after,
      (Blurred.system.view.document .light).run Blurred.system.cache = (.ok members, after) ∧
        ∀ path ∈ [⟨["gaps"], by decide, by decide⟩, ⟨["note"], by decide, by decide⟩],
          path ∈ Blurred.system.view.publicPaths .light ∧
            ∃ value, outcome Blurred.store .light Blurred.system.allowance Blurred.system.cache
                path = .ok value ∧
              Blurred.system.view.meaning? .light after members path ≠
                some (Dtcg.valueJson value) := by
  have array : Shows Blurred.store .light ⟨["gaps"], by decide, by decide⟩
      (.array [.reference "unit" (some (.scale 2))]) := Shows.own rfl
  have text : Shows Blurred.store .light ⟨["note"], by decide, by decide⟩ (.string "\x7bunit\x7d") :=
    Shows.own rfl
  have listed : ∀ {path : Path} {raw}, Shows Blurred.store .light path raw →
      path.isPrivate = false → path ∈ Blurred.system.view.publicPaths .light :=
    fun shows known => mem_publicPaths_iff.mpr ⟨⟨_, shows⟩, known⟩
  have doubled := Blurred.resolves array
    (Means.array (.cons (Means.reference Blurred.reads_number rfl) .nil))
  have itself := Blurred.resolves text (Means.scalar rfl)
  have memory := MemoryOf.empty Blurred.store
  rcases Blurred.system.view.document_total .light memory.sound
    (fun path _ => Blurred.proper.contained .light _ path) with ⟨members, after, run⟩
  have ahead := memory.ahead ((Blurred.system.view.document_steps .light).of_run run) .light
  have known := View.placeTokens_knows memory doubled (listed array (by decide)) .refl run
  have number : Blurred.system.view.reading? .light after "unit" = some (.number 1) :=
    View.readsAll ahead.warmSound ahead.closed known array "unit" List.mem_cons_self _
      Blurred.reads_number
  have one : Dtcg.numberJson 1 = .integer 1 := by rfl
  have two : Dtcg.numberJson (1 * 2) = .integer 2 := by rfl
  have lists := View.document_lists run
  refine ⟨TokenSystem.reachable_ofStore _, members, after, run, ?_⟩
  intro path member
  simp only [List.mem_cons, List.not_mem_nil, or_false] at member
  rcases member with rfl | rfl
  · refine ⟨listed array (by decide), _, doubled, ?_⟩
    rcases View.meaning?_of_lists lists (listed array (by decide)) array with ⟨before, _, said⟩
    rw [said, Dtcg.exported_of_untransformed rfl]
    simp [Dtcg.valueJson, Dtcg.itemsJson, Dtcg.expand, Dtcg.expandItems, Dtcg.expand_aliasJson,
      number, one, two]
  · refine ⟨listed text (by decide), _, itself, ?_⟩
    rcases View.meaning?_of_lists lists (listed text (by decide)) text with ⟨before, _, said⟩
    rw [said, Dtcg.exported_of_untransformed rfl]
    change Dtcg.expand _ (Dtcg.aliasJson "unit") ≠ _
    rw [Dtcg.expand_aliasJson, number]
    simp [Dtcg.valueJson, one]

end DesignTokens
