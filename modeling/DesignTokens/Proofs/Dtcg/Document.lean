import DesignTokens.Proofs.Dtcg.Tree
import DesignTokens.Proofs.Resolution.Containment
import DesignTokens.Proofs.Resolution.Settled
import DesignTokens.Proofs.Resolution.Steps
import DesignTokens.Proofs.Stylesheet.Token
import DesignTokens.Proofs.TokenSystem.Transparency

/-!
Making a document never fails, and the document lists each public path once, with its
own fields and nothing else.  It owes nothing to a memory, not even where references nest too
deep: a value that a limit can hide is a composite, of which it says what is stored.
-/

namespace DesignTokens

open Relation

namespace Dtcg

theorem isToken_iff (members : Members) : isToken members = true ↔ "$value" ∈ members.keys := by
  unfold isToken
  induction members with
  | nil => simp [Entries.find?, Entries.keys]
  | cons entry rest ih =>
      obtain ⟨key, member⟩ := entry
      rw [Entries.keys] at ih
      by_cases same : key = "$value"
      · simp [Entries.find?, Entries.keys, same]
      · simp [Entries.find?, Entries.keys, same, Ne.symm same, ih]

def fieldKeys : List String :=
  ["$type", "$value", "$extensions", "$description", "$deprecated"]

theorem IsEntry.of_keys {fields : Members} (known : fields.keys.Sublist fieldKeys)
    (valued : "$value" ∈ fields.keys) : IsEntry fields where
  marked := by
    have all : ∀ key ∈ fieldKeys, isFieldKey key = true := by decide
    intro entry member
    exact all _ (known.subset (List.mem_map.mpr ⟨entry, member, rfl⟩))
  distinct := known.nodup (by decide)
  valued := (isToken_iff fields).mpr valued

theorem keys_valueFields (raw : Value) (resolved : Option Value) :
    (valueFields raw resolved).keys.Sublist ["$type", "$value", "$extensions"] ∧
      "$value" ∈ (valueFields raw resolved).keys := by
  unfold valueFields
  dsimp only
  cases resolved.bind type? <;> split <;> simp [Entries.keys]

theorem keys_metadataFields (metadata : Option Metadata) :
    ((metadata.map metadataFields).getD []).keys.Sublist ["$description", "$deprecated"] := by
  cases metadata with
  | none => simp [Entries.keys]
  | some metadata =>
      simp only [Option.map_some, Option.getD_some, metadataFields]
      cases metadata.description.filter (!·.isEmpty) <;> cases metadata.deprecated <;>
        simp [Entries.keys]

theorem isEntry_fields (raw : Value) (resolved : Option Value) (metadata : Option Metadata) :
    IsEntry (valueFields raw resolved ++ (metadata.map metadataFields).getD []) := by
  have values := keys_valueFields raw resolved
  have described := keys_metadataFields metadata
  refine IsEntry.of_keys ?_ ?_
  · rw [Entries.keys, List.map_append]
    exact values.1.append described
  · rw [Entries.keys, List.map_append]
    exact List.mem_append_left _ values.2

def exported (raw : Value) (resolved : Option Value) : Json :=
  match raw, resolved with
  | .reference _ (some _), some value => valueJson value
  | raw, _ => valueJson raw

theorem find?_fields (raw : Value) (resolved : Option Value) (more : Members) :
    (valueFields raw resolved ++ more).find? "$value" = some (exported raw resolved) := by
  unfold valueFields exported
  dsimp only
  cases resolved.bind type? <;> split <;> simp [Entries.find?]

end Dtcg

namespace View

variable {view : View} {theme : Theme}

/-- The fields of a path, by the value that it resolves to if it does. -/
theorem run_tokenFields {cache : Cache} (sound : cache.Sound view.store) {path : Path}
    {raw : Value} (contained : Contained view.store theme view.allowance path)
    (shows : Shows view.store theme path raw) :
    (view.tokenFields theme path).run cache =
      (.ok (Dtcg.valueFields raw
          (outcome view.store theme view.allowance cache path).toOption ++
            ((view.store.metadata.find? path).map Dtcg.metadataFields).getD []),
        ((DesignTokens.resolve view.store theme view.allowance path).run cache).2) := by
  rw [tokenFields, visible?_eq_some_iff.mpr shows]
  rw [run_bind_ok (run_resolve? sound contained)]
  rfl

theorem tokenFields_eq {cache : Cache} {path : Path} {fields : Dtcg.Members}
    (found : ((view.tokenFields theme path).run cache).1 = .ok fields) :
    ∃ raw, Shows view.store theme path raw ∧
      fields = Dtcg.valueFields raw
        (outcome view.store theme view.allowance cache path).toOption ++
          ((view.store.metadata.find? path).map Dtcg.metadataFields).getD [] := by
  rw [tokenFields] at found
  cases shown : view.store.visible? path theme with
  | none =>
      rw [shown] at found
      exact nomatch found
  | some raw =>
      rw [shown] at found
      dsimp only at found
      rcases run : (resolve? view.store theme view.allowance path).run cache with ⟨result, after⟩
      cases result with
      | error error =>
          rw [run_bind_error run] at found
          exact nomatch found
      | ok resolved =>
          rw [run_bind_ok run] at found
          obtain rfl := Except.ok.inj found
          rw [resolve?_eq_outcome run]
          exact ⟨raw, visible?_eq_some_iff.mp shown, rfl⟩

theorem isEntry_of_tokenFields {cache : Cache} {path : Path} {fields : Dtcg.Members}
    (found : ((view.tokenFields theme path).run cache).1 = .ok fields) : Dtcg.IsEntry fields := by
  rcases tokenFields_eq found with ⟨raw, _, rfl⟩
  exact Dtcg.isEntry_fields _ _ _

theorem placeTokens_total {paths : List Path}
    (visible : ∀ path ∈ paths, ∃ raw, Shows view.store theme path raw)
    (contained : ∀ path ∈ paths, Contained view.store theme view.allowance path) {cache : Cache}
    (sound : cache.Sound view.store) (members : Dtcg.Members) :
    ∃ result after, (view.placeTokens theme members paths).run cache = (.ok result, after) := by
  induction paths generalizing members cache with
  | nil => exact ⟨members, cache, rfl⟩
  | cons path rest ih =>
      rcases visible path List.mem_cons_self with ⟨raw, shows⟩
      have run := run_tokenFields sound (contained path List.mem_cons_self) shows
      rw [placeTokens, run_bind_ok run]
      exact ih (fun other member => visible other (List.mem_cons_of_mem _ member))
        (fun other member => contained other (List.mem_cons_of_mem _ member))
        (Cache.Sound.resolve sound path) _

def Contributes (view : View) (theme : Theme) (start : Cache) (path : Path)
    (fields : Dtcg.Members) : Prop :=
  ∃ before, ReflTransGen (Resolves view.store view.allowance) start before ∧
    ((view.tokenFields theme path).run before).1 = .ok fields

theorem placeTokens_lists {start : Cache} {paths : List Path} (placed : List Path)
    (distinct : (placed ++ paths).Nodup) {members : Dtcg.Members}
    (lists : Dtcg.Lists (view.Contributes theme start) members placed) {cache : Cache}
    (reached : ReflTransGen (Resolves view.store view.allowance) start cache)
    {result : Dtcg.Members} {after : Cache}
    (run : (view.placeTokens theme members paths).run cache = (.ok result, after)) :
    Dtcg.Lists (view.Contributes theme start) result (placed ++ paths) := by
  induction paths generalizing placed members cache with
  | nil =>
      obtain rfl : members = result := Except.ok.inj (congrArg Prod.fst run)
      rwa [List.append_nil]
  | cons path rest ih =>
      rw [placeTokens] at run
      rcases run_bind_eq_ok run with ⟨fields, middle, made, remaining⟩
      have fresh : path ∉ placed := by
        intro member
        exact (List.nodup_append.mp distinct).2.2 _ member _ List.mem_cons_self rfl
      have contributes : view.Contributes theme start path fields :=
        ⟨cache, reached, congrArg Prod.fst made⟩
      have grown := lists.place fresh (isEntry_of_tokenFields (congrArg Prod.fst made)) contributes
      rw [List.append_cons] at distinct ⊢
      exact ih _ distinct grown (reached.trans ((view.tokenFields_steps theme path).of_run made))
        remaining

theorem document_total (view : View) (theme : Theme) {cache : Cache}
    (sound : cache.Sound view.store)
    (contained : ∀ path ∈ view.publicPaths theme, Contained view.store theme view.allowance path) :
    ∃ members after, (view.document theme).run cache = (.ok members, after) :=
  placeTokens_total
    (fun _ member => Store.mem_visiblePaths_iff.mp (List.mem_filter.mp member).1) contained sound []

theorem document_lists {cache after : Cache} {members : Dtcg.Members}
    (run : (view.document theme).run cache = (.ok members, after)) :
    Dtcg.Lists (view.Contributes theme cache) members (view.publicPaths theme) := by
  exact placeTokens_lists [] (nodup_publicPaths view theme) (Dtcg.Lists.start _)
    ReflTransGen.refl run

theorem value_of_contributes {start : Cache} {path : Path} {members : Dtcg.Members} {raw : Value}
    (contributes : view.Contributes theme start path (Dtcg.ownFields members))
    (shows : Shows view.store theme path raw) :
    ∃ before, ReflTransGen (Resolves view.store view.allowance) start before ∧
      members.find? "$value" = some (Dtcg.exported raw
        (outcome view.store theme view.allowance before path).toOption) := by
  rcases contributes with ⟨before, reached, found⟩
  rcases tokenFields_eq found with ⟨held, visible, fields⟩
  obtain rfl := visible.unique shows
  refine ⟨before, reached, ?_⟩
  rw [← Dtcg.find?_ownFields members (by decide), fields, Dtcg.find?_fields]

theorem isToken_of_contributes {start : Cache} {path : Path} {members : Dtcg.Members}
    (contributes : view.Contributes theme start path (Dtcg.ownFields members)) :
    Dtcg.isToken members = true := by
  rcases contributes with ⟨before, _, found⟩
  exact (Dtcg.isToken_ownFields members).symm.trans (isEntry_of_tokenFields found).valued

end View

namespace Dtcg

theorem Lists.exists_of_token {entry : Path → Members → Prop} {members : Members}
    {paths : List Path} (lists : Lists entry members paths) {route : List String}
    (keys : IsRoute route) (token : isToken (groupAt members route) = true) :
    ∃ path ∈ paths, path.segments = route := by
  by_contra none
  have elsewhere : ∀ path ∈ paths, path.segments ≠ route :=
    fun path member same => none ⟨path, member, same⟩
  rw [← isToken_ownFields, lists.nothing route keys elsewhere] at token
  exact nomatch token

end Dtcg

/-- A document can always be made, and it lists the public paths of the theme: each of
them has its fields at the end of its segments, nothing else in the tree is a token, and
the count is theirs. -/
theorem document_complete (view : View) {cache : Cache} (proper : view.store.Proper)
    (memory : MemoryOf view.store cache) (theme : Theme) :
    ∃ members after, (view.document theme).run cache = (.ok members, after) ∧
      (∀ path ∈ view.publicPaths theme,
        Dtcg.isToken (Dtcg.groupAt members path.segments) = true ∧
          view.Contributes theme cache path
            (Dtcg.ownFields (Dtcg.groupAt members path.segments))) ∧
      (∀ route, Dtcg.IsRoute route → Dtcg.isToken (Dtcg.groupAt members route) = true →
        ∃! path, path ∈ view.publicPaths theme ∧ path.segments = route) ∧
      Dtcg.countTokens members = (view.publicPaths theme).length := by
  rcases view.document_total theme memory.sound
    (fun path _ => proper.contained theme view.allowance path) with ⟨members, after, run⟩
  have lists := View.document_lists run
  refine ⟨members, after, run, ?_, ?_, lists.count⟩
  · intro path member
    exact ⟨View.isToken_of_contributes (lists.holds path member), lists.holds path member⟩
  · intro route keys token
    rcases lists.exists_of_token keys token with ⟨path, member, same⟩
    refine ⟨path, ⟨member, same⟩, ?_⟩
    rintro other ⟨_, again⟩
    exact Path.eq_of_segments (again.trans same.symm)

def tangled : Store :=
  Store.empty.setAll
    [(⟨["a", "b", "c"], by decide, by decide⟩, .alias "gone"),
      (⟨["a"], by decide, by decide⟩, .alias "a.b"),
      (⟨["a", "b"], by decide, by decide⟩, .alias "a"),
      (⟨["d"], by decide, by decide⟩, .reference "_e" (some (.scale 2))),
      (⟨["_e"], by decide, by decide⟩, .string "x")] .light

theorem tangled_proper : tangled.Proper := by
  refine Store.proper_setAll ?_
  simp only [List.forall_mem_cons]
  exact ⟨Value.proper_reference rfl, Value.proper_reference rfl, Value.proper_reference rfl,
    Value.proper_reference rfl, Value.proper_colorless rfl (by simp), List.forall_mem_nil _⟩

theorem document_complete_tangled :
    tangled.Proper ∧ ((View.mk tangled {} .usual).publicPaths .light).length = 4 ∧
      ∃ members after,
        ((View.mk tangled {} .usual).document .light).run Table.empty =
          (.ok members, after) ∧ Dtcg.countTokens members = 4 := by
  have four : ((View.mk tangled {} .usual).publicPaths .light).length = 4 := by decide
  rcases document_complete ⟨tangled, {}, .usual⟩ tangled_proper (MemoryOf.empty tangled) .light
    with ⟨members, after, run, _, _, count⟩
  exact ⟨tangled_proper, four, members, after, run, count.trans four⟩

/-! ### Documents and memories -/

namespace Dtcg

theorem valueFields_of_composite {raw value : Value} (composite : value.isScalar = false)
    (kept : ∀ target transform, raw ≠ .reference target (some transform)) :
    valueFields raw (some value) = valueFields raw none := by
  have untyped : type? value = none := by cases value <;> simp_all [type?, Value.isScalar,
    Value.isReference]
  unfold valueFields
  cases raw with
  | reference target transform =>
      cases transform with
      | none => simp [untyped]
      | some transform => exact absurd rfl (kept target transform)
  | _ => simp [untyped]

end Dtcg

namespace View

def plainFields (view : View) (theme : Theme) (path : Path) : Except Error Dtcg.Members :=
  match view.store.visible? path theme with
  | none => .error (.document (.valueless path.dotted theme.name))
  | some raw =>
      .ok (Dtcg.valueFields raw (plainFrom view.store theme [] path).toOption ++
        ((view.store.metadata.find? path).map Dtcg.metadataFields).getD [])

def plainTokens (view : View) (theme : Theme) (members : Dtcg.Members) :
    List Path → Except Error Dtcg.Members
  | [] => .ok members
  | path :: rest => do
      let fields ← view.plainFields theme path
      view.plainTokens theme (Dtcg.place members fields path.segments) rest

def plainDocument (view : View) (theme : Theme) : Except Error Dtcg.Members :=
  view.plainTokens theme [] (view.publicPaths theme)

variable {view : View}

theorem valueFields_outcome {cache : Cache} (sound : cache.Sound view.store) {path : Path}
    {raw : Value} (shows : Shows view.store theme path raw) :
    Dtcg.valueFields raw (outcome view.store theme view.allowance cache path).toOption =
      Dtcg.valueFields raw (plainFrom view.store theme [] path).toOption := by
  rcases outcome_eq_plain_or_tooDeep sound view.allowance path with same | refused
  · rw [same]
  · cases plain : plainFrom view.store theme [] path with
    | error error =>
        rw [refused]
        rfl
    | ok value =>
        -- A value that a limit hides is no scalar, and so its token is not transformed.
        have denotes := plainFrom_nil_eq_ok_iff.mp plain
        have composite : value.isScalar = false := by
          by_contra simple
          rw [Bool.not_eq_false] at simple
          rw [outcome_of_isScalar sound denotes simple] at refused
          exact nomatch refused
        rw [refused]
        refine (Dtcg.valueFields_of_composite composite ?_).symm
        rintro target transform rfl
        rcases denotes with ⟨found, means⟩
        obtain rfl := shows.unique found
        cases means with
        | scalar simple => exact nomatch simple
        | reference _ applied =>
            rw [Value.isScalar_of_transformed applied] at composite
            exact nomatch composite

theorem tokenFields_settles (proper : view.store.Proper) (theme : Theme) (path : Path) :
    Settles view.store False (view.tokenFields theme path) (view.plainFields theme path) := by
  intro cache sound
  cases shown : view.store.visible? path theme with
  | none =>
      rw [tokenFields, plainFields, shown]
      exact ⟨sound, Or.inl rfl⟩
  | some raw =>
      have shows := visible?_eq_some_iff.mp shown
      rw [run_tokenFields sound (proper.contained theme view.allowance path) shows,
        valueFields_outcome sound shows, plainFields, shown]
      exact ⟨sound.resolve path, Or.inl rfl⟩

theorem placeTokens_settles (proper : view.store.Proper) (theme : Theme)
    (members : Dtcg.Members) (paths : List Path) :
    Settles view.store False (view.placeTokens theme members paths)
      (view.plainTokens theme members paths) := by
  induction paths generalizing members with
  | nil => exact Settles.pure members
  | cons path rest ih => exact (tokenFields_settles proper theme path).bind fun fields _ => ih _

end View

theorem document_settles {view : View} (proper : view.store.Proper) (theme : Theme) :
    Settles view.store False (view.document theme) (view.plainDocument theme) :=
  View.placeTokens_settles proper theme [] (view.publicPaths theme)

end DesignTokens
