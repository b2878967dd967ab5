import DesignTokens.Proofs.Store.Shelves
import DesignTokens.Proofs.TokenSystem.Steps

/-!
Many values written at once.  They leave what they leave when they are written one after another,
but as one change, and they are refused as the first of them that cannot be read.
-/

namespace DesignTokens

def Readable (item : String × Data) : Prop :=
  (∃ path, Path.read item.1 = .ok path) ∧ ∃ value, Value.ofData item.2 = .ok value

inductive Unreadable : String × Data → Error → Prop
  | path {raw data error} : Path.read raw = .error error → Unreadable (raw, data) error
  | value {raw data path error} : Path.read raw = .ok path → Value.ofData data = .error error →
      Unreadable (raw, data) error

def readItem (item : String × Data) : Except Error (Path × Value) := do
  let path ← Path.read item.1
  let value ← Value.ofData item.2
  return (path, value)

theorem readBatch_eq (items : List (String × Data)) : readBatch items = items.mapM readItem := by
  rfl

theorem readItem_eq_ok_iff {item : String × Data} {path : Path} {value : Value} :
    readItem item = .ok (path, value) ↔
      Path.read item.1 = .ok path ∧ Value.ofData item.2 = .ok value := by
  simp only [readItem, bind_eq_ok_iff, pure, Except.pure, Except.ok.injEq, Prod.mk.injEq]
  constructor
  · rintro ⟨_, read, _, valued, rfl, rfl⟩
    exact ⟨read, valued⟩
  · rintro ⟨read, valued⟩
    exact ⟨path, read, value, valued, rfl, rfl⟩

theorem readable_iff {item : String × Data} :
    Readable item ↔ ∃ entry, readItem item = .ok entry := by
  constructor
  · rintro ⟨⟨path, read⟩, value, valued⟩
    exact ⟨(path, value), readItem_eq_ok_iff.mpr ⟨read, valued⟩⟩
  · rintro ⟨⟨path, value⟩, done⟩
    obtain ⟨read, valued⟩ := readItem_eq_ok_iff.mp done
    exact ⟨⟨path, read⟩, value, valued⟩

theorem unreadable_iff {item : String × Data} {error : Error} :
    Unreadable item error ↔ readItem item = .error error := by
  obtain ⟨raw, data⟩ := item
  constructor
  · intro refused
    cases refused with
    | path failed => simp [readItem, failed, bind, Except.bind]
    | value read failed => simp [readItem, read, failed, bind, Except.bind]
  · intro failed
    cases read : Path.read raw with
    | error fault =>
        simp only [readItem, read, bind, Except.bind, Except.error.injEq] at failed
        exact .path (failed ▸ read)
    | ok path =>
        simp only [readItem, read, bind, Except.bind] at failed
        cases valued : Value.ofData data with
        | error fault =>
            simp only [valued, Except.error.injEq] at failed
            exact .value read (failed ▸ valued)
        | ok value => simp [valued, pure, Except.pure] at failed

theorem readable_of_readBatch {items : List (String × Data)} {values : List (Path × Value)}
    (read : readBatch items = .ok values) : ∀ item ∈ items, Readable item := by
  rw [readBatch_eq, mapM_eq_ok_iff] at read
  induction read with
  | nil => simp
  | cons here _ ih => exact List.forall_mem_cons.mpr ⟨readable_iff.mpr ⟨_, here⟩, ih⟩

namespace Store

def setEach (store : Store) (entries : List (Path × Value)) (theme : Theme) : Store :=
  Write.applyAll store (entries.map fun entry => .set entry.1 theme entry.2)

variable {store : Store} {theme : Theme}

theorem values_setAll (entries : List (Path × Value)) :
    (store.setAll entries theme).values =
      store.values.insertAll (entries.map fun (path, value) => ((path, theme), value)) := by
  cases entries with
  | nil => rfl
  | cons entry rest => rfl

theorem values_setEach (entries : List (Path × Value)) :
    (store.setEach entries theme).values = (store.setAll entries theme).values := by
  rw [values_setAll]
  induction entries generalizing store with
  | nil => rfl
  | cons entry rest ih => exact @ih (store.set entry.1 theme entry.2)

theorem metadata_setEach (entries : List (Path × Value)) :
    (store.setEach entries theme).metadata = store.metadata := by
  induction entries generalizing store with
  | nil => rfl
  | cons entry rest ih => exact @ih (store.set entry.1 theme entry.2)

theorem revision_setEach (entries : List (Path × Value)) :
    (store.setEach entries theme).revision = store.revision + entries.length := by
  induction entries generalizing store with
  | nil => rfl
  | cons entry rest ih =>
      have later := @ih (store.set entry.1 theme entry.2)
      change (store.setEach (entry :: rest) theme).revision = store.revision + 1 + rest.length at later
      rw [later, List.length_cons]
      omega

end Store

namespace Action

def setEach (items : List (String × Data)) (theme : Theme) : Action Unit :=
  items.forM fun item => set item.1 (.given theme) (.raw item.2)

theorem run_setEach {items : List (String × Data)} {values : List (Path × Value)}
    (read : readBatch items = .ok values) (theme : Theme) (system : TokenSystem) :
    (setEach items theme).run system =
      (.ok (), system.withStore (system.store.setEach values theme)) := by
  rw [readBatch_eq, mapM_eq_ok_iff] at read
  induction read generalizing system with
  | nil => exact congrArg (Prod.mk _) system.withStore_self.symm
  | @cons item entry items values here _ ih =>
      obtain ⟨path, valued⟩ := readItem_eq_ok_iff.mp here
      have first := @run_set _ _ (.raw item.2) _ path valued theme system
      have rest := ih (system.withStore (system.store.set entry.1 theme entry.2))
      rw [TokenSystem.withStore_store, TokenSystem.withStore_withStore] at rest
      · exact (run_bind_ok first).trans rest
      · exact Nat.le_succ system.store.revision
      · rw [Store.revision_setEach]
        exact Nat.le_add_right _ _

theorem run_set_unreadable {item : String × Data} {error : Error} (refused : Unreadable item error)
    (theme : Theme) (system : TokenSystem) :
    (set item.1 (.given theme) (.raw item.2)).run system = (.error error, system) := by
  cases refused with
  | path failed => exact run_bind_error (run_ofExcept_error failed system)
  | value read failed =>
      rw [set, readPath, run_bind_ok (run_ofExcept_ok read system)]
      exact run_bind_error (run_ofExcept_error failed system)

end Action

theorem TokenSystem.cache_withStore (system : TokenSystem) (store : Store) :
    (system.withStore store).cache =
      if store.revision = system.store.revision then system.cache else Table.empty := by
  unfold withStore
  split <;> rfl

open DesignTokens.Action in
/-- A batch leaves the table that its items leave one by one, as at most one change.  If an item
cannot be read, the first such item makes it fail, and the system stays as it was. -/
theorem setAll_atomic (system : TokenSystem) (theme : Theme) (items : List (String × Data)) :
    ((∀ item ∈ items, Readable item) →
      ∃ batched single,
        (setAll items (.given theme)).run system = (.ok items.length, batched) ∧
        (setEach items theme).run system = (.ok (), single) ∧
        batched.store.values = single.store.values ∧
        batched.store.metadata = single.store.metadata ∧
        batched.cache = single.cache ∧
        batched.store.revision = system.store.revision + (if items = [] then 0 else 1)) ∧
    ((∃ item ∈ items, ¬ Readable item) →
      ∃ before item after error, items = before ++ item :: after ∧
        (∀ earlier ∈ before, Readable earlier) ∧ Unreadable item error ∧
        (set item.1 (.given theme) (.raw item.2)).run system = (.error error, system) ∧
        (setAll items (.given theme)).run system = (.error error, system)) := by
  cases read : readBatch items with
  | ok values =>
      have counted : items.length = values.length :=
        (mapM_eq_ok_iff.mp (readBatch_eq items ▸ read)).length_eq
      refine ⟨fun _ => ?_, ?_⟩
      · refine ⟨system.withStore (system.store.setAll values theme), _, ?_,
          run_setEach read theme system, ?_, ?_, ?_, ?_⟩
        · rw [counted]
          exact run_setAll read theme system
        · rw [TokenSystem.withStore_store, TokenSystem.withStore_store, Store.values_setEach]
        · rw [TokenSystem.withStore_store, TokenSystem.withStore_store, Store.metadata_setEach,
            Store.metadata_setAll]
        · -- Without an item nothing is forgotten, and otherwise everything is.
          rw [TokenSystem.cache_withStore, TokenSystem.cache_withStore, Store.revision_setEach]
          cases values with
          | nil => rfl
          | cons entry rest => simp [Store.setAll]
        · rw [TokenSystem.withStore_store]
          cases values with
          | nil =>
              rw [if_pos (List.length_eq_zero_iff.mp counted)]
              rfl
          | cons entry rest =>
              rw [if_neg (List.ne_nil_of_length_eq_add_one counted)]
              rfl
      · rintro ⟨item, member, unread⟩
        exact absurd (readable_of_readBatch read item member) unread
  | error error =>
      obtain ⟨before, item, after, whole, fine, failed⟩ :=
        mapM_eq_error_iff.mp (readBatch_eq items ▸ read)
      have refused := unreadable_iff.mpr failed
      refine ⟨fun readable => ?_, fun _ => ?_⟩
      · obtain ⟨entry, here⟩ := readable_iff.mp (readable item (by simp [whole]))
        rw [failed] at here
        cases here
      · refine ⟨before, item, after, error, whole, ?_, refused,
          run_set_unreadable refused theme system, ?_⟩
        · exact fun earlier member => readable_iff.mpr (fine earlier member)
        · exact run_bind_error (run_ofExcept_error read system)

namespace Twofold

theorem valid_ink : isSegment "ink" = true := by decide

theorem valid_page : isSegment "page" = true := by decide

abbrev ink : Path := .single "ink" valid_ink
abbrev page : Path := .single "page" valid_page

def items : List (String × Data) :=
  [("ink", .null), ("page", .null), (" ink", .scalar (.boolean true))]

def broken : List (String × Data) :=
  [("ink", .null), ("ink page", .null), ("", .null)]

def system : TokenSystem :=
  .ofStore {} (Store.empty.set page .light .null)

end Twofold

open DesignTokens.Action Twofold in
theorem setAll_atomic_twofold :
    (∃ batched single, (setAll items (.given .light)).run system = (.ok 3, batched) ∧
      (setEach items .light).run system = (.ok (), single) ∧
      batched.store.values = single.store.values ∧
      batched.store.items .light = [(page, .null), (ink, .boolean true)] ∧
      batched.store.revision = 2) ∧
    (∃ item ∈ broken, ¬ Readable item) ∧
      (setAll broken (.given .light)).run system =
        (.error (.badPath ⟨.illegalSegment "ink page", "ink page"⟩), system) := by
  have readable : ∀ item ∈ items, Readable item := by
    simp only [items, List.forall_mem_cons]
    exact ⟨⟨⟨_, rfl⟩, _, rfl⟩, ⟨⟨_, rfl⟩, _, rfl⟩, ⟨⟨_, rfl⟩, _, rfl⟩, by simp⟩
  have unread : ∀ path, Path.read "ink page" ≠ .ok path := fun _ => nofun
  have flawed : ∃ item ∈ broken, ¬ Readable item := by
    refine ⟨("ink page", .null), by simp [broken], ?_⟩
    rintro ⟨⟨path, read⟩, _⟩
    exact unread path read
  constructor
  · obtain ⟨batched, single, run, each, values, _, _, revision⟩ :=
      (setAll_atomic system .light items).1 readable
    have listed := congrArg (fun result => result.2.store.items .light) run
    exact ⟨batched, single, run, each, values, listed.symm, revision⟩
  · obtain ⟨_, _, _, error, _, _, _, _, run⟩ := (setAll_atomic system .light broken).2 flawed
    have same : (Except.error (.badPath ⟨.illegalSegment "ink page", "ink page"⟩) :
        Except Error Nat) = .error error := congrArg Prod.fst run
    refine ⟨flawed, ?_⟩
    rw [run, Except.error.inj same]

end DesignTokens
