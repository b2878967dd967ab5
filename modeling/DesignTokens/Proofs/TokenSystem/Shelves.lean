import DesignTokens.Proofs.Store.Shelves
import DesignTokens.Proofs.TokenSystem.Steps

/-!
What is asked of a store, one request after another.  It answers each of them as if every
theme had a table of its own, and what cannot be read changes nothing.
-/

namespace DesignTokens

def Request.write? : Request → Option (Except Error Store.Write)
  | .set path (.given theme) input =>
      some do
        let path ← Path.read path
        let value ← input.value
        return .set path theme value
  | .remove path theme => some ((Path.read path).map (.remove · theme))
  | .setAll entries (.given theme) => some ((readBatch entries).map (.setAll · theme))
  | .copyTheme source target => some (.ok (.copyTheme source target))
  | .clearTheme theme => some (.ok (.clearTheme theme))
  | .clear => some (.ok .clear)
  | .setMetadata path record => some ((Path.read path).map (.setMetadata · record))
  | _ => none

def Shelves.reply (shelves : Shelves) : Store.Write → Reply
  | .remove path theme => .truth ((shelves.values theme).contains path)
  | .setAll entries _ => .count entries.length
  | .copyTheme source _ => .count (shelves.values source).size
  | .clearTheme theme => .count (shelves.values theme).size
  | .set .. | .clear | .setMetadata .. | .setAllMetadata .. => .done

namespace Action

/-- A write to the store is answered as if the themes were apart. -/
theorem run_write {request : Request} {write : Store.Write}
    (asked : request.write? = some (.ok write)) (system : TokenSystem) :
    (ofRequest request).run system =
      (.ok (system.store.shelves.reply write), system.withStore (write.apply system.store)) := by
  cases request with
  | set raw scope input =>
      cases scope with
      | active => cases asked
      | given theme =>
          rcases bind_eq_ok_iff.mp (Option.some.inj asked) with ⟨path, read, rest⟩
          rcases bind_eq_ok_iff.mp rest with ⟨value, valued, same⟩
          obtain rfl := Except.ok.inj same
          rw [ofRequest, run_bind_ok (run_set read valued theme system)]
          rfl
  | setAll entries scope =>
      cases scope with
      | active => cases asked
      | given theme =>
          rcases map_eq_ok_iff.mp (Option.some.inj asked) with ⟨values, read, rfl⟩
          exact run_map_ok Reply.count (run_setAll read theme system)
  | remove raw theme =>
      rcases map_eq_ok_iff.mp (Option.some.inj asked) with ⟨path, read, rfl⟩
      rw [ofRequest, run_map_ok Reply.truth (run_remove read theme system), Store.remove_fst]
      rfl
  | setMetadata raw record =>
      rcases map_eq_ok_iff.mp (Option.some.inj asked) with ⟨path, read, rfl⟩
      rw [ofRequest, run_bind_ok (run_setMetadata read record system)]
      rfl
  | copyTheme source target =>
      obtain rfl := Except.ok.inj (Option.some.inj asked)
      rfl
  | clearTheme theme =>
      obtain rfl := Except.ok.inj (Option.some.inj asked)
      have cleared : (onStore (·.clearTheme theme)).run system =
          (.ok (system.store.clearTheme theme).1,
            system.withStore (system.store.clearTheme theme).2) := rfl
      rw [ofRequest, run_map_ok Reply.count cleared, Store.clearTheme_fst]
      rfl
  | clear =>
      obtain rfl := Except.ok.inj (Option.some.inj asked)
      rfl
  | _ => cases asked

theorem run_unreadable {request : Request} {error : Error}
    (asked : request.write? = some (.error error)) (system : TokenSystem) :
    (ofRequest request).run system = (.error error, system) := by
  cases request with
  | set raw scope input =>
      cases scope with
      | active => cases asked
      | given theme =>
          have failed := Option.some.inj asked
          cases read : Path.read raw with
          | error fault =>
              rw [read] at failed
              obtain rfl := Except.error.inj failed
              exact run_bind_error (run_bind_error (run_ofExcept_error read system))
          | ok path =>
              cases valued : input.value with
              | error fault =>
                  rw [read, valued] at failed
                  obtain rfl := Except.error.inj failed
                  refine run_bind_error ?_
                  rw [set, readPath, run_bind_ok (run_ofExcept_ok read system)]
                  exact run_bind_error (run_ofExcept_error valued system)
              | ok value =>
                  rw [read, valued] at failed
                  cases failed
  | setAll entries scope =>
      cases scope with
      | active => cases asked
      | given theme =>
          have refused := map_eq_error_iff.mp (Option.some.inj asked)
          exact run_map_error Reply.count (run_bind_error (run_ofExcept_error refused system))
  | remove raw theme =>
      have refused := map_eq_error_iff.mp (Option.some.inj asked)
      exact run_map_error Reply.truth (run_bind_error (run_ofExcept_error refused system))
  | setMetadata raw record =>
      have refused := map_eq_error_iff.mp (Option.some.inj asked)
      exact run_bind_error (run_bind_error (run_ofExcept_error refused system))
  | copyTheme | clearTheme | clear => cases asked
  | _ => cases asked

end Action

def Request.written? (request : Request) : Option Store.Write :=
  request.write?.bind Except.toOption

theorem Workspace.store_after (workspace : Workspace) {request : Request}
    (call : request.write?.isSome = true) :
    (workspace.after (.tokens request)).system.store =
      Store.Write.applyAll workspace.system.store request.written?.toList := by
  have ran : (workspace.after (.tokens request)).system =
      ((Action.ofRequest request).run workspace.system).2 := rfl
  rcases Option.isSome_iff_exists.mp call with ⟨read, asked⟩
  rw [ran, Request.written?, asked]
  cases read with
  | error error =>
      rw [Action.run_unreadable asked]
      rfl
  | ok write =>
      rw [Action.run_write asked]
      exact TokenSystem.withStore_store _ _

theorem Workspace.store_afterAll (workspace : Workspace) {requests : List Request}
    (calls : ∀ request ∈ requests, request.write?.isSome = true) :
    (workspace.afterAll (requests.map .tokens)).system.store =
      Store.Write.applyAll workspace.system.store (requests.filterMap Request.written?) := by
  induction requests generalizing workspace with
  | nil => rfl
  | cons request requests ih =>
      rcases List.forall_mem_cons.mp calls with ⟨call, others⟩
      have later := ih (workspace.after (.tokens request)) others
      rw [workspace.store_after call] at later
      refine later.trans ?_
      rw [List.filterMap_cons]
      cases request.written? <;> rfl

/-- After any calls to the store it answers as tables of its themes that took the same writes
apart, and so it does to the next call, while one that cannot be read changes nothing. -/
theorem store_by_theme (workspace : Workspace) {requests : List Request}
    (calls : ∀ request ∈ requests, request.write?.isSome = true) :
    let system := (workspace.afterAll (requests.map .tokens)).system
    let shelves := workspace.system.store.shelves.applyAll (requests.filterMap Request.written?)
    system.store.Tells shelves ∧ system.store.KeepsOrder ∧
      (∀ request write, request.write? = some (.ok write) →
        ((Action.ofRequest request).run system).1 = .ok (shelves.reply write)) ∧
      ∀ request error, request.write? = some (.error error) →
        (Action.ofRequest request).run system = (.error error, system) := by
  intro system shelves
  have apart : system.store.shelves = shelves :=
    (congrArg Store.shelves (workspace.store_afterAll calls)).trans (Store.shelves_applyAll _ _)
  rw [← apart]
  refine ⟨system.store.tells_shelves, system.store.keepsOrder, ?_, ?_⟩
  · intro request write asked
    rw [Action.run_write asked]
  · intro request error asked
    exact Action.run_unreadable asked system

namespace Rearranged

abbrev first : Path := .single "a" (by decide)
abbrev second : Path := .single "b" (by decide)

def requests : List Request :=
  [.setAll [("a", .null), ("b", .null), (" a", .scalar (.boolean true))] (.given .light),
    .copyTheme .light .dark, .remove "a" .dark, .set "a..b" (.given .dark) (.ready .null),
    .set "a" (.given .dark) (.ready .null), .copyTheme .dark .dark, .clearTheme .auto]

def workspace : Workspace :=
  ⟨.ofStore {} Store.empty, Folder.empty⟩

end Rearranged

open Rearranged in
theorem store_by_theme_rearranged :
    (∀ request ∈ requests, request.write?.isSome = true) ∧
      (workspace.afterAll (requests.map .tokens)).system.store.items .light =
        [(first, .boolean true), (second, .null)] ∧
      (workspace.afterAll (requests.map .tokens)).system.store.items .dark =
        [(second, .null), (first, .null)] ∧
      (workspace.afterAll (requests.map .tokens)).system.store.size = 4 := by
  have calls : ∀ request ∈ requests, request.write?.isSome = true := by
    simp [requests, Request.write?]
  have tells := (store_by_theme workspace calls).1
  refine ⟨calls, (tells.items .light).trans ?_, (tells.items .dark).trans ?_, ?_⟩
  · rfl
  · rfl
  · rw [tells.size, tells.paths, tells.paths, tells.paths]
    rfl

end DesignTokens
