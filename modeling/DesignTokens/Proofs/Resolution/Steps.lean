import DesignTokens.Dtcg.Document
import DesignTokens.Proofs.Computation
import DesignTokens.Resolution.Expression
import DesignTokens.Stylesheet.Components
import DesignTokens.Stylesheet.Utilities
import DesignTokens.Stylesheet.Variables

/-!
Answers, style sheets and documents change the memory in one way only: they resolve
paths, one after another.
-/

namespace DesignTokens

open Relation

def Resolves (store : Store) (allowance : Allowance) (before after : Cache) : Prop :=
  ∃ theme path, after = ((resolve store theme allowance path).run before).2

variable {store : Store} {allowance : Allowance}

theorem resolve_steps (theme : Theme) (path : Path) :
    Steps (Resolves store allowance) (resolve store theme allowance path) :=
  fun _ => ReflTransGen.single ⟨theme, path, rfl⟩

theorem attempt_moves (theme : Theme) (path : Path) :
    Moves (Resolves store allowance) (attempt store theme allowance path) :=
  resolve_steps theme path

theorem resolve?_steps (theme : Theme) (path : Path) :
    Steps (Resolves store allowance) (resolve? store theme allowance path) := by
  refine ((resolve_steps theme path).map some).catching fun error => ?_
  split
  · exact Steps.pure none
  · exact Steps.throw error

theorem resolveAll_steps (theme : Theme) (paths : List String) :
    ∀ results, Steps (Resolves store allowance)
      (resolveAll store theme allowance results paths) := by
  induction paths with
  | nil => exact fun results => Steps.pure results
  | cons raw rest ih =>
      intro results
      rw [resolveAll]
      refine (Steps.ofResult _).bind fun path => ?_
      refine (Steps.lift (attempt_moves theme path)).bind fun result => ?_
      exact ih _

theorem failures_moves (theme : Theme) (paths : List Path) :
    Moves (Resolves store allowance) (failures store theme allowance paths) := by
  induction paths with
  | nil => exact Moves.pure []
  | cons path rest ih =>
      rw [failures]
      refine (attempt_moves theme path).bind fun result => ?_
      cases result with
      | ok value => exact ih
      | error error => exact ih.bind fun errors => Moves.pure (error :: errors)

theorem validate_moves (themes : List Theme) :
    Moves (Resolves store allowance) (validate store allowance themes) := by
  induction themes with
  | nil => exact Moves.pure []
  | cons theme rest ih =>
      rw [validate]
      refine (failures_moves theme _).bind fun found => ?_
      exact ih.bind fun errors => Moves.pure (found ++ errors)

theorem operandValue_steps (theme : Theme) (text : String) :
    Steps (Resolves store allowance) (operandValue store theme allowance text) := by
  unfold operandValue
  split
  · exact Steps.pure _
  · exact Steps.pure _
  · split
    · exact resolve_steps theme _
    · exact Steps.throw _
  · exact Steps.throw _

theorem evaluate_steps (theme : Theme) (text : String) :
    Steps (Resolves store allowance) (evaluate store theme allowance text) := by
  unfold evaluate
  split
  · rename_i expression _
    refine (operandValue_steps theme expression.left).bind fun left => ?_
    refine (operandValue_steps theme expression.right).bind fun right => ?_
    exact Steps.ofResult _
  · exact (Steps.ofResult _).bind fun path => resolve_steps theme path

namespace View

variable (view : View)

theorem tokenText_steps (theme : Theme) (path : Path) :
    Steps (Resolves view.store view.allowance) (view.tokenText theme path) := by
  unfold tokenText
  refine (Steps.lift (attempt_moves theme path)).bind fun result => ?_
  split
  · exact Steps.ofResult _
  · split
    · split
      · exact Steps.throw _
      · exact Steps.pure _
    · exact Steps.throw _

theorem sections_steps (theme : Theme) (paths : List Path) :
    Steps (Resolves view.store view.allowance) (view.sections theme paths) := by
  refine Steps.mapM (fun category => ?_) _
  refine (Steps.mapM (fun path => ?_) _).bind fun declarations => Steps.pure _
  exact (view.tokenText_steps theme path).bind fun text => Steps.pure _

theorem propertyList_steps (theme : Theme) :
    Steps (Resolves view.store view.allowance) (view.propertyList theme) :=
  (view.sections_steps theme _).bind fun _ => Steps.pure _

theorem rootBlock_steps (theme : Theme) :
    Steps (Resolves view.store view.allowance) (view.rootBlock theme) :=
  (view.sections_steps theme _).bind fun _ => Steps.pure _

theorem darkMediaBlock_steps :
    Steps (Resolves view.store view.allowance) view.darkMediaBlock :=
  (view.sections_steps .dark _).bind fun _ => Steps.pure _

theorem exportedVariables_steps (theme : Theme) :
    Steps (Resolves view.store view.allowance) (view.exportedVariables theme) :=
  (view.sections_steps theme _).bind fun _ =>
    (view.sections_steps .dark _).bind fun _ => Steps.pure _

theorem themeSheet_steps (theme : Theme) :
    Steps (Resolves view.store view.allowance) (view.themeSheet theme) :=
  (view.sections_steps theme _).bind fun _ =>
    (view.sections_steps .dark _).bind fun _ =>
      (view.sections_steps .dark _).bind fun _ => Steps.pure _

theorem componentSheet_steps (component : String) (theme : Theme) :
    Steps (Resolves view.store view.allowance) (view.componentSheet component theme) := by
  have placed : Steps (Resolves view.store view.allowance)
      (view.componentRules component theme) := by
    refine (Steps.mapM (fun slot => ?_) _).bind fun _ => Steps.pure _
    exact (view.tokenText_steps theme slot.1).bind fun _ => Steps.pure _
  refine placed.bind fun rules => ?_
  split
  · exact (Steps.ofResult _).bind fun path => Steps.throw _
  · exact Steps.pure _

theorem utilitySheet_steps (theme : Theme) :
    Steps (Resolves view.store view.allowance) (view.utilitySheet theme) := by
  have values : ∀ head, Steps (Resolves view.store view.allowance)
      (view.namespaceValues head theme) := by
    intro head
    refine Steps.mapM (fun path => ?_) _
    exact (resolve_steps theme path).bind fun _ => Steps.pure _
  refine Steps.bind ?_ fun rules => Steps.pure _
  refine (values "color").bind fun colors => ?_
  refine (values "spacing").bind fun spacing => ?_
  exact (values "typography").bind fun typography => Steps.pure _

theorem tokenFields_steps (theme : Theme) (path : Path) :
    Steps (Resolves view.store view.allowance) (view.tokenFields theme path) := by
  unfold tokenFields
  split
  · exact Steps.throw _
  · exact (resolve?_steps theme path).bind fun resolved => Steps.pure _

theorem placeTokens_steps (theme : Theme) (paths : List Path) :
    ∀ members, Steps (Resolves view.store view.allowance)
      (view.placeTokens theme members paths) := by
  induction paths with
  | nil => exact fun members => Steps.pure members
  | cons path rest ih =>
      intro members
      rw [placeTokens]
      exact (view.tokenFields_steps theme path).bind fun fields => ih _

theorem document_steps (theme : Theme) :
    Steps (Resolves view.store view.allowance) (view.document theme) :=
  view.placeTokens_steps theme _ []

end View

end DesignTokens
