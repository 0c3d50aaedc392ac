import OpenRill.Goals.GoalService
import OpenRill.Lib.Runs

/-!
# The goals of all conversations

`GoalService` over the whole ledger: every goal with its own rows, none of which is
executed. A call finds its goal by id, a continued conversation finds its open one.
The index that allows one open goal for each conversation is left out, because it
is proved that no write of the service would meet it.
-/

namespace OpenRill.Goals.GoalBook

open Lib Lib.Runs Lib.Transaction Ledger GoalService

def goalKey (store : GoalStore) : String := store.goal.goalId

abbrev Book := Table goalKey

abbrev BookTransaction (Value : Type) := Transaction Book GoalFailure Value

/-- `status IN ('ACTIVE','PAUSED','BLOCKED')`. -/
def openStatus : GoalStatus → Bool
  | .active | .paused | .blocked => true
  | .completed | .cancelled => false

/-- `getOpen`. At most one goal qualifies, so the order of creation decides nothing. -/
def getOpen (book : Book) (conversationId : String) : Option GoalStore :=
  book.rows.find? (fun store =>
    store.goal.owner.conversationId = conversationId && openStatus store.goal.status)

def stepsBeside (book : Book) (goalId : String) : List String :=
  (book.rows.filter (fun store => store.goal.goalId ≠ goalId)).flatMap
    (fun store => store.planSteps.rows.map PlanStepRow.stepId)

/-- A part of a transaction that works on the rows of one goal, and what becomes of them. -/
def onRows (store : GoalStore) (body : GoalTransaction Unit) : BookTransaction GoalStore :=
  fun book =>
    match body.run store with
    | .ok (_, reached) => .ok (reached, book)
    | .error failure => .error failure

/-- `create` in the ledger. A throw of any part leaves the ledger as it was. -/
def createGoal (texts : GoalTexts) (known : Bool) (input : NewGoal) : BookTransaction Unit := do
  let book ← inspect id
  let asked := { input with foreignSteps := stepsBeside book input.goalId }
  let made ← onRows (bareGoal asked input.objective) (create texts asked)
  demand (known = true)
    (.service .goalProvenanceInvalid "goal conversation does not belong to the workspace")
  demand (getOpen book input.owner.conversationId = none)
    (.service .goalAlreadyOpen "conversation already has an open goal")
  tryChange (fun book => book.insert made) (.constraint "agent_goals.goal_id")

def goalOf (book : Book) (caller : GoalCaller) : ServiceOp → Option GoalStore
  | .prepareContext => getOpen book caller.owner.conversationId
  | _ => book.find caller.goalId

/-- What a call does when its goal is missing: only a continuation goes on without one. -/
def missing (caller : GoalCaller) : ServiceOp → BookTransaction Unit
  | .prepareContext =>
    demand (caller.known = true)
      (.service .goalProvenanceInvalid "goal conversation does not belong to the workspace")
  | _ => fail (.service .goalNotFound "goal not found")

def serveGoal (texts : GoalTexts) (caller : GoalCaller) (op : ServiceOp) :
    BookTransaction Unit := do
  let book ← inspect id
  match goalOf book caller op with
  | none => missing caller op
  | some store =>
    let reached ← onRows
      { store with foreignSteps := stepsBeside book store.goal.goalId }
      (serve texts caller op)
    change (fun book => book.update reached)

inductive BookOp where
  | create (known : Bool) (input : NewGoal)
  | serve (caller : GoalCaller) (op : ServiceOp)

def step (texts : GoalTexts) (book : Book) : BookOp → Book
  | .create known input => perform (createGoal texts known input) book
  | .serve caller op => perform (serveGoal texts caller op) book

def reach (texts : GoalTexts) (ops : List BookOp) : Book :=
  run (step texts) Table.empty ops

end OpenRill.Goals.GoalBook
