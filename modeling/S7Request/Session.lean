import S7Request.Address.Render
import S7Request.Address.Resolve
import S7Request.Plan.Split

/-!
# Sessions

A session collects items, plans exchanges of them and carries the plans out. Plans do not change
when items are added or the configuration is changed later. A command that fails leaves the
session as it was.
-/
namespace S7Request

/-- What a session holds. -/
structure Session where
  policy : VPolicy
  config : PlannerConfig
  items : List Item
  readPlan : Option (Plan .read)
  writePlan : Option (Plan .write)

namespace Session

def initial : Session where
  policy := .standard
  config := .ofPduLength 240
  items := []
  readPlan := none
  writePlan := none

inductive Command
  | usePolicy (policy : VPolicy)
  | add (address : String) (count : UInt32) (size : TransportSize)
  | addFields (area : Area) (dbNumber : UInt16) (byteAddress : UInt32) (bitAddress : UInt8)
      (size : TransportSize) (count : UInt32)
  | slice (index : Nat) (offset length : UInt64)
  | same (first second : Nat)
  | areaText (index : Nat)
  | items
  | clear
  | usePduLength (pduLength : UInt16)
  | useBudget (direction : Direction) (budget : Option Budget)
  | plan (direction : Direction)
  | planItems (direction : Direction)
  | planRequests (direction : Direction)
  | merge (responses : List (List Bytes))
  | split (payloads : List Bytes)

inductive Reply
  | policy (policy : VPolicy)
  | item (item : Item)
  | truth (value : Bool)
  | text (value : String)
  | items (items : List Item)
  | cleared
  | budgets (read write : Except Error Budget)
  | groups (groups : List Group)
  | requests (requests : List (List Item))
  | data (items : List Bytes)
  | payloads (groups : List (List Bytes))

inductive Failure
  | error (error : Error)
  | noItem
  | noPlan

/-- The result of a command: the session after it, the answer, and what was reported. -/
structure Outcome where
  session : Session
  reply : Except Failure Reply
  events : List Event

/-- The answer of a command that does not change the session. -/
def answer (s : Session) (reply : Reply) : Outcome :=
  ⟨s, .ok reply, []⟩

def fail (s : Session) (failure : Failure) : Outcome :=
  ⟨s, .error failure, []⟩

def append (s : Session) (item : Except Error Item) (events : List Event) : Outcome :=
  match item with
  | .ok item => ⟨{ s with items := s.items ++ [item] }, .ok (.item item), events⟩
  | .error e => ⟨s, .error (.error e), events⟩

/-- The result of a computation on the session as an answer. -/
def answerResult (s : Session) (result : Except Error α) (reply : α → Reply) : Outcome :=
  match result with
  | .ok a => s.answer (reply a)
  | .error e => s.fail (.error e)

/-- Changes the configuration and answers with the budgets under it. -/
def reconfigure (s : Session) (config : PlannerConfig) : Outcome :=
  ⟨{ s with config }, .ok (.budgets (config.budget .read) (config.budget .write)), []⟩

/-- The items and the requests of the last plan of a direction, if there is a plan. -/
def lastPlan (s : Session) : Direction → Option (List Item × Except Error (List (List Item)))
  | .read => s.readPlan.map fun plan => (plan.items, plan.requests)
  | .write => s.writePlan.map fun plan => (plan.items, plan.requests)

def perform (s : Session) : Command → Outcome
  | .usePolicy policy => ⟨{ s with policy }, .ok (.policy policy), []⟩
  | .add address count size =>
      s.append (resolve s.policy address count size) (resolveEvents s.policy address count)
  | .addFields area dbNumber byteAddress bitAddress size count =>
      s.append (Item.make area dbNumber byteAddress bitAddress size count) []
  | .slice index offset length =>
      match s.items[index]? with
      | some item => s.append (item.slice offset length) []
      | none => s.fail .noItem
  | .same first second =>
      match s.items[first]?, s.items[second]? with
      | some a, some b => s.answer (.truth (a = b))
      | _, _ => s.fail .noItem
  | .areaText index =>
      match s.items[index]? with
      | some item => s.answerResult item.areaText .text
      | none => s.fail .noItem
  | .items => s.answer (.items s.items)
  | .clear => ⟨{ s with items := [] }, .ok .cleared, []⟩
  | .usePduLength pduLength => s.reconfigure { s.config with pduLength }
  | .useBudget .read budget => s.reconfigure { s.config with readBudget := budget }
  | .useBudget .write budget => s.reconfigure { s.config with writeBudget := budget }
  | .plan .read =>
      match Plan.make .read s.config s.items with
      | .ok plan => ⟨{ s with readPlan := some plan }, .ok (.groups plan.groups), plan.events⟩
      | .error e => s.fail (.error e)
  | .plan .write =>
      match Plan.make .write s.config s.items with
      | .ok plan => ⟨{ s with writePlan := some plan }, .ok (.groups plan.groups), plan.events⟩
      | .error e => s.fail (.error e)
  | .planItems direction =>
      match s.lastPlan direction with
      | some (items, _) => s.answer (.items items)
      | none => s.fail .noPlan
  | .planRequests direction =>
      match s.lastPlan direction with
      | some (_, requests) => s.answerResult requests .requests
      | none => s.fail .noPlan
  | .merge responses =>
      match s.readPlan with
      | some plan => s.answerResult (plan.merge responses) .data
      | none => s.fail .noPlan
  | .split payloads =>
      match s.writePlan with
      | some plan => s.answerResult (plan.split payloads) .payloads
      | none => s.fail .noPlan

/-- Carries out commands one after the other. -/
def run (s : Session) : List Command → List Outcome
  | [] => []
  | c :: rest =>
      let outcome := s.perform c
      outcome :: run outcome.session rest

end Session

end S7Request
