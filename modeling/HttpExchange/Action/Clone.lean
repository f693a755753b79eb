import HttpExchange.Action.Announcement
import HttpExchange.Action.Context
import HttpExchange.Store.Interface

/-!
# The clone action

Copies objects. The answer is an empty list with the status of a creation.
-/

namespace HttpExchange

/-- The parameters of a clone action. -/
structure CloneParams where
  entity : Text
  ids : List Nat
  lang : Text
  deriving DecidableEq, Repr

namespace Clone

/-- The name of the action. -/
def name : Text := "model_clone"

/-- The parameters that the action announces. -/
def params (defaultLang : Text) : List ParamSpec :=
  [.needed "entity" .string, .needed "ids" .array, .optional "lang" .string (.str defaultLang)]

end Clone

/-- The parameters of a request. -/
def CloneParams.ofMessage (defaultLang : Text) (m : Message) : Except Failure CloneParams := do
  let params ← announce (Clone.params defaultLang) m
  let ids ← identifiers "ids" (paramOf "ids" params)
  pure ⟨(paramOf "entity" params).asText?.getD [], ids,
    (paramOf "lang" params).asText?.getD defaultLang⟩

namespace Clone

variable {S : Type} [ObjectStore S]

/-- The action: copies the objects and answers. -/
def run (now : Int) (p : CloneParams) (s : S) (c : Context) :
    Except Failure Unit × S × Context :=
  match ObjectStore.cloneObjects now p.entity p.ids s with
  | (.ok _, s) =>
    let (r, c) := c.respond 201 (.arr [])
    (r, s, c)
  | (.error e, s) => (.error (.storage e), s, c)

/-- What is counted when the action runs. -/
def counters (now : Int) (p : CloneParams) (s : S) : List Counter :=
  match (ObjectStore.cloneObjects now p.entity p.ids s).1 with
  | .ok _ => [.action name "ok"]
  | .error _ => [.action name "error"]

end Clone

end HttpExchange
