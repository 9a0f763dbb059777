/-!
# State — the automation state machine

Guards the per-trainee progression. `transitionTo` refuses an edge that `allowed` does not list
and leaves the machine where it was.
-/

namespace DsspBot

inductive AutomationState
  | idle
  | initializing
  | loadingTrainee
  | openingForm
  | fillingForm
  | validating
  | submitting
  | verifying
  | retrying
  | paused
  | stopped
  | complete
  deriving DecidableEq, Repr

namespace AutomationState

/-- The name the error text prints. -/
def debug : AutomationState → String
  | idle => "Idle"
  | initializing => "Initializing"
  | loadingTrainee => "LoadingTrainee"
  | openingForm => "OpeningForm"
  | fillingForm => "FillingForm"
  | validating => "Validating"
  | submitting => "Submitting"
  | verifying => "Verifying"
  | retrying => "Retrying"
  | paused => "Paused"
  | stopped => "Stopped"
  | complete => "Complete"

/-- Every active state may also retry, advance to the next trainee, pause, stop, or complete. -/
def fromActive (next : List AutomationState) : List AutomationState :=
  next ++ [retrying, loadingTrainee, paused, stopped, complete]

def allowed : AutomationState → List AutomationState
  | idle => [initializing]
  | initializing => fromActive []
  | loadingTrainee => fromActive [openingForm]
  | openingForm => fromActive [fillingForm]
  | fillingForm => fromActive [validating]
  | validating => fromActive [submitting]
  | submitting => fromActive [verifying]
  | verifying => fromActive [loadingTrainee]
  | retrying => fromActive [openingForm, fillingForm, validating, submitting, verifying]
  | paused => [loadingTrainee, stopped, complete]
  | stopped => [idle]
  | complete => [idle]

def canTransition (source target : AutomationState) : Bool :=
  (allowed source).contains target

/-- The machine's only mutator besides a reset to `idle`. -/
def transitionTo (current next : AutomationState) : Except String AutomationState :=
  if canTransition current next then
    .ok next
  else
    .error s!"illegal state transition: {current.debug} -> {next.debug}"

end AutomationState

end DsspBot
