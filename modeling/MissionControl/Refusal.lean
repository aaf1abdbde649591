import MissionControl.Severity
import MissionControl.Text.Quoted
import MissionControl.Uuid

/-!
# Refusals of the rocket domain

A request is refused because it names no rocket, names one that is already there, breaks a rule
on its values, or because the store behind the domain failed.
-/

namespace MissionControl

inductive Violation where
  | emptyRocketId
  | malformedRocketId (text : String) (cause : Uuid.Fault)
  | shortRocketType (text : String)
  | emptyMission
  | launchSpeedOutOfRange (speed : Int)
  | speedChangeOutOfRange (change : Int)
  | unknownGuard (text : String)
  | missingLaunchTime
  | negativeAmount (amount : Int)
  /-- A rule kept elsewhere, in its own words. -/
  | stated (reason : String)
  deriving Repr, DecidableEq

namespace Violation

def message : Violation → String
  | emptyRocketId => "invalid rocket id provided: must not be empty"
  | malformedRocketId text cause => s!"invalid rocket id provided: {text} ({cause.message})"
  | shortRocketType text =>
      s!"invalid rocket type provided: {Text.quoted text} is shorter than 5 characters"
  | emptyMission => "invalid rocket mission provided: must not be empty"
  | launchSpeedOutOfRange speed =>
      s!"invalid rocket launch speed provided: {speed} is outside 0..=1000000"
  | speedChangeOutOfRange change =>
      s!"invalid rocket speed change provided: |{change}| exceeds 1000000"
  | unknownGuard text =>
      s!"unknown guard policy {Text.quoted text}, expected not-after or strictly-after"
  | missingLaunchTime => "rocket launch requires a message time"
  | negativeAmount amount => s!"speed change amount must not be negative, got {amount}"
  | stated reason => reason

end Violation

/-- Why the domain refused a request. -/
inductive Refusal where
  | notFound (id : String)
  | alreadyKnown (id : String)
  | brokenRule (violation : Violation)
  | storeFailed (reason : String)
  deriving Repr, DecidableEq

namespace Refusal

def message : Refusal → String
  | notFound id => s!"aggregate not found: {id}"
  | alreadyKnown id => s!"aggregate already exists: {id}"
  | brokenRule violation => s!"validation error: {violation.message}"
  | storeFailed reason => s!"infrastructure error: {reason}"

def severity : Refusal → Severity
  | storeFailed _ => .fatal
  | _ => .info

end Refusal

end MissionControl
