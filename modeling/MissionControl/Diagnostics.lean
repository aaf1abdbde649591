import MissionControl.Http.Service

/-!
# Diagnostics

How the parts of the service are shown to an operator: as records with named fields, where two
dots stand for what is not shown.
-/

namespace MissionControl
namespace Diagnostics

/-! ## Records -/

def others : String := ".."

def field (name value : String) : String := s!"{name}: {value}"

def record (name : String) (entries : List String) : String :=
  name ++ " \x7b " ++ Text.commaSeparated entries ++ " \x7d"

def list (items : List String) : String :=
  "[" ++ Text.commaSeparated items ++ "]"

def optional : Option String → String
  | some text => s!"Some({Text.quoted text})"
  | none => "None"

/-! ## Parts of the service -/

def bus {ι ο : Type} (bus : Bus ι ο) : String :=
  record "Bus" [field "handlers" (list (bus.types.map Text.quoted))]

def mutex (m : Mutex) : String :=
  let options := record "MutexOptions" [field "expiry" m.expiry.text,
    field "retries" (toString m.retries), field "retry_delay" m.retryPause.text,
    field "timeout_factor" (m.attemptShare.write .diagnostic),
    field "service_prefix" (optional m.service)]
  record "MutexService" [field "options" options, others]

def processor (p : Processor) : String :=
  record "MessageProcessor" [field "events" (bus p.bus), field "mutex" (mutex p.mutex),
    field "dedup_ttl" p.retention.text, others]

def service (s : Service) : String :=
  record "AppState" [field "processor" (processor s.processor),
    field "queries" (bus s.queries)]

def guard : Guard → String
  | .notAfter => "NotAfter"
  | .strictlyAfter => "StrictlyAfter"

def updater (g : Guard) : String :=
  record "RocketUpdater" [field "guard" (guard g), others]

def eventHandler : EventHandler → String
  | .creation =>
      record "CreateRocketOnRocketLaunched" [field "creator" (record "RocketCreator" [others])]
  | .deletion g => record "DeleteRocketOnRocketExploded" [field "updater" (updater g)]
  | .parameters g => record "UpdateRocketOnRocketParamsChanged" [field "updater" (updater g)]

def leases : String := record "InMemoryLockStore" [others]

def claimRecords : String := record "InMemoryDeduplicator" [others]

end Diagnostics
end MissionControl
