import RunHerald.Notification.Payload
import RunHerald.Telemetry

/-!
# Dispatching a payload

Handing a payload to a sink is reported and counted by its result. `dispatchEvents` are the events
of one delivery that was not given up.
-/

set_option autoImplicit false

namespace RunHerald

/-- The result of a delivery. -/
abbrev DeliveryResult := Except DeliveryError Unit

/-- The kind of a result, for the counter of deliveries. -/
def deliveryLabel : DeliveryResult → String
  | .ok _ => "delivered"
  | .error e => e.label

/-- The report on a result. -/
def deliveryReport (sink : String) (payload : Payload) : DeliveryResult → Report
  | .ok _ => .delivered sink payload.fingerprint payload.results.length
  | .error e =>
    if e.isRejected then .rejected sink payload.fingerprint e else .undelivered sink e

/-- The events of a delivery. -/
def dispatchEvents (sink : String) (payload : Payload) (result : DeliveryResult) : List Event :=
  [.metric (.notification (deliveryLabel result)), .report (deliveryReport sink payload result)]

/-- The description of whatever dispatches to a sink. -/
def describeDispatcher (sink : String) : String :=
  "NotificationDispatcher \x7b sink: " ++ Quoted.write sink ++ ", .. \x7d"

end RunHerald
