import SmartHelmet.Session.Settings
/-!
# Simulator configuration

Everything the simulator is configured with: how to reach the broker, how to reach the status
service, the session's settings, and an optional seed for the random source. Each part has the
defaults of a helmet that nothing was configured for.
-/

namespace SmartHelmet

open SmartHelmet.Clock

/-- How to reach and talk to the broker. -/
structure BrokerSettings where
  url : String := "mqtt://localhost:1883"
  clientId : String := "SmartHelmetSim"
  username : Option String := none
  password : Option String := none
  /-- Seconds between keep-alive pings. -/
  keepAlive : Nat := 60
  connectTimeout : Millis := 10000
  ackTimeout : Millis := 10000

/-- How to reach the status service. -/
structure ServiceSettings where
  baseUrl : String := "http://localhost/api/fast"
  timeout : Millis := 10000

/-- The whole configuration of the simulator. -/
structure Config where
  broker : BrokerSettings := {}
  service : ServiceSettings := {}
  session : Session.Settings := {}
  seed : Option Nat := none

end SmartHelmet
