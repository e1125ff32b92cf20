import ZoneStore.Fault
import ZoneStore.Network.SocketAddress.Reader
import ZoneStore.Text.AsciiCase
import ZoneStore.Text.Blank

/-!
# Settings

The settings of the backend, read from environment variables. A variable that is not set stands for
its default; of two faulty variables the pool size is reported.
-/

set_option autoImplicit false

namespace ZoneStore

/-- The settings of the backend. -/
structure Settings where
  /-- The path of the database file. -/
  dbPath : String
  /-- Whether the signing mode is on. -/
  dnssec : Bool
  /-- The greatest number of connections. -/
  poolSize : UInt32
  /-- The address at which metrics are served, if they are. -/
  metricsBind : Option SocketAddress
deriving DecidableEq, Repr

/-- The environment variables of the settings, as far as they are set. -/
structure Environment where
  /-- The variable `DNS_DB_PATH`. -/
  dbPath : Option String
  /-- The variable `DNS_DNSSEC`. -/
  dnssec : Option String
  /-- The variable `DNS_POOL_SIZE`. -/
  poolSize : Option String
  /-- The variable `DNS_METRICS_BIND`. -/
  metricsBind : Option String
deriving DecidableEq, Repr

namespace Settings

/-- The settings for variables that are not set. -/
def default : Settings := ⟨"pdns.db", false, 8, none⟩

/-- Whether a text switches something on: `1`, or `true` in any ASCII case. -/
def readFlag (text : String) : Bool :=
  let text := Text.trim text
  text == "1" || Text.agree text "true"

/-- Reads the pool size, which is at least one. -/
def readPoolSize : Option String → Except Fault UInt32
  | none => .ok default.poolSize
  | some text =>
    match Text.Decimal.read .unsigned32 (Text.trim text) with
    | .error _ => .error (.configuration ("Invalid DNS_POOL_SIZE: " ++ text))
    | .ok 0 => .error (.configuration "DNS_POOL_SIZE must be at least 1")
    | .ok n => .ok (UInt32.ofNat n.toNat)

/-- Reads the address at which metrics are served; a blank text stands for none. -/
def readMetricsBind : Option String → Except Fault (Option SocketAddress)
  | none => .ok none
  | some text =>
    let text := Text.trim text
    if text.isEmpty then .ok none
    else match SocketAddress.ofText? text with
      | some address => .ok (some address)
      | none => .error (.configuration "Invalid DNS_METRICS_BIND address")

/-- Reads the settings from the environment. -/
def ofEnvironment (env : Environment) : Except Fault Settings := do
  let poolSize ← readPoolSize env.poolSize
  let metricsBind ← readMetricsBind env.metricsBind
  .ok {
    dbPath := env.dbPath.getD default.dbPath
    dnssec := env.dnssec.any readFlag
    poolSize := poolSize
    metricsBind := metricsBind }

end Settings

end ZoneStore
