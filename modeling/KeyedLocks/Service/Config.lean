/-
The settings of a server.

A setting comes from a variable of the environment or has a default. A number may
stand between blanks; a message about a bad one shows the variable as it was
given.
-/
import KeyedLocks.Text.Blank
import KeyedLocks.Text.Digits
import KeyedLocks.Lock.Duration

set_option autoImplicit false

namespace KeyedLocks

/-- Where a server listens, and how many seconds requests in flight may still run
after it was told to stop. -/
structure ServerConfig where
  host : String := "0.0.0.0"
  port : UInt16 := 3000
  graceSeconds : UInt64 := 5
  deriving DecidableEq, Repr

/-- A variable whose value cannot be used. -/
structure ConfigError where
  variableName : String
  value : String
  reason : Text.DigitFault
  deriving DecidableEq, Repr

/-- The wording of a bad setting. -/
def ConfigError.message (e : ConfigError) : String :=
  "invalid value '" ++ e.value ++ "' for " ++ e.variableName ++ ": " ++ e.reason.message

namespace ServerConfig

/-- The number of a variable, blanks around it cut off. -/
def readNumber (bounds : Text.Bounds) (variableName value : String) : Except ConfigError Int :=
  match Text.readInteger bounds (Text.trimChars value.toList) with
  | .ok i => .ok i
  | .error reason => .error ⟨variableName, value, reason⟩

/-- The settings that the variables give. Of two bad ones the port is reported. -/
def ofLookup (lookup : String → Option String) : Except ConfigError ServerConfig := do
  let config : ServerConfig := {}
  let config :=
    match lookup "EASYLOCK_HOST" with
    | none => config
    | some host => { config with host }
  let config ←
    match lookup "EASYLOCK_PORT" with
    | none => pure config
    | some value => do
      let i ← readNumber (.word 16) "EASYLOCK_PORT" value
      pure { config with port := UInt16.ofNat i.toNat }
  match lookup "EASYLOCK_SHUTDOWN_GRACE_SECS" with
  | none => pure config
  | some value => do
    let i ← readNumber (.word 64) "EASYLOCK_SHUTDOWN_GRACE_SECS" value
    pure { config with graceSeconds := UInt64.ofNat i.toNat }

/-- The address to listen on. -/
def bindAddress (c : ServerConfig) : String := c.host ++ ":" ++ toString c.port.toNat

/-- The grace period in nanoseconds. -/
def grace (c : ServerConfig) : Nat := c.graceSeconds.toNat * second

/-- Without variables the settings are the defaults. -/
theorem ofLookup_none : ofLookup (fun _ => none) = .ok {} := rfl

end ServerConfig

end KeyedLocks
