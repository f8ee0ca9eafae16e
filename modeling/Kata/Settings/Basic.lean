import Kata.Text.Basic

/-!
# Settings

How a judge is reached, how often it is asked for an outcome, and how long a program may run.
-/

namespace Kata

/-- How the judge is reached. -/
structure Settings.Judge where
  baseUrl : Text
  apiKey? : Option Text
  gatewayHost? : Option Text
deriving DecidableEq, Repr

/-- How often the judge is asked for an outcome, and how long to wait between. -/
structure Settings.Polling where
  maxAttempts : UInt32
  initialDelay : UInt64
  maxDelay : UInt64
deriving DecidableEq, Repr

/-- How long a program may take to compile and to run, in milliseconds. -/
structure Settings.Limits where
  runTimeout : UInt64
  compileTimeout : UInt64
deriving DecidableEq, Repr

/-- All settings. -/
structure Settings where
  judge : Settings.Judge
  polling : Settings.Polling
  limits : Settings.Limits
deriving DecidableEq, Repr

namespace Settings

/-! ## Defaults -/

/-- The judge on the same machine. -/
def Judge.standard : Judge := ⟨"http://localhost:2358", none, none⟩

/-- Twenty attempts, from a quarter of a second up to two seconds apart. -/
def Polling.standard : Polling := ⟨20, 250, 2000⟩

/-- Five seconds to run, and half a minute to compile. -/
def Limits.standard : Limits := ⟨5000, 30000⟩

/-- The settings where nothing is said. -/
def standard : Settings := ⟨Judge.standard, Polling.standard, Limits.standard⟩

/-! ## Delays -/

/-- The delay ahead of an attempt, counted from zero: it doubles with each of the first 32
attempts, and never exceeds the greatest delay or 64 bits. -/
def Polling.delay (polling : Polling) (attempt : UInt32) : UInt64 :=
  let doubled := polling.initialDelay.toNat <<< min attempt.toNat 32
  UInt64.ofNat (min (min doubled (UInt64.size - 1)) polling.maxDelay.toNat)

/-! ## The environment -/

/-- The settings that variables of the environment override. -/
def override (lookup : Text → Option Text) (settings : Settings) : Settings :=
  let judge := settings.judge
  { settings with
    judge :=
      { baseUrl := (lookup "JUDGE0_URL").getD judge.baseUrl
        apiKey? := (lookup "JUDGE0_API_KEY").or judge.apiKey?
        gatewayHost? := (lookup "JUDGE0_RAPIDAPI_HOST").or judge.gatewayHost? } }

/-! ## Validity -/

/-- Why settings cannot be used. -/
inductive Invalid where
  | noAttempts
  | initialDelayTooLong
deriving DecidableEq, Repr

/-- The wording of the reason. -/
def Invalid.message : Invalid → Text
  | noAttempts => "Config error: polling.max_attempts must be at least 1"
  | initialDelayTooLong =>
    "Config error: polling.initial_delay_ms exceeds polling.max_delay_ms"

/-- The first reason why settings cannot be used. -/
def invalid? (settings : Settings) : Option Invalid :=
  if settings.polling.maxAttempts = 0 then some .noAttempts
  else if settings.polling.maxDelay < settings.polling.initialDelay then
    some .initialDelayTooLong
  else none

end Settings

end Kata
