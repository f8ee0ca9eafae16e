import Kata.Json.Direct
import Kata.Settings.Basic

/-!
# Settings files

Settings are read from a JSON file. What it does not say has its default, and the environment
overrides what it says.
-/

namespace Kata.Settings

open Json

/-! ## Records -/

/-- The record of how the judge is reached. -/
def Judge.record : DirectRecord Judge where
  title := "Judge0Config"
  blank := Judge.standard
  fields :=
    [.text "base_url" true fun baseUrl judge => { judge with baseUrl },
     .optionalText "api_key" fun apiKey? judge => { judge with apiKey? },
     .optionalText "rapidapi_host" fun gatewayHost? judge => { judge with gatewayHost? }]

/-- The record of how often the judge is asked. -/
def Polling.record : DirectRecord Polling where
  title := "PollingConfig"
  blank := Polling.standard
  fields :=
    [.word32 "max_attempts" fun maxAttempts polling => { polling with maxAttempts },
     .word64 "initial_delay_ms" fun initialDelay polling => { polling with initialDelay },
     .word64 "max_delay_ms" fun maxDelay polling => { polling with maxDelay }]

/-- The record of how long a program may take. -/
def Limits.record : DirectRecord Limits where
  title := "LocalConfig"
  blank := Limits.standard
  fields :=
    [.word64 "run_timeout_ms" fun runTimeout limits => { limits with runTimeout },
     .word64 "compile_timeout_ms" fun compileTimeout limits => { limits with compileTimeout }]

/-- The record of all settings. -/
def record : DirectRecord Settings where
  title := "PolyjudgeConfig"
  blank := Settings.standard
  fields :=
    [.nested "judge0" Judge.record fun judge settings => { settings with judge },
     .nested "polling" Polling.record fun polling settings => { settings with polling },
     .nested "local" Limits.record fun limits settings => { settings with limits }]

/-! ## Loading -/

/-- Why settings cannot be loaded. -/
inductive LoadError where
  /-- The file cannot be read. -/
  | unreadable (reason : Text)
  | malformed (text : Text) (fault : Json.Fault)
  | invalid (reason : Invalid)

/-- The wording of the reason. -/
def LoadError.message : LoadError → Text
  | unreadable reason => "IO error: " ++ reason
  | malformed text fault => "JSON error: " ++ fault.message text
  | invalid reason => reason.message

/-- Settings as they are used: overridden by the environment, and checked. -/
def checked (lookup : Text → Option Text) (settings : Settings) : Except LoadError Settings :=
  let settings := settings.override lookup
  match settings.invalid? with
  | some reason => .error (.invalid reason)
  | none => .ok settings

/-- The settings of a file, or the default without a file. The content of a file that cannot be
read is the reason why. -/
def load (lookup : Text → Option Text) : Option (Except Text Text) → Except LoadError Settings
  | none => checked lookup standard
  | some (.error reason) => .error (.unreadable reason)
  | some (.ok text) =>
    match record.readText text with
    | .error fault => .error (.malformed text fault)
    | .ok settings => checked lookup settings

/-! ## JSON -/

/-- A text or null. -/
def textOrNull (text : Option Text) : Json :=
  Json.ofOption (text.map Json.string)

/-- Settings in JSON. -/
def toJson (settings : Settings) : Json :=
  .object
    [("judge0", .object
      [("base_url", .string settings.judge.baseUrl),
       ("api_key", textOrNull settings.judge.apiKey?),
       ("rapidapi_host", textOrNull settings.judge.gatewayHost?)]),
     ("polling", .object
      [("max_attempts", .int settings.polling.maxAttempts.toNat),
       ("initial_delay_ms", .int settings.polling.initialDelay.toNat),
       ("max_delay_ms", .int settings.polling.maxDelay.toNat)]),
     ("local", .object
      [("run_timeout_ms", .int settings.limits.runTimeout.toNat),
       ("compile_timeout_ms", .int settings.limits.compileTimeout.toNat)])]

end Kata.Settings
