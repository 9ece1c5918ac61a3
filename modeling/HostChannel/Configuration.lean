import HostChannel.Text.Blank
import HostChannel.Text.Decimal
import HostChannel.Text.LetterCase
import HostChannel.Timeout

/-!
# Configuration

What to open and how: which backends may be used, how long a wait lasts when nothing else
is said, and how the simulated device behaves. Named settings override a configuration;
a setting that cannot be read leaves it as it is.
-/

namespace HostChannel

/-- Which backends may be opened. -/
inductive Preference where
  /-- Any backend. -/
  | automatic
  /-- The backend of the name only. -/
  | named (name : String)
  deriving DecidableEq, Repr

namespace Preference

/-- The preference that a setting spells: blank or `auto` for any backend, else a name in
lower case. -/
def parse (setting : String) : Preference :=
  let name := Text.Blank.trim setting
  if name.isEmpty || Text.LetterCase.sameIgnoringCase name "auto" then .automatic
  else .named (Text.LetterCase.lower name)

/-- A backend may be opened under the preference. -/
def allows (preference : Preference) (backend : String) : Bool :=
  match preference with
  | .automatic => true
  | .named name => Text.LetterCase.sameIgnoringCase name backend

end Preference

/-- When the simulated device executes what it accepts. -/
inductive Completion where
  /-- Before the submission returns. -/
  | immediate
  /-- When it is told to. -/
  | deferred
  deriving DecidableEq, Repr

/-- How the simulated device behaves. -/
structure SimulatorSettings where
  /-- When it executes what it accepts. -/
  completion : Completion
  /-- How many syncpoints it has. -/
  syncpoints : Word
  /-- How many syncpoints belong to each channel. -/
  syncpointsPerChannel : Word
  deriving DecidableEq, Repr

/-- Executes at once, with thirty-two syncpoints and one for each channel. -/
def SimulatorSettings.standard : SimulatorSettings :=
  ⟨.immediate, 32, 1⟩

/-- What to open and how. -/
structure Configuration where
  /-- Which backends may be opened. -/
  backend : Preference
  /-- How long a job is waited for when nothing else is said. -/
  defaultTimeout : Timeout
  /-- How the simulated device behaves. -/
  simulator : SimulatorSettings
  deriving DecidableEq, Repr

namespace Configuration

/-- Any backend, no limit on waiting, and the standard simulated device. -/
def standard : Configuration :=
  ⟨.automatic, .standard, .standard⟩

/-- The setting that names the preferred backend. -/
def backendSetting : String := "GRATE_BACKEND"
/-- The setting that limits waiting, in milliseconds. -/
def timeoutSetting : String := "GRATE_WAIT_TIMEOUT_MS"
/-- The setting that makes the simulated device execute when it is told to. -/
def deferredSetting : String := "GRATE_DUMMY_DEFERRED"

/-- A setting that says yes. -/
def affirms (setting : String) : Bool :=
  let answer := Text.Blank.trim setting
  ["1", "true", "yes", "on"].any (Text.LetterCase.sameIgnoringCase answer)

/-- The configuration with the settings that the lookup knows. -/
def withOverrides (configuration : Configuration) (lookup : String → Option String) :
    Configuration :=
  let backend := match lookup backendSetting with
    | some setting => Preference.parse setting
    | none => configuration.backend
  let defaultTimeout :=
    match (lookup timeoutSetting).bind fun setting => Text.Decimal.word? (Text.Blank.trim setting) with
    | some milliseconds => Timeout.ofRawMilliseconds milliseconds
    | none => configuration.defaultTimeout
  let completion :=
    if (lookup deferredSetting).any affirms then .deferred else configuration.simulator.completion
  { backend, defaultTimeout, simulator := { configuration.simulator with completion } }

end Configuration

end HostChannel
