/-
**Settings that are read once.**

The settings in force are read when they are first asked for and kept from then on, whatever
becomes of the environment, until they are dropped. Settings that are invalid are not kept. Each
time settings are read they get a serial number, which tells them from all others, even from
those with the same contents.
-/

import SignIn.Setup.Fault

namespace SignIn

/-- Settings as they were read at some time. -/
structure Edition where
  settings : Settings
  serial : Nat
deriving DecidableEq

/-- The environment, and the settings in force. -/
structure Configuration where
  environment : Settings.Environment
  inForce : Option Edition
  /-- How many settings have been read. -/
  editions : Nat

namespace Configuration

/-- An empty environment, in which no settings were read yet. -/
def start : Configuration := ⟨[], none, 0⟩

/-- Reads new settings from the environment. The settings in force do not change. -/
def readNew (configuration : Configuration) : Except SetupFault Edition × Configuration :=
  match (Settings.read ⟨configuration.environment, []⟩).outcome with
  | .ok settings =>
    (.ok ⟨settings, configuration.editions⟩,
      { configuration with editions := configuration.editions + 1 })
  | .error fault => (.error fault, configuration)

/-- The settings in force; they are read if there are none. -/
def settings (configuration : Configuration) : Except SetupFault Edition × Configuration :=
  match configuration.inForce with
  | some edition => (.ok edition, configuration)
  | none =>
    match configuration.readNew with
    | (.ok edition, later) => (.ok edition, { later with inForce := some edition })
    | (.error fault, later) => (.error fault, later)

/-- Drops the settings in force. -/
def drop (configuration : Configuration) : Configuration :=
  { configuration with inForce := none }

/-- Replaces the environment. -/
def enter (environment : Settings.Environment) (configuration : Configuration) : Configuration :=
  { configuration with environment := environment }

/-- What can be done with a configuration. -/
inductive Operation where
  | enter (environment : Settings.Environment)
  | drop
  | settings
  | readNew

/-- Performs an operation; the two that give settings answer. -/
def Operation.perform (configuration : Configuration) :
    Operation → Option (Except SetupFault Edition) × Configuration
  | .enter environment => (none, configuration.enter environment)
  | .drop => (none, configuration.drop)
  | .settings => configuration.settings.map some id
  | .readNew => configuration.readNew.map some id

/-- Performs operations one after the other. -/
def performAll : Configuration → List Operation → List (Option (Except SetupFault Edition))
  | _, [] => []
  | configuration, operation :: rest =>
    let (answer, later) := operation.perform configuration
    answer :: performAll later rest

end Configuration

end SignIn
