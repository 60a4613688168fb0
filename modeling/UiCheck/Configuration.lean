import UiCheck.Number.Digits
import UiCheck.Oracle.Client
import UiCheck.Run.Engine
import UiCheck.Text.Blank

/-! # Configuration

Settings have defaults, which environment variables override. A number that cannot be read counts as absent,
while a text counts even if it is empty.
-/

namespace UiCheck

/-- Variables with their values. -/
abbrev Environment := List (String × String)

namespace Environment

/-- The value of a variable that is set. -/
def value? (env : Environment) (name : String) : Option String :=
  List.lookup name env

/-- The value of a variable. -/
def text (env : Environment) (name missing : String) : String :=
  (env.value? name).getD missing

/-- The number that a text gives, with blanks around it. -/
def number? (bound : Nat) (text : String) : Option Nat :=
  Number.unsigned? 10 bound (Text.trim text.toList)

/-- The value of a variable as a natural number below a bound. -/
def number (env : Environment) (bound : Nat) (name : String) (missing : Nat) : Nat :=
  ((env.value? name).bind (number? bound)).getD missing

/-- The first value that is not blank. -/
def firstFilled (env : Environment) (names : List String) : Option String :=
  (names.filterMap env.value?).find? fun value => ! Text.allBlank value.toList

end Environment

/-- The layout of a project and its commands. -/
structure ProjectSettings where
  planFile : String
  maxIterations : Nat
  buildCommand : String
  devCommand : String
  /-- The file that is fixed when a build log names none. -/
  entryFile : String
  manifestFile : String
  deriving DecidableEq, Inhabited, Repr

/-- Times of a run, in milliseconds, and of the start of a server, in seconds. -/
structure TimeSettings where
  step : Nat
  reach : Nat
  network : Nat
  server : Nat
  deriving DecidableEq, Inhabited, Repr

/-- All settings. -/
structure Configuration where
  oracle : Oracle.Settings
  project : ProjectSettings
  times : TimeSettings
  /-- The directory that holds the sessions. -/
  sessionDir : String
  deriving DecidableEq, Inhabited, Repr

namespace Configuration

/-- The settings that environment variables give. -/
def ofEnvironment (env : Environment) : Configuration where
  oracle :=
    { endpoint := env.text "BOTINTERN_ORACLE_ENDPOINT"
        "https://generativelanguage.googleapis.com/v1beta/openai/chat/completions"
      model := env.text "BOTINTERN_ORACLE_MODEL" "gemini-3-flash-preview"
      apiKey := env.firstFilled ["BOTINTERN_API_KEY", "API_KEY"]
      maxTokens := env.number Number.word32 "BOTINTERN_ORACLE_MAX_TOKENS" 8192
      connectTimeout := env.number Number.word64 "BOTINTERN_ORACLE_CONNECT_TIMEOUT" 10
      activityTimeout := env.number Number.word64 "BOTINTERN_ORACLE_TIMEOUT" 120 }
  project :=
    { planFile := env.text "BOTINTERN_PLAN_FILE" "vibe.yaml"
      maxIterations := env.number Number.word32 "BOTINTERN_MAX_ITERATIONS" 5
      buildCommand := env.text "BOTINTERN_BUILD_COMMAND" "npm run build"
      devCommand := env.text "BOTINTERN_DEV_COMMAND" "npm run dev"
      entryFile := "app/page.tsx"
      manifestFile := "package.json" }
  times :=
    { step := env.number Number.word64 "BOTINTERN_STEP_TIMEOUT_MS" 5000
      reach := 3000
      network := 30000
      server := env.number Number.word64 "BOTINTERN_SERVER_TIMEOUT" 30 }
  sessionDir := env.text "BOTINTERN_SESSION_DIR" "/tmp/botintern"

/-- The settings without any variables. -/
def defaults : Configuration :=
  ofEnvironment []

/-- How plans of a project are run. -/
def runOptions (configuration : Configuration) (projectDir : String) : Run.Options where
  stepTimeout := configuration.times.step
  reachTimeout := configuration.times.reach
  navigationTimeout := configuration.times.network
  networkTimeout := configuration.times.network
  server :=
    { command := some configuration.project.devCommand
      workingDir := projectDir
      startupTimeout := 1000 * configuration.times.server }

end Configuration

end UiCheck
