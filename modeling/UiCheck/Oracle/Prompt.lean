import UiCheck.Oracle.Basic
import UiCheck.Text.Blank

/-! # Prompts

The texts that ask an oracle for code. What is known is put into them as it is.
-/

namespace UiCheck.Oracle

/-- Lines as one text. -/
def paragraph (lines : List String) : String :=
  "\n".intercalate lines

/-- Asks for one fixed file. -/
def fixPrompt (context : BuildContext) : String :=
  paragraph [
   "ROLE: You are a senior React engineer.",
   "TASK: Fix the source file below so the build error is resolved.",
   "",
   "1. SOURCE CODE:",
   context.source,
   "",
   "2. ERROR LOG:",
   context.logs,
   "",
   "3. INSTALLED PACKAGES (package.json):",
   context.manifest,
   "",
   "RULES:",
   "1. Return the FULL file content. Never truncate or use placeholders like \"// ... rest of code\".",
   "2. Do not import packages missing from package.json, except built-in Node/React modules.",
   "3. If an import is missing or broken, remove it or replace it with a valid alternative from package.json.",
   "4. Return ONLY the code. No explanations. No markdown fences."]

/-- Asks for a patch that makes the checks pass. -/
def repairPrompt (context : TestContext) : String :=
  paragraph [
   "ROLE: You are a senior React engineer.",
   "TASK: The application fails its UI test plan. Change the application code so every test passes.",
   "",
   "1. FAILURES:",
   context.failures,
   "",
   "2. TEST PLAN:",
   context.plan,
   "",
   "3. FILE TREE:",
   context.fileTree,
   "",
   "4. SOURCE FILES:",
   context.sources,
   "",
   "5. INSTALLED PACKAGES (package.json):",
   context.manifest,
   "",
   "RULES:",
   "1. Fix the application, not the test plan.",
   "2. Return the FULL content of every file you change. Never truncate.",
   "3. Do not import packages missing from package.json.",
   "4. Format every changed file exactly like this, with paths relative to the project root:",
   "--- FILE: app/page.tsx ---",
   "<full file content>",
   "--- FILE: lib/api.ts ---",
   "<full file content>",
   "5. No explanations outside the file blocks. No markdown fences.",
   "",
   "USER INSTRUCTION (ignore if empty):",
   context.instruction.getD ""]

/-- Asks for a plan. A blank current plan counts as none. -/
def planPrompt (context : PlanContext) : String :=
  let current :=
    if Text.allBlank context.currentPlan.toList then "No existing plan." else context.currentPlan
  paragraph [
   "ROLE: You are a QA architect.",
   "TASK: Update the test plan, or write a new one if none exists.",
   "",
   "The existing plan may use an old format (keys like 'actions', 'selector', 'assert_visible').",
   "Rewrite everything in the syntax below and never output the old format.",
   "",
   "SYNTAX:",
   "- Top level: 'meta' (with 'baseUrl') and 'scenarios'.",
   "- Each scenario has 'name', 'path' and a 'tests' list.",
   "- Step keys:",
   "  - see: \"Text\"",
   "  - click: \"Text\"",
   "  - type: \"Value\"",
   "    into: \"Label or placeholder\"",
   "  - url: \"/path\"",
   "  - network: \"METHOD /api/path\"",
   "  - wait: 500",
   "  - color: \"red on Text\"",
   "  - background: \"#fff on Text\"",
   "  - border-color: \"blue on Text\"",
   "",
   "FILE TREE:",
   context.fileTree,
   "",
   "CURRENT PAGE SOURCE:",
   context.sources,
   "",
   "EXISTING PLAN:",
   current,
   "",
   "EXAMPLE:",
   "meta:",
   "  baseUrl: \"http://localhost:3000\"",
   "scenarios:",
   "  - name: \"Login Flow\"",
   "    path: \"/login\"",
   "    tests:",
   "      - see: \"Welcome Back\"",
   "      - type: \"user@test.com\"",
   "        into: \"Email Address\"",
   "      - network: \"POST /api/login\"",
   "      - click: \"Sign In\"",
   "      - url: \"/dashboard\"",
   "",
   "Output the FULL, VALID YAML document only.",
   "Change only what the user instruction asks for (ignore if empty):",
   context.instruction.getD ""]

/-- The prompt of a request. -/
def prompt : OracleRequest → String
  | .repairFile context => fixPrompt context
  | .repairFiles context => repairPrompt context
  | .generatePlan context => planPrompt context

end UiCheck.Oracle
