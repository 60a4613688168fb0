import UiCheck.Browser.Helper
import UiCheck.Oracle.Client
import UiCheck.Page.Basic
import UiCheck.Server.Start

/-! # Parts of a state

What works on a state works on any state of which that one is a part, and leaves the rest alone.
-/

namespace UiCheck

/-- A part in `σ` of states in `τ`. -/
structure Part (τ σ : Type) where
  get : τ → σ
  put : σ → τ → τ

namespace Part

variable {τ σ ω α : Type}

/-- Works on the part. -/
def on (part : Part τ σ) (step : σ → α × σ) (t : τ) : α × τ :=
  let (answer, s) := step (part.get t)
  (answer, part.put s t)

/-- The oracle on the whole state. -/
def oracle (part : Part τ σ) (oracle : Oracle σ) : Oracle τ where
  ask request := part.on (oracle.ask request)

/-- The transfer program on the whole state. -/
def courier (part : Part τ σ) (courier : Oracle.Courier σ) : Oracle.Courier τ where
  transfer arguments body := part.on (courier.transfer arguments body)

/-- The helper program on the whole state. -/
def helper (part : Part τ σ) (helper : Browser.Helper σ) : Browser.Helper τ where
  start directory settings := part.on (helper.start directory settings)
  send line := part.on (helper.send line)
  stop t := part.put (helper.stop (part.get t)) t
  install directory := part.on (helper.install directory)

/-- The host on the whole state. -/
def host (part : Part τ σ) (host : Server.Host σ) : Server.Host τ where
  spawn command workingDir := part.on (host.spawn command workingDir)
  accepts address deadline interval := part.on (host.accepts address deadline interval)

/-- The page on the whole state. -/
def page (part : Part τ σ) (page : Page σ ω) : Page τ ω where
  goto url timeout := part.on (page.goto url timeout)
  isTextVisible text := part.on (page.isTextVisible text)
  waitForSelector selector timeout := part.on (page.waitForSelector selector timeout)
  selectorText selector timeout := part.on (page.selectorText selector timeout)
  clickText text timeout := part.on (page.clickText text timeout)
  countByLabel label := part.on (page.countByLabel label)
  fillByLabel label value := part.on (page.fillByLabel label value)
  countByPlaceholder placeholder := part.on (page.countByPlaceholder placeholder)
  fillByPlaceholder placeholder value := part.on (page.fillByPlaceholder placeholder value)
  fillSelector selector value := part.on (page.fillSelector selector value)
  waitForUrl fragment timeout := part.on (page.waitForUrl fragment timeout)
  computedStyle text property := part.on (page.computedStyle text property)
  expectResponse expected timeout := part.on (page.expectResponse expected timeout)
  await listener := part.on (page.await listener)
  settled? listener t := page.settled? listener (part.get t)
  wait ms := part.on (page.wait ms)
  close := part.on page.close
  sourceType := page.sourceType

end Part

end UiCheck
