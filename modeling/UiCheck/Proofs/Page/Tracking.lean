import UiCheck.Part

/-! # Tracked steps

A step on states in `τ` tracks a step on states in `σ` along a view of the states if it gives the same answers
and leaves states behind that look the same. A page tracks another one if each of its operations does.
That a part works on the whole state as it works on its own is one case, and that a page notes what it is
asked is another.
-/

namespace UiCheck

/-- The upper step answers like the lower one and leaves a state behind that looks like the lower one's. -/
def Tracks {τ σ α : Type} (view : τ → σ) (upper : τ → α × τ) (lower : σ → α × σ) : Prop :=
  ∀ t, lower (view t) = ((upper t).1, view (upper t).2)

/-- Each operation of the upper page tracks the one of the lower page. -/
structure Page.Tracks {τ σ ω : Type} (view : τ → σ) (upper : Page τ ω) (lower : Page σ ω) : Prop where
  goto (url : String) (timeout : Nat) : UiCheck.Tracks view (upper.goto url timeout) (lower.goto url timeout)
  isTextVisible (text : String) : UiCheck.Tracks view (upper.isTextVisible text) (lower.isTextVisible text)
  waitForSelector (selector : String) (timeout : Nat) :
    UiCheck.Tracks view (upper.waitForSelector selector timeout) (lower.waitForSelector selector timeout)
  selectorText (selector : String) (timeout : Nat) :
    UiCheck.Tracks view (upper.selectorText selector timeout) (lower.selectorText selector timeout)
  clickText (text : String) (timeout : Nat) :
    UiCheck.Tracks view (upper.clickText text timeout) (lower.clickText text timeout)
  countByLabel (label : String) : UiCheck.Tracks view (upper.countByLabel label) (lower.countByLabel label)
  fillByLabel (label value : String) :
    UiCheck.Tracks view (upper.fillByLabel label value) (lower.fillByLabel label value)
  countByPlaceholder (placeholder : String) :
    UiCheck.Tracks view (upper.countByPlaceholder placeholder) (lower.countByPlaceholder placeholder)
  fillByPlaceholder (placeholder value : String) :
    UiCheck.Tracks view (upper.fillByPlaceholder placeholder value) (lower.fillByPlaceholder placeholder value)
  fillSelector (selector value : String) :
    UiCheck.Tracks view (upper.fillSelector selector value) (lower.fillSelector selector value)
  waitForUrl (fragment : String) (timeout : Nat) :
    UiCheck.Tracks view (upper.waitForUrl fragment timeout) (lower.waitForUrl fragment timeout)
  computedStyle (text : String) (property : StyleProperty) :
    UiCheck.Tracks view (upper.computedStyle text property) (lower.computedStyle text property)
  expectResponse (expected : Expectation) (timeout : Nat) :
    UiCheck.Tracks view (upper.expectResponse expected timeout) (lower.expectResponse expected timeout)
  await (listener : ω) : UiCheck.Tracks view (upper.await listener) (lower.await listener)
  settled? (listener : ω) (t : τ) : lower.settled? listener (view t) = upper.settled? listener t
  wait (ms : Nat) : UiCheck.Tracks view (upper.wait ms) (lower.wait ms)

/-- Each operation of the upper host tracks the one of the lower host. -/
structure Server.Host.Tracks {τ σ : Type} (view : τ → σ) (upper : Server.Host τ) (lower : Server.Host σ) :
    Prop where
  spawn (command workingDir : String) :
    UiCheck.Tracks view (upper.spawn command workingDir) (lower.spawn command workingDir)
  accepts (address : Server.Address) (deadline interval : Nat) :
    UiCheck.Tracks view (upper.accepts address deadline interval) (lower.accepts address deadline interval)

namespace Part

variable {τ σ ω α : Type} {part : Part τ σ}

/-- What is put into a state is found there, and it replaces what was put there before. -/
structure Lawful (part : Part τ σ) : Prop where
  get_put (s : σ) (t : τ) : part.get (part.put s t) = s
  put_put (s' s : σ) (t : τ) : part.put s' (part.put s t) = part.put s' t

/-- A step on a part works on the whole state as it works on its own, whatever the rest of the state is. -/
theorem Lawful.on_tracks (lawful : part.Lawful) (t : τ) (step : σ → α × σ) :
    Tracks (part.put · t) step (part.on step) := by
  intro s
  simp only [Part.on, lawful.get_put, lawful.put_put]

theorem Lawful.page_tracks (lawful : part.Lawful) (t : τ) (page : Page σ ω) :
    Page.Tracks (part.put · t) page (part.page page) where
  goto _ _ := lawful.on_tracks t _
  isTextVisible _ := lawful.on_tracks t _
  waitForSelector _ _ := lawful.on_tracks t _
  selectorText _ _ := lawful.on_tracks t _
  clickText _ _ := lawful.on_tracks t _
  countByLabel _ := lawful.on_tracks t _
  fillByLabel _ _ := lawful.on_tracks t _
  countByPlaceholder _ := lawful.on_tracks t _
  fillByPlaceholder _ _ := lawful.on_tracks t _
  fillSelector _ _ := lawful.on_tracks t _
  waitForUrl _ _ := lawful.on_tracks t _
  computedStyle _ _ := lawful.on_tracks t _
  expectResponse _ _ := lawful.on_tracks t _
  await _ := lawful.on_tracks t _
  settled? _ _ := by simp only [Part.page, lawful.get_put]
  wait _ := lawful.on_tracks t _

theorem Lawful.host_tracks (lawful : part.Lawful) (t : τ) (host : Server.Host σ) :
    Server.Host.Tracks (part.put · t) host (part.host host) where
  spawn _ _ := lawful.on_tracks t _
  accepts _ _ _ := lawful.on_tracks t _

end Part

end UiCheck
