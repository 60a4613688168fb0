import UiCheck.Proofs.Page.Tracking

/-! # Recorded pages

A recorded page notes every call with what came of it, in order, and otherwise is the page that it records.
Forgetting the notes gives that page back, and what was noted before a call makes no difference to it.
-/

namespace UiCheck

/-- A step that also notes its answer. -/
def noted {σ κ α : Type} (note : α → κ) (step : σ → α × σ) : σ × List κ → α × (σ × List κ) := fun t =>
  ((step t.1).1, ((step t.1).2, t.2 ++ [note (step t.1).1]))

/-- A state beside which something is noted. -/
def beside {σ κ : Type} : Part (σ × κ) σ where
  get := Prod.fst
  put s t := (s, t.2)

theorem beside_lawful {σ κ : Type} : (beside : Part (σ × κ) σ).Lawful where
  get_put _ _ := rfl
  put_put _ _ _ := rfl

/-- A state with notes, behind earlier notes. -/
def behind {σ κ : Type} (earlier : List κ) (t : σ × List κ) : σ × List κ :=
  (t.1, earlier ++ t.2)

theorem noted_tracks {σ κ α : Type} (note : α → κ) (step : σ → α × σ) :
    Tracks Prod.fst (noted note step) step := fun _ => rfl

theorem noted_tracks_behind {σ κ α : Type} (earlier : List κ) (note : α → κ) (step : σ → α × σ) :
    Tracks (behind earlier) (noted note step) (noted note step) := by
  intro t
  simp only [noted, behind, List.append_assoc]

/-- A step that does the same behind any notes adds its own to those that are there. -/
theorem apply_behind {σ κ α : Type} {step : σ × List κ → α × (σ × List κ)} {earlier : List κ}
    (tracked : Tracks (behind earlier) step step) (s : σ) :
    step (s, earlier) = ((step (s, [])).1, behind earlier (step (s, [])).2) := by
  have shifted := tracked (s, [])
  rwa [behind, List.append_nil] at shifted

/-- What is asked of a page, listeners apart. -/
inductive PageRequest where
  | goto (url : String) (timeout : Nat)
  | isTextVisible (text : String)
  | waitForSelector (selector : String) (timeout : Nat)
  | selectorText (selector : String) (timeout : Nat)
  | clickText (text : String) (timeout : Nat)
  | countByLabel (label : String)
  | fillByLabel (label value : String)
  | countByPlaceholder (placeholder : String)
  | fillByPlaceholder (placeholder value : String)
  | fillSelector (selector value : String)
  | waitForUrl (fragment : String) (timeout : Nat)
  | computedStyle (text : String) (property : StyleProperty)
  | wait (ms : Nat)
  | close
  deriving DecidableEq

/-- A call to a page with listeners in `ω`, and what came of it. -/
inductive PageCall (ω : Type) where
  | asked (request : PageRequest) (fault : Option PageError)
  | armed (expected : Expectation) (timeout : Nat) (answer : Except PageError ω)
  | awaited (listener : ω) (answer : Except PageError Unit)

namespace PageCall

variable {ω : Type}

/-- The listener that the call handed out. -/
def armed? : PageCall ω → Option ω
  | .armed _ _ (.ok listener) => some listener
  | _ => none

/-- The listener that the call awaited. -/
def awaited? : PageCall ω → Option ω
  | .awaited listener _ => some listener
  | _ => none

/-- The call is a request, and no listener is involved. -/
def isAsked : PageCall ω → Bool
  | .asked .. => true
  | _ => false

/-- The call of a request with an answer. -/
def ofAnswer {α : Type} (request : PageRequest) : Except PageError α → PageCall ω
  | .ok _ => .asked request none
  | .error e => .asked request (some e)

@[simp] theorem isAsked_ofAnswer {α : Type} (request : PageRequest) (answer : Except PageError α) :
    (ofAnswer (ω := ω) request answer).isAsked = true := by
  cases answer <;> rfl

theorem armed?_of_isAsked {call : PageCall ω} (asked : call.isAsked = true) : call.armed? = none := by
  cases call with
  | asked _ _ => rfl
  | armed _ _ _ => cases asked
  | awaited _ _ => cases asked

theorem awaited?_of_isAsked {call : PageCall ω} (asked : call.isAsked = true) : call.awaited? = none := by
  cases call with
  | asked _ _ => rfl
  | armed _ _ _ => cases asked
  | awaited _ _ => cases asked

end PageCall

namespace Page

variable {σ ω : Type}

/-- The page with notes of its calls. -/
def recorded (page : Page σ ω) : Page (σ × List (PageCall ω)) ω where
  goto url timeout := noted (.ofAnswer (.goto url timeout)) (page.goto url timeout)
  isTextVisible text := noted (.ofAnswer (.isTextVisible text)) (page.isTextVisible text)
  waitForSelector selector timeout :=
    noted (.ofAnswer (.waitForSelector selector timeout)) (page.waitForSelector selector timeout)
  selectorText selector timeout :=
    noted (.ofAnswer (.selectorText selector timeout)) (page.selectorText selector timeout)
  clickText text timeout := noted (.ofAnswer (.clickText text timeout)) (page.clickText text timeout)
  countByLabel label := noted (.ofAnswer (.countByLabel label)) (page.countByLabel label)
  fillByLabel label value := noted (.ofAnswer (.fillByLabel label value)) (page.fillByLabel label value)
  countByPlaceholder placeholder :=
    noted (.ofAnswer (.countByPlaceholder placeholder)) (page.countByPlaceholder placeholder)
  fillByPlaceholder placeholder value :=
    noted (.ofAnswer (.fillByPlaceholder placeholder value)) (page.fillByPlaceholder placeholder value)
  fillSelector selector value :=
    noted (.ofAnswer (.fillSelector selector value)) (page.fillSelector selector value)
  waitForUrl fragment timeout := noted (.ofAnswer (.waitForUrl fragment timeout)) (page.waitForUrl fragment timeout)
  computedStyle text property :=
    noted (.ofAnswer (.computedStyle text property)) (page.computedStyle text property)
  expectResponse expected timeout := noted (.armed expected timeout) (page.expectResponse expected timeout)
  await listener := noted (.awaited listener) (page.await listener)
  settled? listener t := page.settled? listener t.1
  wait ms := noted (.ofAnswer (.wait ms)) (page.wait ms)
  close := noted (.ofAnswer .close) page.close
  sourceType := page.sourceType

/-- Without its notes a recorded page is the page. -/
theorem recorded_tracks (page : Page σ ω) : page.recorded.Tracks Prod.fst page where
  goto _ _ := noted_tracks _ _
  isTextVisible _ := noted_tracks _ _
  waitForSelector _ _ := noted_tracks _ _
  selectorText _ _ := noted_tracks _ _
  clickText _ _ := noted_tracks _ _
  countByLabel _ := noted_tracks _ _
  fillByLabel _ _ := noted_tracks _ _
  countByPlaceholder _ := noted_tracks _ _
  fillByPlaceholder _ _ := noted_tracks _ _
  fillSelector _ _ := noted_tracks _ _
  waitForUrl _ _ := noted_tracks _ _
  computedStyle _ _ := noted_tracks _ _
  expectResponse _ _ := noted_tracks _ _
  await _ := noted_tracks _ _
  settled? _ _ := rfl
  wait _ := noted_tracks _ _

/-- Earlier notes make no difference. -/
theorem recorded_tracks_behind (page : Page σ ω) (earlier : List (PageCall ω)) :
    page.recorded.Tracks (behind earlier) page.recorded where
  goto _ _ := noted_tracks_behind _ _ _
  isTextVisible _ := noted_tracks_behind _ _ _
  waitForSelector _ _ := noted_tracks_behind _ _ _
  selectorText _ _ := noted_tracks_behind _ _ _
  clickText _ _ := noted_tracks_behind _ _ _
  countByLabel _ := noted_tracks_behind _ _ _
  fillByLabel _ _ := noted_tracks_behind _ _ _
  countByPlaceholder _ := noted_tracks_behind _ _ _
  fillByPlaceholder _ _ := noted_tracks_behind _ _ _
  fillSelector _ _ := noted_tracks_behind _ _ _
  waitForUrl _ _ := noted_tracks_behind _ _ _
  computedStyle _ _ := noted_tracks_behind _ _ _
  expectResponse _ _ := noted_tracks_behind _ _ _
  await _ := noted_tracks_behind _ _ _
  settled? _ _ := rfl
  wait _ := noted_tracks_behind _ _ _

end Page

/-- Between two states only requests were noted. -/
def AsksOnly {σ ω : Type} (t t' : σ × List (PageCall ω)) : Prop :=
  ∃ calls, t'.2 = t.2 ++ calls ∧ ∀ call ∈ calls, call.isAsked = true

namespace AsksOnly

variable {σ ω : Type}

theorem refl (t : σ × List (PageCall ω)) : AsksOnly t t :=
  ⟨[], (List.append_nil _).symm, fun _ member => absurd member List.not_mem_nil⟩

theorem trans (t₁ t₂ t₃ : σ × List (PageCall ω)) (first : AsksOnly t₁ t₂) (second : AsksOnly t₂ t₃) :
    AsksOnly t₁ t₃ := by
  obtain ⟨calls, noted, asked⟩ := first
  obtain ⟨more, later, askedLater⟩ := second
  refine ⟨calls ++ more, by rw [later, noted, List.append_assoc], fun call member => ?_⟩
  rcases List.mem_append.mp member with member | member
  · exact asked call member
  · exact askedLater call member

theorem noted {α : Type} (request : PageRequest) (act : Act σ α) (t : σ × List (PageCall ω)) :
    AsksOnly t (UiCheck.noted (.ofAnswer request) act t).2 := by
  refine ⟨_, rfl, fun call member => ?_⟩
  rw [List.mem_singleton.mp member]
  exact PageCall.isAsked_ofAnswer request _

end AsksOnly

end UiCheck
