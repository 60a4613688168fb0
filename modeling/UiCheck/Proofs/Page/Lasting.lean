import Mathlib.Data.List.Forall2
import UiCheck.Proofs.Page.Awaiting
import UiCheck.Proofs.Run.Moving

/-! # What lasts on a page in memory

`Does` lists what a page can do when something happens to it, and whether it refuses. From the list one reads off that
elements keep their places and what they are found by, that none of them becomes hidden, and that the history grows at
its end: `Lasts` holds of one happening, and so of every history. A text that is visible therefore stays visible and
can be clicked. What is refused changes neither elements nor address nor listeners. A plan that is run on the page
makes such a history as well, whatever the machine does that starts the server.
-/

namespace UiCheck

/-- The element is found as before, does what it did, and is not hidden if it was visible. -/
structure Element.Lasts (before after : Element) : Prop where
  text : after.text = before.text
  selector : after.selector = before.selector
  label : after.label = before.label
  placeholder : after.placeholder = before.placeholder
  styles : after.styles = before.styles
  onClick : after.onClick = before.onClick
  onFill : after.onFill = before.onFill
  visible : before.isVisible = true → after.isVisible = true

namespace Element.Lasts

variable {a b c : Element}

theorem refl (element : Element) : element.Lasts element :=
  ⟨rfl, rfl, rfl, rfl, rfl, rfl, rfl, id⟩

theorem trans (first : a.Lasts b) (second : b.Lasts c) : a.Lasts c where
  text := second.text.trans first.text
  selector := second.selector.trans first.selector
  label := second.label.trans first.label
  placeholder := second.placeholder.trans first.placeholder
  styles := second.styles.trans first.styles
  onClick := second.onClick.trans first.onClick
  onFill := second.onFill.trans first.onFill
  visible := second.visible ∘ first.visible

theorem shows (lasts : a.Lasts b) (text : String) : b.shows text = a.shows text := by
  rw [Element.shows, lasts.text, Element.shows]

end Element.Lasts

/-! ## Lists of elements -/

section

variable {before middle after : List Element}

theorem forall₂_lasts_refl (elements : List Element) : List.Forall₂ Element.Lasts elements elements :=
  List.forall₂_same.mpr fun element _ => .refl element

theorem forall₂_lasts_trans (first : List.Forall₂ Element.Lasts before middle)
    (second : List.Forall₂ Element.Lasts middle after) : List.Forall₂ Element.Lasts before after := by
  induction first generalizing after with
  | nil => exact second
  | cons here _ ih =>
    cases second with
    | cons there rest => exact .cons (here.trans there) (ih rest)

/-- Only the element at one place is changed. -/
theorem forall₂_lasts_set {elements : List Element} {place : Nat} {element element' : Element}
    (there : elements[place]? = some element) (lasts : element.Lasts element') :
    List.Forall₂ Element.Lasts elements (elements.set place element') := by
  induction elements generalizing place with
  | nil => exact .nil
  | cons first rest ih =>
    cases place with
    | zero =>
      obtain rfl := Option.some.inj there
      exact .cons lasts (forall₂_lasts_refl rest)
    | succ place => exact .cons (.refl first) (ih there)

/-- If the first element that shows a text is visible, it stays the first one and visible. -/
theorem any_visible_of_lasts (lasts : List.Forall₂ Element.Lasts before after) {text : String}
    (visible : (before.find? (·.shows text)).any (·.isVisible) = true) :
    (after.find? (·.shows text)).any (·.isVisible) = true := by
  induction lasts with
  | nil => cases visible
  | @cons a b _ _ here _ ih =>
    rw [List.find?_cons] at visible ⊢
    rw [here.shows text]
    cases shown : a.shows text with
    | true =>
      rw [shown] at visible
      exact here.visible visible
    | false =>
      rw [shown] at visible
      exact ih visible

end

/-- The error of an answer. -/
def refusalOf {α : Type} : Except PageError α → Option PageError
  | .error e => some e
  | .ok _ => none

/-- The error with which a request is refused. -/
def Page.refusal? {σ ω : Type} (page : Page σ ω) : PageRequest → σ → Option PageError
  | .goto url timeout, s => refusalOf (page.goto url timeout s).1
  | .isTextVisible text, s => refusalOf (page.isTextVisible text s).1
  | .waitForSelector selector timeout, s => refusalOf (page.waitForSelector selector timeout s).1
  | .selectorText selector timeout, s => refusalOf (page.selectorText selector timeout s).1
  | .clickText text timeout, s => refusalOf (page.clickText text timeout s).1
  | .countByLabel label, s => refusalOf (page.countByLabel label s).1
  | .fillByLabel label value, s => refusalOf (page.fillByLabel label value s).1
  | .countByPlaceholder placeholder, s => refusalOf (page.countByPlaceholder placeholder s).1
  | .fillByPlaceholder placeholder value, s => refusalOf (page.fillByPlaceholder placeholder value s).1
  | .fillSelector selector value, s => refusalOf (page.fillSelector selector value s).1
  | .waitForUrl fragment timeout, s => refusalOf (page.waitForUrl fragment timeout s).1
  | .computedStyle text property, s => refusalOf (page.computedStyle text property s).1
  | .wait ms, s => refusalOf (page.wait ms s).1
  | .close, s => refusalOf (page.close s).1

namespace MemoryPage

/-- The error with which the page refuses what happens to it. -/
def Happening.refusal? (page : MemoryPage) : Happening → Option PageError
  | .asked request => operations.refusal? request page
  | .emitted _ => none
  | .armed expected timeout => refusalOf (operations.expectResponse expected timeout page).1
  | .awaited listener => refusalOf (operations.await listener page).1

/-- What a page can do when something happens to it, with the error if it refuses. -/
inductive Does (page : MemoryPage) : Option PageError → MemoryPage → Prop
  /-- Nothing but give an answer. -/
  | looks (refusal : Option PageError) : Does page refusal page
  | notes (refusal : Option PageError) (line : String) : Does page refusal (page.note line)
  /-- One of the navigations that fail is used up. -/
  | stays (e : PageError) (line : String) (left : Nat) :
    Does page (some e) { page.note line with failingNavigations := left }
  | opens (line url : String) : Does page none { page.note line with url }
  | clicks (line : String) (effects : List Effect) : Does page none ((page.note line).applyEffects effects)
  | fills (line : String) (place : Nat) (value : String) : Does page none ((page.note line).fillAt place value)
  | hears (response : Response) : Does page none (page.emit response)
  | arms (line : String) (listeners : List Listener) (next : Nat) :
    Does page none { page.note line with armed := listeners, nextListener := next }

/-- Opening an address uses a failing navigation up, is refused, or leads there. -/
theorem does_goto (url : String) (timeout : Nat) (page : MemoryPage) :
    page.Does (refusalOf (goto url timeout page).1) (goto url timeout page).2 := by
  simp only [goto]
  split
  · exact .stays _ _ _
  · split
    · exact .notes _ _
    · exact .opens _ _

theorem does_clickText (text : String) (timeout : Nat) (page : MemoryPage) :
    page.Does (refusalOf (clickText text timeout page).1) (clickText text timeout page).2 := by
  simp only [clickText]
  split
  · exact .clicks _ _
  · exact .notes _ _

/-- A fill that finds no place for its value is refused. -/
theorem does_fill (page : MemoryPage) (line value : String) (place? : Option Nat) (e : PageError) :
    let answer : Except PageError Unit × MemoryPage := match place? with
      | some place => (.ok (), (page.note line).fillAt place value)
      | none => (.error e, page.note line)
    page.Does (refusalOf answer.1) answer.2 := by
  cases place? with
  | some place => exact .fills line place value
  | none => exact .notes _ line

/-- An operation that leaves the page as it is only looks at it. -/
theorem does_of_same {α : Type} {page : MemoryPage} {answer : Except PageError α × MemoryPage}
    (same : answer.2 = page) : page.Does (refusalOf answer.1) answer.2 := by
  rw [same]
  exact .looks _

theorem does_request (page : MemoryPage) (request : PageRequest) :
    page.Does (operations.refusal? request page) (operations.afterRequest request page) := by
  cases request with
  | goto url timeout => exact does_goto url timeout page
  | clickText text timeout => exact does_clickText text timeout page
  | fillByLabel label value => exact does_fill page _ value _ _
  | fillByPlaceholder placeholder value => exact does_fill page _ value _ _
  | fillSelector selector value => exact does_fill page _ value _ _
  | waitForSelector selector timeout => exact does_of_same (waitForSelector_snd selector timeout page)
  | selectorText selector timeout => exact does_of_same (selectorText_snd selector timeout page)
  | waitForUrl fragment timeout => exact does_of_same (waitForUrl_snd fragment timeout page)
  | computedStyle text property => exact does_of_same (computedStyle_snd text property page)
  | wait ms => exact .notes _ _
  | _ => exact .looks _

theorem does (page : MemoryPage) (happening : Happening) :
    page.Does (happening.refusal? page) (page.undergo happening) := by
  cases happening with
  | asked request => exact does_request page request
  | emitted response => exact .hears response
  | armed expected timeout => exact .arms _ _ _
  | awaited listener => exact does_of_same (await_snd listener page)

/-! ## What lasts -/

/-- The page later on: the elements are the same ones, none is hidden that was visible, and the history has grown at
its end. -/
structure Lasts (before after : MemoryPage) : Prop where
  elements : List.Forall₂ Element.Lasts before.elements after.elements
  history : before.history <+: after.history

variable {page middle after : MemoryPage}

namespace Lasts

theorem refl (page : MemoryPage) : page.Lasts page :=
  ⟨forall₂_lasts_refl _, List.prefix_rfl⟩

theorem trans (first : page.Lasts middle) (second : middle.Lasts after) : page.Lasts after :=
  ⟨forall₂_lasts_trans first.elements second.elements, first.history.trans second.history⟩

/-- Lines are added to the history, and the elements are left alone. -/
theorem of_elements {lines : List String} (elements : after.elements = page.elements)
    (history : after.history = page.history ++ lines) : page.Lasts after where
  elements := elements ▸ forall₂_lasts_refl page.elements
  history := history ▸ List.prefix_append page.history lines

end Lasts

theorem lasts_note (page : MemoryPage) (line : String) : page.Lasts (page.note line) :=
  .of_elements rfl rfl

theorem lasts_reveal (page : MemoryPage) (text : String) : page.Lasts (page.reveal text) where
  elements := by
    refine List.forall₂_map_right_iff.mpr (List.forall₂_same.mpr fun element _ => ?_)
    split
    · exact ⟨rfl, rfl, rfl, rfl, rfl, rfl, rfl, fun _ => rfl⟩
    · exact .refl element
  history := List.prefix_rfl

theorem lasts_applyEffect (page : MemoryPage) (effect : Effect) : page.Lasts (page.applyEffect effect) := by
  cases effect with
  | navigate url => exact ⟨forall₂_lasts_refl _, List.prefix_rfl⟩
  | respond response => exact .of_elements rfl rfl
  | reveal text => exact lasts_reveal page text

theorem lasts_applyEffects (page : MemoryPage) (effects : List Effect) : page.Lasts (page.applyEffects effects) := by
  induction effects generalizing page with
  | nil => exact .refl page
  | cons effect effects ih => exact (lasts_applyEffect page effect).trans (ih (page.applyEffect effect))

theorem lasts_fillAt (page : MemoryPage) (place : Nat) (value : String) : page.Lasts (page.fillAt place value) := by
  rw [fillAt]
  split
  · exact .refl page
  · next element there =>
    have filled : page.Lasts { page with elements := page.elements.set place { element with value } } :=
      ⟨forall₂_lasts_set there ⟨rfl, rfl, rfl, rfl, rfl, rfl, rfl, id⟩, List.prefix_rfl⟩
    exact filled.trans (lasts_applyEffects _ element.onFill)

theorem Does.lasts {refusal : Option PageError} (does : page.Does refusal after) : page.Lasts after := by
  cases does with
  | looks => exact .refl page
  | notes _ line => exact lasts_note page line
  | clicks line effects => exact (lasts_note page line).trans (lasts_applyEffects _ effects)
  | fills line place value => exact (lasts_note page line).trans (lasts_fillAt _ place value)
  | hears response => exact lasts_applyEffect page (.respond response)
  | _ => exact .of_elements rfl rfl

/-- Whatever happens to a page, in whatever order: it lasts. -/
theorem lasts_undergoAll (page : MemoryPage) (history : List Happening) : page.Lasts (page.undergoAll history) := by
  induction history generalizing page with
  | nil => exact .refl page
  | cons happening history ih => exact (page.does happening).lasts.trans (ih (page.undergo happening))

/-! ## Refusals -/

/-- Elements, with the values of the inputs, address and listeners are left as they were. -/
structure Unmoved (before after : MemoryPage) : Prop where
  elements : after.elements = before.elements
  url : after.url = before.url
  listening : after.listening = before.listening

theorem Does.unmoved {e : PageError} (does : page.Does (some e) after) : page.Unmoved after := by
  cases does <;> exact ⟨rfl, rfl, rfl⟩

/-! ## Visible texts -/

theorem isTextVisible_iff {text : String} : (operations.isTextVisible text page).1 = .ok true ↔
    (page.elements.find? (·.shows text)).any (·.isVisible) = true := by
  simp only [operations, MemoryPage.isTextVisible, Except.ok.injEq]

theorem Lasts.isTextVisible (lasts : page.Lasts after) {text : String}
    (visible : (operations.isTextVisible text page).1 = .ok true) :
    (operations.isTextVisible text after).1 = .ok true :=
  isTextVisible_iff.mpr (any_visible_of_lasts lasts.elements (isTextVisible_iff.mp visible))

/-- A visible text can be clicked: there is a first element among the visible ones that show it. -/
theorem clickText_of_visible {text : String} (visible : (operations.isTextVisible text page).1 = .ok true)
    (timeout : Nat) : (operations.clickText text timeout page).1 = .ok () := by
  obtain ⟨element, first, shown⟩ := (Option.any_eq_true _ _).mp (isTextVisible_iff.mp visible)
  have hit : (page.elements.find? fun element => element.isVisible && element.shows text).isSome = true := by
    rw [List.find?_isSome]
    refine ⟨element, List.mem_of_find?_eq_some first, ?_⟩
    rw [shown, List.find?_some first]
    rfl
  obtain ⟨target, found⟩ := Option.isSome_iff_exists.mp hit
  have elements : (page.note s!"click {text}").elements = page.elements := rfl
  simp only [operations, clickText, elements, found]

/-! ## Runs on a page -/

/-- The page has a history that leads from one state to the other. -/
def Undergoes (before after : MemoryPage) : Prop :=
  ∃ history, after = before.undergoAll history

namespace Undergoes

theorem refl (page : MemoryPage) : Undergoes page page :=
  ⟨[], rfl⟩

theorem trans (page middle after : MemoryPage) (first : Undergoes page middle) (second : Undergoes middle after) :
    Undergoes page after := by
  obtain ⟨earlier, rfl⟩ := first
  obtain ⟨later, rfl⟩ := second
  exact ⟨earlier ++ later, List.foldl_append.symm⟩

theorem once (page : MemoryPage) (happening : Happening) : Undergoes page (page.undergo happening) :=
  ⟨[happening], rfl⟩

end Undergoes

theorem operations_undergo : operations.Moves Undergoes where
  goto url timeout page := .once page (.asked (.goto url timeout))
  isTextVisible text page := .once page (.asked (.isTextVisible text))
  waitForSelector selector timeout page := .once page (.asked (.waitForSelector selector timeout))
  selectorText selector timeout page := .once page (.asked (.selectorText selector timeout))
  clickText text timeout page := .once page (.asked (.clickText text timeout))
  countByLabel label page := .once page (.asked (.countByLabel label))
  fillByLabel label value page := .once page (.asked (.fillByLabel label value))
  countByPlaceholder placeholder page := .once page (.asked (.countByPlaceholder placeholder))
  fillByPlaceholder placeholder value page := .once page (.asked (.fillByPlaceholder placeholder value))
  fillSelector selector value page := .once page (.asked (.fillSelector selector value))
  waitForUrl fragment timeout page := .once page (.asked (.waitForUrl fragment timeout))
  computedStyle text property page := .once page (.asked (.computedStyle text property))
  expectResponse expected timeout page := .once page (.armed expected timeout)
  await listener page := .once page (.awaited listener)
  wait ms page := .once page (.asked (.wait ms))

end MemoryPage

/-- What stands around a state. -/
def around {σ κ : Type} : Part (σ × κ) κ where
  get := Prod.snd
  put k t := (t.1, k)

namespace MemoryPage

variable {κ : Type}

/-- A part of what a page goes through: something happens to it, or a plan is run on it, with a machine around it that
starts servers. -/
inductive Episode (κ : Type) where
  | happens (happening : Happening)
  | runs (host : Server.Host κ) (options : Run.Options) (plan : Plan)

/-- The page, and the machine around it, after an episode. -/
def goThrough (world : MemoryPage × κ) : Episode κ → MemoryPage × κ
  | .happens happening => (world.1.undergo happening, world.2)
  | .runs host options plan => (Run.run (beside.page operations) (around.host host) options plan world).2

/-- An episode is a history of the page, also if a plan is run in it. -/
theorem goThrough_undergoes (world : MemoryPage × κ) (episode : Episode κ) :
    Undergoes world.1 (goThrough world episode).1 := by
  cases episode with
  | happens happening => exact .once world.1 happening
  | runs host options plan =>
    have pages : (beside.page operations : Page (MemoryPage × κ) Listener).Moves fun t t' => Undergoes t.1 t'.1 :=
      beside_lawful.page_moves operations_undergo
    have hosts : (around.host host : Server.Host (MemoryPage × κ)).Moves fun t t' => Undergoes t.1 t'.1 :=
      ⟨fun _ _ t => .refl t.1, fun _ _ _ t => .refl t.1⟩
    exact Run.run_moves (fun t => .refl t.1) (fun _ _ _ => .trans _ _ _) pages hosts options plan world

theorem foldl_goThrough_undergoes (world : MemoryPage × κ) (episodes : List (Episode κ)) :
    Undergoes world.1 (episodes.foldl goThrough world).1 := by
  induction episodes generalizing world with
  | nil => exact .refl world.1
  | cons episode episodes ih => exact .trans _ _ _ (goThrough_undergoes world episode) (ih (goThrough world episode))

/-- Whatever a page goes through, with any number of runs in it, is a history of the page: the elements keep their places
and what they are found by, none becomes hidden, and what was asked of the page grows at its end. A text that was
visible is so ever after and can be clicked. What the page then refuses leaves elements, address and listeners as they
are. -/
theorem page_lasts (page : MemoryPage) (outside : κ) (episodes : List (Episode κ)) :
    let after := (episodes.foldl goThrough (page, outside)).1
    Undergoes page after ∧ page.Lasts after ∧
      (∀ text, (operations.isTextVisible text page).1 = .ok true →
        (operations.isTextVisible text after).1 = .ok true ∧
          ∀ timeout, (operations.clickText text timeout after).1 = .ok ()) ∧
      ∀ (happening : Happening) (e : PageError), happening.refusal? after = some e →
        after.Unmoved (after.undergo happening) := by
  intro after
  have led : Undergoes page after := foldl_goThrough_undergoes (page, outside) episodes
  have lasts : page.Lasts after := by
    obtain ⟨history, same⟩ := led
    exact same ▸ lasts_undergoAll page history
  refine ⟨led, lasts, fun text visible => ?_, fun happening e refused => ?_⟩
  · exact ⟨lasts.isTextVisible visible, clickText_of_visible (lasts.isTextVisible visible)⟩
  · have done := after.does happening
    rw [refused] at done
    exact done.unmoved

/-- A page with a dialog that a click opens. -/
def dialogPage : MemoryPage where
  elements := [{ text := "Open", onClick := [.reveal "Dialog"] }, { text := "Dialog", isVisible := false }]

/-- The dialog cannot be clicked before it is open, and it can ever after. -/
theorem page_lasts_dialog :
    (operations.isTextVisible "Dialog" dialogPage).1 = .ok false ∧
    dialogPage.Unmoved (dialogPage.undergo (.asked (.clickText "Dialog" 10))) ∧
    ∀ episodes : List (Episode Unit), (operations.clickText "Dialog" 10
      (episodes.foldl goThrough (dialogPage.undergo (.asked (.clickText "Open" 10)), ())).1).1 = .ok () := by
  refine ⟨by decide +kernel, ?_, fun episodes => ?_⟩
  · obtain ⟨_, _, _, refused⟩ := page_lasts dialogPage () []
    exact refused (.asked (.clickText "Dialog" 10)) (.timeout "waiting for text=\"Dialog\" to be clickable")
      (by decide +kernel)
  · obtain ⟨_, _, visible, _⟩ := page_lasts (dialogPage.undergo (.asked (.clickText "Open" 10))) () episodes
    exact (visible "Dialog" (by decide +kernel)).2 10

end MemoryPage

end UiCheck
