import UiCheck.Proofs.Page.Listeners
import UiCheck.Proofs.Page.Recording

/-! # What awaiting a listener gives

Which responses a request lets happen can be told from the page that is asked: they are among the effects of the one
element that is clicked or filled. A listener is answered just if a response that it expects has come since it was
armed, as `listeners_answered` says of every history of a page. `Accounts` carries this from one happening to the
next: the listeners that wait are those handed out so far and not answered, in their order.
-/

namespace UiCheck

/-- The state that a request leaves behind. -/
def Page.afterRequest {σ ω : Type} (page : Page σ ω) : PageRequest → σ → σ
  | .goto url timeout, s => (page.goto url timeout s).2
  | .isTextVisible text, s => (page.isTextVisible text s).2
  | .waitForSelector selector timeout, s => (page.waitForSelector selector timeout s).2
  | .selectorText selector timeout, s => (page.selectorText selector timeout s).2
  | .clickText text timeout, s => (page.clickText text timeout s).2
  | .countByLabel label, s => (page.countByLabel label s).2
  | .fillByLabel label value, s => (page.fillByLabel label value s).2
  | .countByPlaceholder placeholder, s => (page.countByPlaceholder placeholder s).2
  | .fillByPlaceholder placeholder value, s => (page.fillByPlaceholder placeholder value s).2
  | .fillSelector selector value, s => (page.fillSelector selector value s).2
  | .waitForUrl fragment timeout, s => (page.waitForUrl fragment timeout s).2
  | .computedStyle text property, s => (page.computedStyle text property s).2
  | .wait ms, s => (page.wait ms s).2
  | .close, s => (page.close s).2

/-- The response that an effect emits. -/
def Effect.response? : Effect → Option Response
  | .respond response => some response
  | _ => none

namespace MemoryPage

variable {page page' : MemoryPage} {listener : Listener}

/-- The effects that a request lets happen. -/
def effectsOf (page : MemoryPage) : PageRequest → List Effect
  | .clickText text _ =>
    ((page.elements.find? fun element => element.isVisible && element.shows text).map (·.onClick)).getD []
  | .fillByLabel label _ => ((page.elements.find? (·.label = some label)).map (·.onFill)).getD []
  | .fillByPlaceholder placeholder _ =>
    ((page.elements.find? (·.placeholder = some placeholder)).map (·.onFill)).getD []
  | .fillSelector selector _ => ((page.elements.find? (·.selector = some selector)).map (·.onFill)).getD []
  | _ => []

/-- Something that happens to a page. -/
inductive Happening where
  | asked (request : PageRequest)
  /-- A response arrives by itself. -/
  | emitted (response : Response)
  | armed (expected : Expectation) (timeout : Nat)
  | awaited (listener : Listener)

/-- The effects of what happens to a page. -/
def Happening.effects (page : MemoryPage) : Happening → List Effect
  | .asked request => page.effectsOf request
  | .emitted response => [.respond response]
  | _ => []

/-- The page after something has happened to it. -/
def undergo (page : MemoryPage) : Happening → MemoryPage
  | .asked request => operations.afterRequest request page
  | .emitted response => page.emit response
  | .armed expected timeout => (operations.expectResponse expected timeout page).2
  | .awaited listener => (operations.await listener page).2

/-- The page after a history. -/
def undergoAll (page : MemoryPage) (history : List Happening) : MemoryPage :=
  history.foldl undergo page

/-- The responses that come during a history. -/
def responses (page : MemoryPage) : List Happening → List Response
  | [] => []
  | happening :: rest =>
    (happening.effects page).filterMap Effect.response? ++ (page.undergo happening).responses rest

/-- The listener that is handed out when something happens. -/
def Happening.listeners (page : MemoryPage) : Happening → List Listener
  | .armed expected timeout => (operations.expectResponse expected timeout page).1.toOption.toList
  | _ => []

/-- The listeners handed out during a history. -/
def handedOut (page : MemoryPage) : List Happening → List Listener
  | [] => []
  | happening :: rest => happening.listeners page ++ (page.undergo happening).handedOut rest

/-! ## Effects on the listeners -/

theorem listening_applyEffects (same : page'.listening = page.listening) (effects : List Effect) :
    (page'.applyEffects effects).listening = (page.applyEffects effects).listening := by
  induction effects generalizing page page' with
  | nil => exact same
  | cons effect effects ih =>
    refine ih ?_
    obtain ⟨armed, rest⟩ := Prod.ext_iff.mp same
    obtain ⟨answered, next⟩ := Prod.ext_iff.mp rest
    dsimp only [listening] at armed answered next
    cases effect with
    | respond response => simp only [applyEffect, emit, note, listening, armed, answered, next]
    | _ => exact same

theorem clickText_listening (text : String) (timeout : Nat) (page : MemoryPage) :
    (clickText text timeout page).2.listening =
      (page.applyEffects (page.effectsOf (.clickText text timeout))).listening := by
  rw [clickText, effectsOf]
  have elements : (page.note s!"click {text}").elements = page.elements := rfl
  rw [elements]
  cases page.elements.find? fun element => element.isVisible && element.shows text with
  | some element =>
    have noted : (page.note s!"click {text}").listening = page.listening := rfl
    exact listening_applyEffects noted element.onClick
  | none => rfl

/-- Filling the first element of a kind, if there is one, lets its effects happen. -/
theorem fill_listening {kind : Element → Bool} {value : String} {e : PageError} {noted : MemoryPage}
    (elements : noted.elements = page.elements) (same : noted.listening = page.listening) :
    (match noted.elements.findIdx? kind with
      | some place => ((.ok (), noted.fillAt place value) : Except PageError Unit × MemoryPage)
      | none => (.error e, noted)).2.listening =
      (page.applyEffects (((page.elements.find? kind).map (·.onFill)).getD [])).listening := by
  rw [← elements]
  cases found : noted.elements.find? kind with
  | some element =>
    obtain ⟨place, base, first, before, filled⟩ := noted.exists_fillAt found value
    rw [first]
    dsimp only
    rw [filled]
    exact listening_applyEffects (before.trans same) element.onFill
  | none =>
    have missed : noted.elements.findIdx? kind = none := by
      rw [List.findIdx?_eq_none_iff]
      simpa only [Bool.not_eq_true] using List.find?_eq_none.mp found
    rw [missed]
    exact same

/-- A request changes what the page knows about its listeners by its effects alone. -/
theorem afterRequest_listening (page : MemoryPage) (request : PageRequest) :
    (operations.afterRequest request page).listening = (page.applyEffects (page.effectsOf request)).listening := by
  cases request with
  | goto url timeout => exact goto_listening url timeout page
  | clickText text timeout => exact clickText_listening text timeout page
  | fillByLabel label value => exact fill_listening rfl rfl
  | fillByPlaceholder placeholder value => exact fill_listening rfl rfl
  | fillSelector selector value => exact fill_listening rfl rfl
  | waitForSelector selector timeout => exact congrArg listening (waitForSelector_snd selector timeout page)
  | selectorText selector timeout => exact congrArg listening (selectorText_snd selector timeout page)
  | waitForUrl fragment timeout => exact congrArg listening (waitForUrl_snd fragment timeout page)
  | computedStyle text property => exact congrArg listening (computedStyle_snd text property page)
  | _ => rfl

/-- Nothing but effects answers a listener. -/
theorem undergo_answered (page : MemoryPage) (happening : Happening) :
    (page.undergo happening).answered = (page.applyEffects (happening.effects page)).answered := by
  cases happening with
  | asked request => exact congrArg (·.2.1) (afterRequest_listening page request)
  | emitted response => rfl
  | armed expected timeout => rfl
  | awaited listener => exact congrArg (·.answered) (await_snd listener page)

theorem undergo_hasAnswered (page : MemoryPage) (happening : Happening) (listener : Listener) :
    (page.undergo happening).hasAnswered listener =
      (page.applyEffects (happening.effects page)).hasAnswered listener := by
  rw [hasAnswered, undergo_answered, ← hasAnswered]

theorem mem_responses {effects : List Effect} {response : Response} :
    response ∈ effects.filterMap Effect.response? ↔ .respond response ∈ effects := by
  rw [List.mem_filterMap]
  constructor
  · rintro ⟨effect, member, same⟩
    cases effect with
    | respond other => cases same; exact member
    | _ => cases same
  · exact fun member => ⟨_, member, rfl⟩

/-! ## Accounts of the listeners -/

/-- The listeners handed out so far are numbered in their order, and those that were not answered wait in that
order. No listener is answered twice. -/
structure Accounts (page : MemoryPage) (handed : List Listener) : Prop where
  numbers : handed.map (·.number) = List.range page.nextListener
  armed : page.armed = handed.filter fun listener => ! page.hasAnswered listener
  answered_lt : ∀ number ∈ page.answered, number < page.nextListener
  once : page.answered.Nodup

namespace Accounts

variable {handed : List Listener}

theorem of_fresh (armed : page.armed = []) (answered : page.answered = []) (next : page.nextListener = 0) :
    page.Accounts [] where
  numbers := by rw [next]; rfl
  armed := armed
  answered_lt := by rw [answered]; nofun
  once := by rw [answered]; exact List.nodup_nil

theorem mem_armed (accounts : page.Accounts handed) :
    listener ∈ page.armed ↔ listener ∈ handed ∧ page.hasAnswered listener = false := by
  rw [accounts.armed, List.mem_filter, Bool.not_eq_true']

theorem number_lt (accounts : page.Accounts handed) (member : listener ∈ handed) :
    listener.number < page.nextListener := by
  rw [← List.mem_range, ← accounts.numbers]
  exact List.mem_map_of_mem member

theorem numbered (accounts : page.Accounts handed) : page.Numbered where
  armed_lt _ member := accounts.number_lt (accounts.mem_armed.mp member).1
  answered_lt := accounts.answered_lt
  distinct := by
    have distinct : (handed.map (·.number)).Nodup := accounts.numbers ▸ List.nodup_range
    rw [accounts.armed]
    exact distinct.sublist (List.filter_sublist.map _)
  waiting other member answered := by
    have waits := (accounts.mem_armed.mp member).2
    rw [hasAnswered_iff.mpr answered] at waits
    cases waits

theorem of_listening (accounts : page.Accounts handed) (same : page'.listening = page.listening) :
    page'.Accounts handed := by
  obtain ⟨armed, rest⟩ := Prod.ext_iff.mp same
  obtain ⟨answered, next⟩ := Prod.ext_iff.mp rest
  dsimp only [listening] at armed answered next
  constructor
  · rw [next]; exact accounts.numbers
  · simp only [hasAnswered, armed, answered]; exact accounts.armed
  · rw [answered, next]; exact accounts.answered_lt
  · rw [answered]; exact accounts.once

/-- A response answers the listeners that wait for it, and of those handed out no other one. -/
theorem hasAnswered_emit (accounts : page.Accounts handed) (member : listener ∈ handed) (response : Response) :
    (page.emit response).hasAnswered listener = true ↔
      page.hasAnswered listener = true ∨ listener ∈ page.armed ∧ listener.expected.MetBy response := by
  cases answered : page.hasAnswered listener with
  | true => exact iff_of_true (hasAnswered_applyEffect answered (.respond response)) (.inl rfl)
  | false =>
    have armed := accounts.mem_armed.mpr ⟨member, answered⟩
    rw [accounts.numbered.hasAnswered_emit armed, Expectation.accepts_iff]
    simp only [armed, true_and, Bool.false_eq_true, false_or]

theorem emit (accounts : page.Accounts handed) (response : Response) : (page.emit response).Accounts handed where
  numbers := accounts.numbers
  armed := by
    have emitted : (page.emit response).armed =
        page.armed.filter fun listener => ! listener.expected.accepts response := rfl
    rw [emitted, accounts.armed, List.filter_filter]
    refine List.filter_congr fun listener member => ?_
    rw [← Bool.not_or]
    congr 1
    rw [Bool.eq_iff_iff, accounts.hasAnswered_emit member, Bool.or_eq_true, accounts.mem_armed,
      Expectation.accepts_iff]
    cases page.hasAnswered listener <;> simp [member]
  answered_lt := (accounts.numbered.emit response).answered_lt
  once := by
    have emitted : (page.emit response).answered = ((page.armed.filter fun listener =>
        listener.expected.accepts response).map (·.number)).reverse ++ page.answered := rfl
    rw [emitted]
    refine List.Nodup.append ?_ accounts.once ?_
    · exact List.nodup_reverse.mpr (accounts.numbered.distinct.sublist (List.filter_sublist.map _))
    · intro number hit answered
      obtain ⟨other, among, rfl⟩ := List.mem_map.mp (List.mem_reverse.mp hit)
      exact accounts.numbered.waiting other (List.mem_of_mem_filter among) answered

theorem applyEffects (accounts : page.Accounts handed) (effects : List Effect) :
    (page.applyEffects effects).Accounts handed := by
  induction effects generalizing page with
  | nil => exact accounts
  | cons effect effects ih =>
    refine ih ?_
    cases effect with
    | respond response => exact accounts.emit response
    | _ => exact accounts.of_listening rfl

theorem expectResponse (accounts : page.Accounts handed) (expected : Expectation) (timeout : Nat) :
    (operations.expectResponse expected timeout page).2.Accounts (handed ++ [⟨page.nextListener, expected⟩]) where
  numbers := by
    have next : (operations.expectResponse expected timeout page).2.nextListener = page.nextListener + 1 := rfl
    rw [next, List.map_append, accounts.numbers, List.range_succ]
    rfl
  armed := by
    have fresh : page.hasAnswered ⟨page.nextListener, expected⟩ = false := by
      rw [← Bool.not_eq_true, hasAnswered_iff]
      exact fun answered => Nat.lt_irrefl _ (accounts.answered_lt _ answered)
    have armed : (operations.expectResponse expected timeout page).2.armed =
        page.armed ++ [⟨page.nextListener, expected⟩] := rfl
    have same (other : Listener) :
        (operations.expectResponse expected timeout page).2.hasAnswered other = page.hasAnswered other := rfl
    simp only [armed, same, List.filter_append, ← accounts.armed, List.filter_cons, fresh, List.filter_nil,
      Bool.not_false, if_true]
  answered_lt number member := Nat.lt_succ_of_lt (accounts.answered_lt number member)
  once := accounts.once

/-- Whatever happens, the accounts stay right. -/
theorem undergo (accounts : page.Accounts handed) (happening : Happening) :
    (page.undergo happening).Accounts (handed ++ happening.listeners page) := by
  cases happening with
  | asked request =>
    simp only [Happening.listeners, List.append_nil]
    exact (accounts.applyEffects _).of_listening (afterRequest_listening page request)
  | emitted response =>
    simp only [Happening.listeners, List.append_nil]
    exact accounts.emit response
  | armed expected timeout => exact accounts.expectResponse expected timeout
  | awaited listener =>
    simp only [Happening.listeners, List.append_nil]
    exact accounts.of_listening (congrArg listening (await_snd listener page))

end Accounts

theorem Accounts.undergoAll {handed : List Listener} (accounts : page.Accounts handed) (history : List Happening) :
    (page.undergoAll history).Accounts (handed ++ page.handedOut history) := by
  induction history generalizing page handed with
  | nil => exact (List.append_nil handed).symm ▸ accounts
  | cons happening history ih =>
    rw [handedOut, ← List.append_assoc]
    exact ih (accounts.undergo happening)

/-! ## A listener through a history -/

theorem hasAnswered_undergo (answered : page.hasAnswered listener = true) (happening : Happening) :
    (page.undergo happening).hasAnswered listener = true := by
  rw [undergo_hasAnswered]
  exact hasAnswered_applyEffects answered _

theorem hasAnswered_undergoAll (answered : page.hasAnswered listener = true) (history : List Happening) :
    (page.undergoAll history).hasAnswered listener = true := by
  induction history generalizing page with
  | nil => exact answered
  | cons happening history ih => exact ih (hasAnswered_undergo answered happening)

/-- A waiting listener is answered in the course of a history just if a response that it expects comes. -/
theorem Accounts.hasAnswered_undergoAll_iff {handed : List Listener} (accounts : page.Accounts handed)
    (armed : listener ∈ page.armed) (history : List Happening) :
    (page.undergoAll history).hasAnswered listener = true ↔
      ∃ response ∈ page.responses history, listener.expected.MetBy response := by
  induction history generalizing page handed with
  | nil =>
    refine iff_of_false (fun answered => accounts.numbered.waiting listener armed (hasAnswered_iff.mp answered)) ?_
    rintro ⟨_, member, _⟩
    cases member
  | cons happening history ih =>
    have now : (page.undergo happening).hasAnswered listener = true ↔
        ∃ response ∈ (happening.effects page).filterMap Effect.response?, listener.expected.MetBy response := by
      rw [undergo_hasAnswered, accounts.numbered.hasAnswered_applyEffects_iff armed]
      simp only [mem_responses]
    have later : (page.undergoAll (happening :: history)).hasAnswered listener =
        ((page.undergo happening).undergoAll history).hasAnswered listener := rfl
    rw [later, responses]
    cases answered : (page.undergo happening).hasAnswered listener with
    | true =>
      obtain ⟨response, member, met⟩ := now.mp answered
      exact iff_of_true (hasAnswered_undergoAll answered history)
        ⟨response, List.mem_append_left _ member, met⟩
    | false =>
      have handed' := List.mem_append_left (happening.listeners page) (accounts.mem_armed.mp armed).1
      have waits := (accounts.undergo happening).mem_armed.mpr ⟨handed', answered⟩
      rw [ih (accounts.undergo happening) waits]
      refine exists_congr fun response => and_congr_left fun met => ?_
      rw [List.mem_append, or_iff_right]
      exact fun member => by rw [now.mpr ⟨response, member, met⟩] at answered; cases answered

/-! ## What a listener gives -/

/-- What a listener gives on a page, and once that page is gone, if its response has come and if it has not. -/
structure Gives (page : MemoryPage) (listener : Listener) (came : Prop) : Prop where
  response : came → operations.await listener page = (.ok (), page) ∧
    operations.settled? listener page = some (.ok ()) ∧ page.awaitGone listener = .ok ()
  nothing : ¬ came →
    operations.await listener page =
      (.error (.timeout s!"waiting for response {listener.expected.label}"), page) ∧
    operations.settled? listener page = none ∧
    page.awaitGone listener = .error (.backend s!"listener for {listener.expected.label} was dropped")

theorem gives_of_iff {came : Prop} (answered : page.hasAnswered listener = true ↔ came) :
    page.Gives listener came where
  response yes := by
    simp only [operations, MemoryPage.await, settled?, awaitGone, answered.mpr yes, if_true, and_self]
  nothing no := by
    have waits := mt answered.mp no
    simp only [operations, MemoryPage.await, settled?, awaitGone, if_neg waits, and_self]

/-- What one response does to the listeners that were handed out. -/
structure Sorts (page : MemoryPage) (handed : List Listener) (response : Response) : Prop where
  /-- Those that wait for it are answered, and no others. -/
  answers : ∀ listener ∈ handed, (page.emit response).hasAnswered listener = true ↔
    page.hasAnswered listener = true ∨ listener ∈ page.armed ∧ listener.expected.MetBy response
  /-- The others wait on. -/
  keeps : ∀ listener, listener ∈ (page.emit response).armed ↔
    listener ∈ page.armed ∧ ¬ listener.expected.MetBy response
  /-- They keep their order, which is the one in which they were handed out. -/
  order : (page.emit response).armed.Sublist page.armed ∧ page.armed.Sublist handed
  /-- No listener is answered twice. -/
  once : (page.emit response).answered.Nodup

theorem Accounts.sorts {handed : List Listener} (accounts : page.Accounts handed) (response : Response) :
    page.Sorts handed response where
  answers _ member := accounts.hasAnswered_emit member response
  keeps listener := by
    rw [mem_armed_emit, ← Expectation.accepts_iff, Bool.not_eq_true]
  order := ⟨List.filter_sublist, accounts.armed ▸ List.filter_sublist⟩
  once := (accounts.emit response).once

/-- On every page, whatever has happened to it: a listener that is armed gives success, now and also if the page is
gone, just if a response that it expects comes afterwards; and a response that arrives answers the listeners that
wait for it and no others. -/
theorem listeners_answered (elements : List Element) (url : String) (unreachable : List String)
    (failingNavigations : Nat) (earlier : List Happening) :
    let start : MemoryPage := { elements, url, unreachable, failingNavigations }
    let page := start.undergoAll earlier
    (∀ (expected : Expectation) (timeout : Nat), ∃ listener opened,
      operations.expectResponse expected timeout page = (.ok listener, opened) ∧ listener.expected = expected ∧
      ∀ later : List Happening, (opened.undergoAll later).Gives listener
        (∃ response ∈ opened.responses later, expected.MetBy response)) ∧
    ∀ response : Response, page.Sorts (start.handedOut earlier) response := by
  intro start page
  have accounts : page.Accounts (start.handedOut earlier) := (Accounts.of_fresh rfl rfl rfl).undergoAll earlier
  refine ⟨fun expected timeout => ?_, accounts.sorts⟩
  refine ⟨⟨page.nextListener, expected⟩, _, rfl, rfl, fun later => gives_of_iff ?_⟩
  exact (accounts.expectResponse expected timeout).hasAnswered_undergoAll_iff
    (List.mem_append_right _ (List.mem_singleton_self _)) later

end MemoryPage

end UiCheck
