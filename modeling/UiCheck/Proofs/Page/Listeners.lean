import Mathlib.Data.List.Nodup
import UiCheck.Page.Memory
import UiCheck.Proofs.Text.Search

/-! # Listeners of a page in memory

Listeners are told apart by their numbers. On a page where the waiting ones have numbers of their own, `Numbered`, a
response answers exactly the waiting listeners that expect it, and so the effects of a click or an input answer a
waiting listener just if one of them is a response that it expects. Every operation keeps the numbers apart.
-/

namespace UiCheck

/-- The response meets the expectation: its address contains the part, its method is the same but for the case of
Latin letters, and its status is the one expected. -/
structure Expectation.MetBy (expected : Expectation) (response : Response) : Prop where
  url : expected.urlPart.toList <:+: response.url.toList
  method : response.method.toList.map Char.toLower = expected.method.toList.map Char.toLower
  status : response.status = expected.status

theorem Expectation.accepts_iff {expected : Expectation} {response : Response} :
    expected.accepts response = true ↔ expected.MetBy response := by
  simp only [accepts, sameLetters, Bool.and_eq_true, beq_iff_eq, Text.occursIn_iff]
  exact ⟨fun ⟨⟨url, method⟩, status⟩ => ⟨url, method, status⟩, fun met => ⟨⟨met.url, met.method⟩, met.status⟩⟩

namespace MemoryPage

/-- What a page knows about its listeners. -/
def listening (page : MemoryPage) : List Listener × List Nat × Nat :=
  (page.armed, page.answered, page.nextListener)

/-- The waiting listeners have numbers of their own, which were handed out and not answered yet. -/
structure Numbered (page : MemoryPage) : Prop where
  armed_lt : ∀ listener ∈ page.armed, listener.number < page.nextListener
  answered_lt : ∀ number ∈ page.answered, number < page.nextListener
  distinct : (page.armed.map (·.number)).Nodup
  waiting : ∀ listener ∈ page.armed, listener.number ∉ page.answered

variable {page page' : MemoryPage} {listener : Listener}

theorem hasAnswered_iff : page.hasAnswered listener = true ↔ listener.number ∈ page.answered :=
  List.contains_iff_mem

/-- A page on which nothing was ever expected. -/
theorem numbered_of_fresh (armed : page.armed = []) (answered : page.answered = []) : page.Numbered where
  armed_lt := by rw [armed]; nofun
  answered_lt := by rw [answered]; nofun
  distinct := by rw [armed]; exact List.nodup_nil
  waiting := by rw [armed]; nofun

theorem Numbered.of_listening (numbered : page.Numbered) (same : page'.listening = page.listening) :
    page'.Numbered := by
  obtain ⟨armed, rest⟩ := Prod.ext_iff.mp same
  obtain ⟨answered, next⟩ := Prod.ext_iff.mp rest
  dsimp only [listening] at armed answered next
  constructor
  · rw [armed, next]; exact numbered.armed_lt
  · rw [answered, next]; exact numbered.answered_lt
  · rw [armed]; exact numbered.distinct
  · rw [armed, answered]; exact numbered.waiting

theorem mem_answered_emit {response : Response} {number : Nat} : number ∈ (page.emit response).answered ↔
    (∃ listener ∈ page.armed, listener.expected.accepts response = true ∧ listener.number = number) ∨
      number ∈ page.answered := by
  simp only [emit, note, List.mem_append, List.mem_reverse, List.mem_map, List.mem_filter, and_assoc]

theorem mem_armed_emit {response : Response} : listener ∈ (page.emit response).armed ↔
    listener ∈ page.armed ∧ listener.expected.accepts response = false := by
  simp only [emit, note, List.mem_filter, Bool.not_eq_true']

/-- A response answers a waiting listener just if that expects it. -/
theorem Numbered.hasAnswered_emit (numbered : page.Numbered) (armed : listener ∈ page.armed) (response : Response) :
    (page.emit response).hasAnswered listener = true ↔ listener.expected.accepts response = true := by
  rw [hasAnswered_iff, mem_answered_emit]
  constructor
  · rintro (⟨other, among, accepted, same⟩ | answered)
    · rwa [← List.inj_on_of_nodup_map numbered.distinct among armed same]
    · exact absurd answered (numbered.waiting listener armed)
  · exact fun accepted => .inl ⟨listener, armed, accepted, rfl⟩

theorem Numbered.emit (numbered : page.Numbered) (response : Response) : (page.emit response).Numbered where
  armed_lt other member := numbered.armed_lt other (mem_armed_emit.mp member).1
  answered_lt number member := by
    rcases mem_answered_emit.mp member with ⟨other, among, _, rfl⟩ | answered
    · exact numbered.armed_lt other among
    · exact numbered.answered_lt number answered
  distinct := numbered.distinct.sublist (List.filter_sublist.map _)
  waiting other member := by
    obtain ⟨armed, refused⟩ := mem_armed_emit.mp member
    have open' := mt (numbered.hasAnswered_emit armed response).mp (by rw [refused]; exact Bool.false_ne_true)
    rwa [hasAnswered_iff] at open'

theorem Numbered.applyEffect (numbered : page.Numbered) (effect : Effect) : (page.applyEffect effect).Numbered := by
  cases effect with
  | respond response => exact numbered.emit response
  | _ => exact numbered.of_listening rfl

theorem Numbered.applyEffects (numbered : page.Numbered) (effects : List Effect) :
    (page.applyEffects effects).Numbered := by
  induction effects generalizing page with
  | nil => exact numbered
  | cons effect effects ih => exact ih (numbered.applyEffect effect)

theorem hasAnswered_applyEffect (answered : page.hasAnswered listener = true) (effect : Effect) :
    (page.applyEffect effect).hasAnswered listener = true := by
  cases effect with
  | respond response =>
    rw [hasAnswered_iff] at answered ⊢
    exact mem_answered_emit.mpr (.inr answered)
  | _ => exact answered

/-- An answer is not taken back. -/
theorem hasAnswered_applyEffects (answered : page.hasAnswered listener = true) (effects : List Effect) :
    (page.applyEffects effects).hasAnswered listener = true := by
  induction effects generalizing page with
  | nil => exact answered
  | cons effect effects ih => exact ih (hasAnswered_applyEffect answered effect)

/-- Effects answer a waiting listener just if there is a response among them that it expects. -/
theorem Numbered.hasAnswered_applyEffects_iff (numbered : page.Numbered) (armed : listener ∈ page.armed)
    (effects : List Effect) : (page.applyEffects effects).hasAnswered listener = true ↔
      ∃ response, .respond response ∈ effects ∧ listener.expected.MetBy response := by
  induction effects generalizing page with
  | nil =>
    refine iff_of_false (fun answered => numbered.waiting listener armed (hasAnswered_iff.mp answered)) ?_
    rintro ⟨_, member, _⟩
    cases member
  | cons effect effects ih =>
    have unfolded : page.applyEffects (effect :: effects) = (page.applyEffect effect).applyEffects effects := rfl
    rw [unfolded]
    cases effect with
    | respond response =>
      cases accepted : listener.expected.accepts response with
      | true =>
        have answered := (numbered.hasAnswered_emit armed response).mpr accepted
        exact iff_of_true (hasAnswered_applyEffects answered effects)
          ⟨response, List.mem_cons_self .., Expectation.accepts_iff.mp accepted⟩
      | false =>
        have unmet : ¬ listener.expected.MetBy response := by
          rw [← Expectation.accepts_iff, accepted]
          exact Bool.false_ne_true
        have later := ih (numbered.emit response) (mem_armed_emit.mpr ⟨armed, accepted⟩)
        rw [MemoryPage.applyEffect, later]
        refine exists_congr fun other => ⟨fun ⟨member, met⟩ => ⟨List.mem_cons_of_mem _ member, met⟩, ?_⟩
        rintro ⟨member, met⟩
        rcases List.mem_cons.mp member with same | member
        · cases same
          exact absurd met unmet
        · exact ⟨member, met⟩
    | navigate url =>
      rw [ih (numbered.applyEffect (.navigate url)) armed]
      simp only [List.mem_cons, reduceCtorEq, false_or]
    | reveal text =>
      rw [ih (numbered.applyEffect (.reveal text)) armed]
      simp only [List.mem_cons, reduceCtorEq, false_or]

/-! ## Operations -/

/-! Looking at a page, and awaiting a listener, leave it as it is. -/

theorem waitForSelector_snd (selector : String) (timeout : Nat) (page : MemoryPage) :
    (waitForSelector selector timeout page).2 = page := by
  rw [waitForSelector]
  split <;> rfl

theorem selectorText_snd (selector : String) (timeout : Nat) (page : MemoryPage) :
    (selectorText selector timeout page).2 = page := by
  rw [selectorText]
  split <;> rfl

theorem waitForUrl_snd (fragment : String) (timeout : Nat) (page : MemoryPage) :
    (waitForUrl fragment timeout page).2 = page := by
  rw [waitForUrl]
  split <;> rfl

theorem computedStyle_snd (text : String) (property : StyleProperty) (page : MemoryPage) :
    (computedStyle text property page).2 = page := by
  rw [computedStyle]
  split <;> rfl

theorem await_snd (listener : Listener) (page : MemoryPage) : (MemoryPage.await listener page).2 = page := by
  rw [MemoryPage.await]
  split <;> rfl

theorem goto_listening (url : String) (timeout : Nat) (page : MemoryPage) :
    (goto url timeout page).2.listening = page.listening := by
  simp only [goto]
  split
  · rfl
  · split <;> rfl

/-- Filling the first element of a kind lets the effects of its input happen. -/
theorem exists_fillAt (page : MemoryPage) {kind : Element → Bool} {element : Element}
    (found : page.elements.find? kind = some element) (value : String) :
    ∃ (place : Nat) (base : MemoryPage), page.elements.findIdx? kind = some place ∧ base.listening = page.listening ∧
      page.fillAt place value = base.applyEffects element.onFill := by
  obtain ⟨fits, place, inside, here, before⟩ := List.find?_eq_some_iff_getElem.mp found
  have first : page.elements.findIdx? kind = some place := by
    refine List.findIdx?_eq_some_iff_getElem.mpr ⟨inside, by rw [here]; exact fits, fun i earlier => ?_⟩
    rw [Bool.not_eq_true, ← Bool.not_eq_true']
    exact before i earlier
  have there : page.elements[place]? = some element := List.getElem?_eq_some_iff.mpr ⟨inside, here⟩
  exact ⟨place, { page with elements := page.elements.set place { element with value } }, first, rfl, by
    simp only [fillAt, there]⟩

theorem Numbered.fillAt (numbered : page.Numbered) (place : Nat) (value : String) :
    (page.fillAt place value).Numbered := by
  rw [MemoryPage.fillAt]
  split
  · exact numbered
  · next element _ =>
    have filled : Numbered { page with elements := page.elements.set place { element with value } } :=
      numbered.of_listening rfl
    exact filled.applyEffects element.onFill

/-- A listener that is armed gets a number of its own. -/
theorem Numbered.expectResponse (numbered : page.Numbered) (expected : Expectation) (timeout : Nat) :
    (MemoryPage.expectResponse expected timeout page).2.Numbered where
  armed_lt other member := by
    rcases List.mem_append.mp member with member | member
    · exact Nat.lt_succ_of_lt (numbered.armed_lt other member)
    · rw [List.mem_singleton.mp member]
      exact Nat.lt_succ_self _
  answered_lt number member := Nat.lt_succ_of_lt (numbered.answered_lt number member)
  distinct := by
    have apart : page.nextListener ∉ page.armed.map (·.number) := by
      intro member
      obtain ⟨other, among, same⟩ := List.mem_map.mp member
      exact absurd (numbered.armed_lt other among) (by rw [same]; exact Nat.lt_irrefl _)
    have armed : (MemoryPage.expectResponse expected timeout page).2.armed.map (·.number) =
        page.armed.map (·.number) ++ [page.nextListener] := List.map_append
    rw [armed, ← List.concat_eq_append]
    exact numbered.distinct.concat apart
  waiting other member := by
    rcases List.mem_append.mp member with member | member
    · exact numbered.waiting other member
    · rw [List.mem_singleton.mp member]
      exact fun answered => Nat.lt_irrefl _ (numbered.answered_lt _ answered)

theorem Numbered.await (numbered : page.Numbered) (armed : listener ∈ page.armed) :
    await listener page = (.error (.timeout s!"waiting for response {listener.expected.label}"), page) := by
  have waits : page.hasAnswered listener ≠ true := by
    rw [Ne, hasAnswered_iff]
    exact numbered.waiting listener armed
  rw [MemoryPage.await, if_neg waits]

end MemoryPage

end UiCheck
