import UiCheck.Browser.Page
import UiCheck.Proofs.Browser.Waiters
import UiCheck.Proofs.Page.Awaiting

/-! # Requests, replies and events of a browser

A history of a link: requests are made, lines are read, during a request or in between, listeners are awaited, and
at some point the output may end. Each row tells one thing that was done, what was read meanwhile, and what came of
it. `protocol_kept` says that requests are numbered from one, and that every answer is the one brought by the first
line that was read for it while it was waited for, or tells that the output has ended.
-/

namespace UiCheck.Browser

/-- Something that is done with a link. -/
inductive Deed where
  /-- A request that waits for its answer. -/
  | ask (members : List (String × Json))
  /-- A listener is armed. -/
  | listen (expected : Expectation) (timeout : Nat)
  /-- The program prints something by itself. -/
  | hear (burst : Burst)
  | await (listener : Armed)
  /-- The program is stopped, which ends its output. -/
  | stop

/-- What was done with a link, with the number of a request, whether it was sent, and what was read meanwhile. -/
inductive Row where
  | asked (id : Nat) (sent : Except IoError Unit) (readings : List Reading) (answer : Except PageError Json)
  | armed (id : Nat) (label : String) (sent : Except IoError Unit) (readings : List Reading)
      (answer : Except PageError Armed)
  | heard (readings : List Reading)
  /-- What was known about the listener, and what awaiting it gave. -/
  | awaited (listener : Armed) (known : Option (Except PageError Unit)) (answer : Except PageError Unit)

namespace Row

/-- The number of a request. -/
def id? : Row → Option Nat
  | .asked id .. => some id
  | .armed id .. => some id
  | _ => none

/-- What was read. -/
def readings : Row → List Reading
  | .asked _ _ readings _ => readings
  | .armed _ _ _ readings _ => readings
  | .heard readings => readings
  | .awaited .. => []

end Row

/-! ## What waiting comes to -/

/-- What a request gives, by whether it was sent and what became of its waiter. -/
def callAnswer (id : Nat) : Except IoError Unit → Waiter → Except PageError Json
  | .error e, _ => .error (.io e)
  | .ok (), .answered reply => reply.outcome
  | .ok (), .lost => .error exited
  | .ok (), .waiting => .error (.timeout s!"waiting for browser reply to request {id}")

/-- What arming a listener gives, by whether the request was sent and what became of its acknowledgement. -/
def armAnswer (listener : Armed) : Except IoError Unit → Waiter → Except PageError Armed
  | .error e, _ => .error (.io e)
  | .ok (), .answered reply => reply.outcome.map fun _ => listener
  | .ok (), _ => .error (.backend s!"listener for {listener.label} was not armed")

theorem armAnswer_ok {listener armed : Armed} {sent : Except IoError Unit} {waiter : Waiter}
    (accepted : armAnswer listener sent waiter = .ok armed) :
    armed = listener ∧ ∃ reply, waiter = .answered reply := by
  cases sent with
  | error e => cases accepted
  | ok _ =>
    cases waiter with
    | answered reply =>
      refine ⟨?_, reply, rfl⟩
      rw [armAnswer] at accepted
      cases outcome : reply.outcome with
      | ok _ =>
        rw [outcome] at accepted
        exact (Except.ok.inj accepted).symm
      | error _ =>
        rw [outcome] at accepted
        cases accepted
    | _ => cases accepted

theorem callAnswer_ok {id : Nat} {sent : Except IoError Unit} {waiter : Waiter} {value : Json}
    (given : callAnswer id sent waiter = .ok value) : ∃ reply, waiter = .answered reply := by
  cases sent with
  | error e => cases given
  | ok _ =>
    cases waiter with
    | answered reply => exact ⟨reply, rfl⟩
    | _ => cases given

/-- What an event or the end of the output tells about a listener. -/
def waitAnswer? (listener : Armed) : Waiter → Option (Except PageError Unit)
  | .waiting => none
  | .lost => some (.error exited)
  | .answered reply =>
    some (match reply.outcome with
      | .ok _ => .ok ()
      | .error (.timeout _) => .error (.timeout s!"waiting for response {listener.label}")
      | .error e => .error e)

/-! ## Histories -/

section

variable {σ : Type}

/-- Whether a request is sent, and what is read during it. -/
def sending (helper : Helper σ) (members : List (String × Json)) (s : Linked σ) :
    Except IoError Unit × List Reading :=
  match (helper.send (requestText s.link.nextId members) s.outside).1 with
  | .error e => (.error e, [])
  | .ok burst => (.ok (), s.link.hears burst)

/-- The row of something that is done. -/
def rowOf (helper : Helper σ) (s : Linked σ) : Deed → Row
  | .ask members =>
    .asked s.link.nextId (sending helper members s).1 (sending helper members s).2 (Linked.call helper members s).1
  | .listen expected timeout =>
    let told := sending helper (Linked.listenRequest expected timeout) s
    .armed s.link.nextId expected.label told.1 told.2 (Linked.expectResponse helper expected timeout s).1
  | .hear burst => .heard (s.link.hears burst)
  | .await listener => .awaited listener (Linked.settled? listener s) (Linked.await listener s).1
  | .stop => .heard [.ended]

/-- The state that is left behind. -/
def leave (helper : Helper σ) (s : Linked σ) : Deed → Linked σ
  | .ask members => (Linked.call helper members s).2
  | .listen expected timeout => (Linked.expectResponse helper expected timeout s).2
  | .hear burst => { s with link := s.link.absorb burst }
  | .await listener => (Linked.await listener s).2
  | .stop => { link := s.link.shut, outside := helper.stop s.outside }

/-- The rows of all that is done. -/
def history (helper : Helper σ) : Linked σ → List Deed → List Row
  | _, [] => []
  | s, deed :: rest => rowOf helper s deed :: history helper (leave helper s deed) rest

/-! ## One request -/

variable {helper : Helper σ} {s : Linked σ}

theorem exchange_eq (helper : Helper σ) (members : List (String × Json)) (s : Linked σ) (link : Link)
    (isOpen : link.isOpen = s.link.isOpen) :
    Linked.exchange helper s.link.nextId members { s with link } =
      ((sending helper members s).1,
        { link := (sending helper members s).2.foldl Link.take link,
          outside := (helper.send (requestText s.link.nextId members) s.outside).2 }) := by
  rw [Linked.exchange, sending]
  rcases helper.send (requestText s.link.nextId members) s.outside with ⟨e | burst, outside⟩
  · rfl
  · dsimp only
    rw [Link.absorb_eq, Link.hears, Link.hears, isOpen]

/-- What was read during something that is done, and what it left of the link. -/
structure Carries (s s' : Linked σ) (readings : List Reading) : Prop where
  /-- Who waits for an event was told by what was read. -/
  events : ∀ id < s.link.nextId,
    s'.link.waiter? true id = (s.link.waiter? true id).map (·.orLater (fate true id readings))
  isOpen : s'.link.isOpen = true ↔ s.link.isOpen = true ∧ .ended ∉ readings
  /-- A line is read only while the output is read. -/
  lines : ∀ text, .line text ∈ readings → s.link.isOpen = true

theorem hears_open {link : Link} {burst : Burst} {reading : Reading} (member : reading ∈ link.hears burst) :
    link.isOpen = true := by
  rw [Link.hears] at member
  split at member
  · assumption
  · cases member

theorem sending_open (helper : Helper σ) (members : List (String × Json)) (s : Linked σ) {reading : Reading}
    (member : reading ∈ (sending helper members s).2) : s.link.isOpen = true := by
  rw [sending] at member
  split at member
  · cases member
  · exact hears_open member

/-- What was read told those who wait for events, if the rest of what was done left them alone. -/
theorem carries_of_link (link : Link) {readings : List Reading} {s' : Linked σ}
    (lines : ∀ text, .line text ∈ readings → s.link.isOpen = true)
    (begun : ∀ id < s.link.nextId, link.waiter? true id = s.link.waiter? true id)
    (ended : ∀ id < s.link.nextId, s'.link.waiter? true id = (readings.foldl Link.take link).waiter? true id)
    (isOpen : link.isOpen = s.link.isOpen) (isOpen' : s'.link.isOpen = (readings.foldl Link.take link).isOpen) :
    Carries s s' readings where
  events id old := by rw [ended id old, Link.waiter?_foldl_take, begun id old]
  isOpen := by rw [isOpen', Link.foldl_take_isOpen, isOpen]
  lines := lines

/-- The link once a request is registered. -/
def asking (link : Link) : Link :=
  { link with nextId := link.nextId + 1, calls := link.calls.register link.nextId }

theorem find?_asking (link : Link) (readings : List Reading) :
    (readings.foldl Link.take (asking link)).calls.find? link.nextId = some (fate false link.nextId readings) := by
  have told := Link.waiter?_foldl_take (asking link) readings false link.nextId
  have registered : (asking link).waiter? false link.nextId = some .waiting := by
    simp [Link.waiter?, asking, Waiters.find?_register]
  rw [registered] at told
  exact told

theorem call_eq (helper : Helper σ) (members : List (String × Json)) (s : Linked σ) :
    Linked.call helper members s =
      (callAnswer s.link.nextId (sending helper members s).1
          (fate false s.link.nextId (sending helper members s).2),
        let link := (sending helper members s).2.foldl Link.take (asking s.link)
        { link := { link with calls := link.calls.forget s.link.nextId },
          outside := (helper.send (requestText s.link.nextId members) s.outside).2 }) := by
  have exchanged := exchange_eq helper members s (asking s.link) rfl
  rw [asking] at exchanged
  simp only [Linked.call, Link.takeId, exchanged]
  cases (sending helper members s).1 with
  | error e => rfl
  | ok _ =>
    have told := find?_asking s.link (sending helper members s).2
    rw [asking] at told
    simp only [told]
    cases fate false s.link.nextId (sending helper members s).2 <;> rfl

/-- A request gives what its waiter was told. -/
theorem call_spec (helper : Helper σ) (members : List (String × Json)) (s : Linked σ) :
    (Linked.call helper members s).2.link.nextId = s.link.nextId + 1 ∧
      Carries s (Linked.call helper members s).2 (sending helper members s).2 := by
  rw [call_eq]
  refine ⟨Link.foldl_take_nextId _ _, ?_⟩
  exact carries_of_link (asking s.link) (fun _ => sending_open helper members s) (fun _ _ => rfl) (fun _ _ => rfl)
    rfl rfl

/-- The link once a listener and the request that arms it are registered. -/
def listening (link : Link) : Link :=
  { asking link with events := link.events.register link.nextId }

theorem waiter?_listening (link : Link) (readings : List Reading) (event : Bool) :
    (readings.foldl Link.take (listening link)).waiter? event link.nextId =
      some (fate event link.nextId readings) := by
  have registered : (listening link).waiter? event link.nextId = some .waiting := by
    cases event <;> simp [Link.waiter?, listening, asking, Waiters.find?_register]
  rw [Link.waiter?_foldl_take, registered]
  rfl

/-- Arming a listener gives what the waiter for its acknowledgement was told. The listener stays registered if it was
armed, and possibly also if not. -/
theorem expectResponse_eq (helper : Helper σ) (expected : Expectation) (timeout : Nat) {sent : Except IoError Unit}
    {readings : List Reading} (told : sending helper (Linked.listenRequest expected timeout) s = (sent, readings)) :
    let link := readings.foldl Link.take (listening s.link)
    let answer := armAnswer ⟨s.link.nextId, expected.label⟩ sent (fate false s.link.nextId readings)
    ∃ events outside, Linked.expectResponse helper expected timeout s =
        (answer, { link := { link with calls := link.calls.forget s.link.nextId, events }, outside }) ∧
      (events = link.events ∨ events = link.events.forget s.link.nextId ∧ ∀ armed, answer ≠ .ok armed) := by
  intro link answer
  have exchanged := exchange_eq helper (Linked.listenRequest expected timeout) s (listening s.link) rfl
  have acknowledged : (readings.foldl Link.take (listening s.link)).calls.find? s.link.nextId =
      some (fate false s.link.nextId readings) := waiter?_listening s.link readings false
  rw [told, listening, asking] at exchanged
  rw [listening, asking] at acknowledged
  simp only [Linked.expectResponse, Link.takeId, exchanged]
  cases sent with
  | error e => exact ⟨_, _, rfl, .inr ⟨rfl, by simp [answer, armAnswer]⟩⟩
  | ok _ =>
    simp only [acknowledged]
    cases settled : fate false s.link.nextId readings with
    | answered reply =>
      cases outcome : reply.outcome with
      | ok value => exact ⟨_, _, by simp only [answer, settled, armAnswer, outcome]; rfl, .inl rfl⟩
      | error e => exact ⟨_, _, by simp only [answer, settled, armAnswer, outcome]; rfl, .inl rfl⟩
    | _ =>
      refine ⟨_, _, by simp only [answer, settled, armAnswer]; rfl, .inr ⟨rfl, ?_⟩⟩
      simp [answer, settled, armAnswer]

/-- A listener that is armed waits for its event from the moment its request is sent. -/
theorem expectResponse_spec (helper : Helper σ) (expected : Expectation) (timeout : Nat) (s : Linked σ) :
    let told := sending helper (Linked.listenRequest expected timeout) s
    let left := Linked.expectResponse helper expected timeout s
    let listener : Armed := ⟨s.link.nextId, expected.label⟩
    left.1 = armAnswer listener told.1 (fate false s.link.nextId told.2) ∧
      left.2.link.nextId = s.link.nextId + 1 ∧ Carries s left.2 told.2 ∧
      ∀ armed, left.1 = .ok armed →
        armed = listener ∧ left.2.link.waiter? true s.link.nextId = some (fate true s.link.nextId told.2) := by
  intro told left listener
  obtain ⟨events, outside, leaves, kept⟩ := expectResponse_eq helper expected timeout
    (show sending helper (Linked.listenRequest expected timeout) s = (told.1, told.2) from rfl)
  have leaves : left = _ := leaves
  rw [leaves]
  refine ⟨rfl, Link.foldl_take_nextId _ _, ?_, fun armed accepted => ⟨?_, ?_⟩⟩
  · refine carries_of_link (listening s.link) (fun _ => sending_open helper _ s) (fun id old => ?_) (fun id old => ?_)
      rfl rfl
    · exact (Waiters.find?_register s.link.events _ id).trans (if_neg (Nat.ne_of_lt old))
    · obtain rfl | ⟨rfl, _⟩ := kept
      · rfl
      · exact Waiters.find?_forget_of_ne (Nat.ne_of_lt old) _
  · exact (armAnswer_ok accepted).1
  · obtain rfl | ⟨_, refused⟩ := kept
    · exact waiter?_listening s.link told.2 true
    · exact absurd accepted (refused armed)

/-! ## Everything that is done -/

theorem rowOf_id? {deed : Deed} {id : Nat} (numbered : (rowOf helper s deed).id? = some id) : id = s.link.nextId := by
  cases deed <;> cases numbered <;> rfl

/-- Whatever is done takes a number if it is a request, and what is read meanwhile reaches who waits for events. -/
theorem leave_spec (helper : Helper σ) (s : Linked σ) (deed : Deed) :
    (leave helper s deed).link.nextId = s.link.nextId + (rowOf helper s deed).id?.toList.length ∧
      Carries s (leave helper s deed) (rowOf helper s deed).readings := by
  cases deed with
  | ask members => exact call_spec helper members s
  | listen expected timeout =>
    obtain ⟨-, numbered, carries, -⟩ := expectResponse_spec helper expected timeout s
    exact ⟨numbered, carries⟩
  | hear burst =>
    have absorbed : (leave helper s (.hear burst)).link = (s.link.hears burst).foldl Link.take s.link :=
      Link.absorb_eq s.link burst
    refine ⟨?_, carries_of_link s.link (fun _ => hears_open) (fun _ _ => rfl) (fun _ _ => ?_) rfl ?_⟩
    · rw [absorbed]
      exact Link.foldl_take_nextId _ _
    · rw [absorbed]
      rfl
    · rw [absorbed]
      rfl
  | await listener =>
    exact ⟨rfl, carries_of_link s.link (fun _ => nofun) (fun _ _ => rfl) (fun _ _ => rfl) rfl rfl⟩
  | stop =>
    refine ⟨rfl, carries_of_link s.link (fun text read => ?_) (fun _ _ => rfl) (fun _ _ => rfl) rfl rfl⟩
    cases List.mem_singleton.mp read

/-- Requests are numbered one after the other. -/
theorem history_numbers (helper : Helper σ) (s : Linked σ) (deeds : List Deed) :
    (history helper s deeds).filterMap Row.id? =
      List.range' s.link.nextId ((history helper s deeds).filterMap Row.id?).length := by
  induction deeds generalizing s with
  | nil => rfl
  | cons deed rest ih =>
    obtain ⟨next, -⟩ := leave_spec helper s deed
    have later := ih (leave helper s deed)
    rw [history, List.filterMap_cons]
    cases numbered : (rowOf helper s deed).id? with
    | none =>
      rw [numbered] at next
      rwa [show (leave helper s deed).link.nextId = s.link.nextId from next] at later
    | some id =>
      rw [numbered] at next
      rw [show (leave helper s deed).link.nextId = s.link.nextId + 1 from next] at later
      rw [rowOf_id? numbered, List.length_cons, List.range'_succ]
      exact congrArg _ later

/-- A row tells what was done in the state that the rows before it left. -/
theorem history_split {deeds : List Deed} {before after : List Row} {row : Row}
    (split : history helper s deeds = before ++ row :: after) :
    ∃ s' deed rest, row = rowOf helper s' deed ∧ after = history helper (leave helper s' deed) rest := by
  induction before generalizing s deeds with
  | nil =>
    cases deeds with
    | nil => cases split
    | cons deed rest => exact ⟨s, deed, rest, (List.cons.inj split).1.symm, (List.cons.inj split).2.symm⟩
  | cons first before ih =>
    cases deeds with
    | nil => cases split
    | cons deed rest => exact ih (List.cons.inj split).2

theorem mem_history {deeds : List Deed} {row : Row} (member : row ∈ history helper s deeds) :
    ∃ s' deed, row = rowOf helper s' deed := by
  obtain ⟨before, after, split⟩ := List.append_of_mem member
  obtain ⟨s', deed, -, done, -⟩ := history_split split
  exact ⟨s', deed, done⟩

/-- Nothing more is read once the output has ended. -/
theorem history_closed {deeds : List Deed} (closed : s.link.isOpen = false) (text : String) :
    .line text ∉ (history helper s deeds).flatMap Row.readings := by
  induction deeds generalizing s with
  | nil => nofun
  | cons deed rest ih =>
    obtain ⟨-, carries⟩ := leave_spec helper s deed
    rw [history, List.flatMap_cons, List.mem_append]
    rintro (now | later)
    · rw [carries.lines text now] at closed
      cases closed
    · refine ih ?_ later
      rw [← Bool.not_eq_true, carries.isOpen, closed]
      nofun

/-! ## Listeners -/

theorem settled?_eq (listener : Armed) (s : Linked σ) :
    Linked.settled? listener s = (s.link.waiter? true listener.id).bind (waitAnswer? listener) := by
  rw [Linked.settled?, Link.waiter?, if_pos rfl]
  cases s.link.events.find? listener.id with
  | none => rfl
  | some waiter =>
    cases waiter with
    | answered reply =>
      rw [Option.bind_some, waitAnswer?]
      dsimp only
      cases reply.outcome with
      | ok _ => rfl
      | error e => cases e <;> rfl
    | _ => rfl

/-- What is known when a listener is awaited is what has been read for it. -/
theorem history_awaited {deeds : List Deed} {listener : Armed} {waiter : Waiter} {before after : List Row}
    {known : Option (Except PageError Unit)} {answer : Except PageError Unit} (old : listener.id < s.link.nextId)
    (waits : s.link.waiter? true listener.id = some waiter)
    (split : history helper s deeds = before ++ .awaited listener known answer :: after) :
    known = waitAnswer? listener (waiter.orLater (fate true listener.id (before.flatMap Row.readings))) ∧
      answer = known.getD (.error (.timeout s!"waiting for response {listener.label}")) := by
  induction before generalizing s deeds waiter with
  | nil =>
    cases deeds with
    | nil => cases split
    | cons deed rest =>
      obtain ⟨done, -⟩ := List.cons.inj split
      cases deed with
      | await other =>
        cases done
        refine ⟨?_, rfl⟩
        rw [settled?_eq, waits]
        exact congrArg (waitAnswer? listener) (Waiter.orLater_waiting waiter).symm
      | _ => cases done
  | cons first before ih =>
    cases deeds with
    | nil => cases split
    | cons deed rest =>
      obtain ⟨rfl, later⟩ := List.cons.inj split
      obtain ⟨next, carries⟩ := leave_spec helper s deed
      have carried := carries.events listener.id old
      rw [waits] at carried
      rw [List.flatMap_cons, fate_append, ← Waiter.orLater_assoc]
      exact ih (by omega) carried later

/-! ## What every history obeys -/

/-- The rules of the exchange with the program, as the rows of a history tell them. -/
structure Obeys (rows : List Row) : Prop where
  /-- Requests are numbered from one, and no number is used twice. -/
  numbers : rows.filterMap Row.id? = List.range' 1 (rows.filterMap Row.id?).length
  /-- A request gives what is read for it while it is registered. -/
  calls : ∀ id sent readings answer, .asked id sent readings answer ∈ rows →
    answer = callAnswer id sent (fate false id readings)
  /-- A listener is handed out as its acknowledgement tells. -/
  acknowledgements : ∀ id label sent readings answer, .armed id label sent readings answer ∈ rows →
    answer = armAnswer ⟨id, label⟩ sent (fate false id readings)
  /-- Awaiting a listener gives what has been read for it since it was registered. -/
  waits : ∀ before id label sent readings listener between known answer after,
    rows = before ++ .armed id label sent readings (.ok listener) ::
      (between ++ .awaited listener known answer :: after) →
    known = waitAnswer? listener (fate true id (readings ++ between.flatMap Row.readings)) ∧
      answer = known.getD (.error (.timeout s!"waiting for response {listener.label}"))
  /-- Nothing yields a value that begins after the output has ended. -/
  silence : ∀ before row after, rows = before ++ row :: after → .ended ∈ row.readings →
    ∀ later ∈ after, (∀ text, .line text ∉ later.readings) ∧
      (∀ id sent readings value, later ≠ .asked id sent readings (.ok value)) ∧
      ∀ id label sent readings listener, later ≠ .armed id label sent readings (.ok listener)

theorem history_silence {deeds : List Deed} {before after : List Row} {row later : Row}
    (split : history helper s deeds = before ++ row :: after) (ended : .ended ∈ row.readings) (member : later ∈ after) :
    (∀ text, .line text ∉ later.readings) ∧
      (∀ id sent readings value, later ≠ .asked id sent readings (.ok value)) ∧
      ∀ id label sent readings listener, later ≠ .armed id label sent readings (.ok listener) := by
  obtain ⟨s', deed, rest, rfl, rfl⟩ := history_split split
  obtain ⟨-, carries⟩ := leave_spec helper s' deed
  have closed : (leave helper s' deed).link.isOpen = false := by
    rw [← Bool.not_eq_true, carries.isOpen]
    exact fun still => still.2 ended
  have silent : ∀ text, .line text ∉ later.readings := fun text read =>
    history_closed closed text (List.mem_flatMap.mpr ⟨later, member, read⟩)
  obtain ⟨s'', deed', rfl⟩ := mem_history member
  refine ⟨silent, ?_, ?_⟩
  · intro id sent readings value yields
    cases deed' with
    | ask members =>
      obtain ⟨-, -, rfl, given⟩ := Row.asked.inj yields
      rw [call_eq] at given
      obtain ⟨reply, answered⟩ := callAnswer_ok given
      exact fate_ne_answered silent _ _ reply answered
    | _ => cases yields
  · intro id label sent readings listener yields
    cases deed' with
    | listen expected timeout =>
      obtain ⟨-, -, -, -, given⟩ := Row.armed.inj yields
      obtain ⟨arms, -⟩ := expectResponse_spec helper expected timeout s''
      obtain ⟨-, reply, answered⟩ := armAnswer_ok (arms.symm.trans given)
      exact fate_ne_answered silent _ _ reply answered
    | _ => cases yields

/-- A history obeys the rules, whatever the program prints. -/
theorem history_obeys (helper : Helper σ) (outside : σ) (deeds : List Deed) :
    Obeys (history helper ⟨{}, outside⟩ deeds) where
  numbers := history_numbers helper _ deeds
  calls id sent readings answer member := by
    obtain ⟨s, deed, done⟩ := mem_history member
    cases deed with
    | ask members =>
      cases done
      rw [call_eq]
    | _ => cases done
  acknowledgements id label sent readings answer member := by
    obtain ⟨s, deed, done⟩ := mem_history member
    cases deed with
    | listen expected timeout =>
      cases done
      exact (expectResponse_spec helper expected timeout s).1
    | _ => cases done
  waits before id label sent readings listener between known answer after split := by
    obtain ⟨s, deed, rest, done, later⟩ := history_split split
    cases deed with
    | listen expected timeout =>
      obtain ⟨rfl, rfl, rfl, rfl, accepted⟩ := Row.armed.inj done
      obtain ⟨-, next, -, armed⟩ := expectResponse_spec helper expected timeout s
      obtain ⟨rfl, waits⟩ := armed listener accepted.symm
      rw [fate_append]
      exact history_awaited (Nat.lt_of_lt_of_eq (Nat.lt_succ_self _) next.symm) waits later.symm
    | _ => cases done
  silence before row after split ended later member := history_silence split ended member

/-! ## The protocol -/

/-- How what is read finds those who wait. -/
structure Routed : Prop where
  /-- The first line for somebody who waits is the answer, if the output does not end before. -/
  answered : ∀ event id readings reply, fate event id readings = .answered reply ↔
    ∃ before text after, readings = before ++ .line text :: after ∧
      (Reply.ofText text = .ok reply ∧ reply.id = some id ∧ reply.isEvent = event) ∧
      ∀ earlier ∈ before, earlier.settles? event id = none
  /-- Nothing comes any more if the output ends before. -/
  lost : ∀ event id readings, fate event id readings = .lost ↔
    ∃ before after, readings = before ++ .ended :: after ∧ ∀ earlier ∈ before, earlier.settles? event id = none
  /-- A line is for one at most. -/
  unique : ∀ text event event' id id', ((Reading.line text).settles? event id).isSome = true →
    ((Reading.line text).settles? event' id').isSome = true → event = event' ∧ id = id'
  /-- A line changes nothing for others. -/
  foreign : ∀ text event id, (Reading.line text).settles? event id = none →
    ∀ link : Link, (link.receiveLine text).waiter? event id = link.waiter? event id
  /-- A line for which nobody waits changes nothing at all. -/
  unwanted : ∀ text (link : Link), (∀ event id, ((Reading.line text).settles? event id).isSome = true →
    link.waiter? event id ≠ some .waiting) → link.receiveLine text = link

theorem routed : Routed where
  answered event id readings reply := by
    simp only [fate_eq_iff (.answered reply) nofun, settles?_eq_answered]
    constructor
    · rintro ⟨before, _, after, split, ⟨text, rfl, meant⟩, first⟩
      exact ⟨before, text, after, split, meant, first⟩
    · rintro ⟨before, text, after, split, meant, first⟩
      exact ⟨before, _, after, split, ⟨text, rfl, meant⟩, first⟩
  lost event id readings := by
    simp only [fate_eq_iff .lost nofun, settles?_eq_lost]
    constructor
    · rintro ⟨before, _, after, split, rfl, first⟩
      exact ⟨before, after, split, first⟩
    · rintro ⟨before, after, split, first⟩
      exact ⟨before, _, after, split, rfl, first⟩
  unique _ _ _ _ _ one other := Link.settles?_unique one other
  foreign _ _ _ none link := Link.waiter?_receiveLine_of_none none link
  unwanted _ _ unwanted := Link.receiveLine_eq_self unwanted

theorem ask_state {α : Type} (helper : Helper σ) (decode : Json → Except PageError α)
    (members : List (String × Json)) (s : Linked σ) :
    (Linked.ask helper decode members s).2 = leave helper s (.ask members) := by
  rw [Linked.ask, leave]
  rcases Linked.call helper members s with ⟨_ | _, _⟩ <;> rfl

theorem goto_state (helper : Helper σ) (url : String) (timeout : Nat) (s : Linked σ) :
    (Linked.goto helper url timeout s).2 =
      leave helper s (.ask [("op", .string "goto"), ("url", .string url), ("timeout", .nat timeout)]) := by
  rw [Linked.goto, ← ask_state helper fun _ => .ok (), ← Linked.tell]
  rcases Linked.tell helper _ s with ⟨_ | _, _⟩ <;> rfl

/-- Every request of a page is a request to the program; the last of them also stops it. -/
theorem exists_deeds (helper : Helper σ) (request : PageRequest) :
    ∃ deeds : List Deed, ∀ s, (Linked.operations helper).afterRequest request s = deeds.foldl (leave helper) s := by
  have one {after : Linked σ → Linked σ} (members : List (String × Json))
      (asked : ∀ s, after s = leave helper s (.ask members)) :
      ∃ deeds : List Deed, ∀ s, after s = deeds.foldl (leave helper) s := ⟨[.ask members], asked⟩
  cases request with
  | goto url timeout => exact one _ (goto_state helper url timeout)
  | close =>
    refine ⟨[.ask [("op", .string "close")], .stop], fun s => ?_⟩
    rw [List.foldl_cons, ← ask_state helper fun _ => .ok ()]
    rfl
  | _ => exact one _ (ask_state helper _ _)

/-- A link that was just started has heard what the program printed behind its greeting. -/
theorem attempt_link {settings : Settings} {outside outside' : σ} {link : Link}
    (started : attempt helper settings outside = (.ok link, outside')) : ∃ burst, link = Link.absorb {} burst := by
  rw [attempt] at started
  split at started
  · cases started
  · split at started
    · cases started
    · next burst _ =>
      cases started
      exact ⟨burst, rfl⟩

theorem launch_link {settings : Settings} {outside outside' : σ} {link : Link}
    (launched : launch helper settings outside = (.ok link, outside')) : ∃ burst, link = Link.absorb {} burst := by
  rw [launch] at launched
  split at launched
  · split at launched
    · rw [installAndAttempt] at launched
      split at launched
      · cases launched
      · exact attempt_link launched
      · cases launched
    · cases launched
  · exact attempt_link launched

/-- Whatever is asked and whatever the program prints in between, requests are numbered from one, every answer is
the one that the first line for it brings while it is waited for, and nothing is answered once the output has ended. -/
theorem protocol_kept (helper : Helper σ) :
    (∀ outside deeds, Obeys (history helper ⟨{}, outside⟩ deeds)) ∧ Routed ∧
      (∀ settings outside link outside', launch helper settings outside = (.ok link, outside') →
        ∃ burst, (⟨link, outside'⟩ : Linked σ) = leave helper ⟨{}, outside'⟩ (.hear burst)) ∧
      ∀ request, ∃ deeds : List Deed, ∀ s,
        (Linked.operations helper).afterRequest request s = deeds.foldl (leave helper) s := by
  refine ⟨history_obeys helper, routed, fun settings outside link outside' launched => ?_, exists_deeds helper⟩
  obtain ⟨burst, rfl⟩ := launch_link launched
  exact ⟨burst, rfl⟩

end

end UiCheck.Browser
