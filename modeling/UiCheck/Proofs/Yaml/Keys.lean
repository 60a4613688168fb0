import UiCheck.Proofs.Yaml.Reader

/-! # Places of keys

Where the keys of a document stand can be told from its events alone, by keeping account of the collections that are
open. A reader goes through the events in the same way: behind each value that it reads the account is the one in front
of the value with one more value in the innermost collection, however the value was reached. So every key of a mapping
that is read stands at a place of a key, and a key that is a text or a number is what the event there denotes.
-/

namespace UiCheck.Yaml

/-- What comes next in an open collection. -/
inductive Slot where
  | item
  | key
  | content
  deriving DecidableEq

/-- What comes behind a value. -/
def Slot.next : Slot → Slot
  | .item => .item
  | .key => .content
  | .content => .key

/-- The open collections, innermost first, once a value in the innermost is complete. -/
def settled : List Slot → List Slot
  | [] => []
  | slot :: outer => slot.next :: outer

/-- The event ends the innermost collection. -/
def ends (opened : List Slot) (event : Item) : Bool :=
  match opened, event with
  | .item :: _, .sequenceEnd => true
  | .item :: _, .void => true
  | .key :: _, .mappingEnd => true
  | .key :: _, .void => true
  | _, _ => false

/-- The open collections behind an event that begins a value. -/
def begun (opened : List Slot) (event : Item) : List Slot :=
  match event with
  | .sequenceStart _ => .item :: opened
  | .mappingStart _ => .key :: opened
  | _ => settled opened

/-- The open collections behind an event. -/
def advance (opened : List Slot) (event : Item) : List Slot :=
  if ends opened event then settled opened.tail else begun opened event

namespace Document

/-- The collections that are open in front of the event at a place. -/
def openAt (doc : Document) (place : Nat) : List Slot :=
  (doc.items.toList.take place).foldl (fun opened event => advance opened event.1) []

/-- The event at a place begins a key. -/
def isKey (doc : Document) (place : Nat) : Bool :=
  match doc.openAt place, doc.items[place]? with
  | .key :: outer, some (event, _) => ! ends (.key :: outer) event
  | _, _ => false

/-- The value that the scalar at a place denotes, on the other side of any aliases. One unit of fuel for each of
them. -/
def denotation? (doc : Document) : Nat → Nat → Option Value
  | 0, _ => none
  | fuel + 1, place =>
    match doc.items[place]? with
    | some (.alias anchor, _) => doc.denotation? fuel ((doc.anchors.lookup anchor).getD doc.items.size)
    | some (.scalar tag text style, _) =>
      if (tag.bind Tag.localName?).isSome then none
      else
        match (denoted tag text style).bind Denoted.value with
        | .ok v => some v
        | .error _ => none
    | _ => none

/-- The event at a place ends no collection. -/
def Begins (doc : Document) (place : Nat) : Prop :=
  ∀ event mark, doc.items[place]? = some (event, mark) → ends (doc.openAt place) event = false

end Document

variable {α : Type} {doc : Document} {p p' q : Progress} {a : α} {fuel place : Nat} {event : Item} {mark : Mark}
  {outer : List Slot} {spot : Spot} {v : Value}

theorem openAt_succ (found : doc.items[place]? = some (event, mark)) :
    doc.openAt (place + 1) = advance (doc.openAt place) event := by
  have listed : doc.items.toList[place]? = some (event, mark) := by rw [Array.getElem?_toList, found]
  rw [Document.openAt, List.take_add_one, listed, List.foldl_append]
  rfl

theorem lt_size_of_found (found : doc.items[place]? = some (event, mark)) : place < doc.items.size :=
  (Array.getElem?_eq_some_iff.mp found).1

/-- A reader that begins a value completes it. -/
def Completes (doc : Document) (reader : Reader α) : Prop :=
  ∀ p a p', reader p = .ok (a, p') → doc.Begins p.position →
    p.position < p'.position ∧ p'.position ≤ doc.items.size ∧ doc.openAt p'.position = settled (doc.openAt p.position)

/-! ## Sequences and mappings -/

/-- A sequence ends, or another item is read. -/
theorem of_items_ok {item : Spot → Reader α} {done found : List α} (outer : List Slot)
    (ran : items doc spot item (fuel + 1) done p = .ok (found, p')) :
    ∃ event mark, doc.items[p.position]? = some (event, mark) ∧
      (ends (.item :: outer) event = true ∧ p'.position = p.position + 1 ∨
        ends (.item :: outer) event = false ∧ ∃ spot' a q, item spot' p = .ok (a, q) ∧
          items doc spot item fuel (a :: done) q = .ok (found, p')) := by
  rw [items] at ran
  obtain ⟨⟨event, mark⟩, r, peeked, going⟩ := exists_of_bind_ok ran
  obtain ⟨there, same⟩ := of_peek_ok peeked
  rw [same] at going
  refine ⟨event, mark, there, ?_⟩
  have last (going : (next doc >>= fun _ => pure done.reverse : Reader (List α)) p = .ok (found, p')) :
      p'.position = p.position + 1 := by
    obtain ⟨_, _, taken, done⟩ := exists_of_bind_ok going
    obtain ⟨_, rfl⟩ := eq_of_pure_ok done
    exact (of_next_ok taken).2
  cases event with
  | sequenceEnd | void => exact .inl ⟨rfl, last going⟩
  | _ =>
    obtain ⟨a, q, read, rest⟩ := exists_of_bind_ok going
    exact .inr ⟨rfl, _, a, q, read, rest⟩

/-- A mapping ends, or another entry is read. -/
theorem of_entries_ok {σ : Type} {entry : σ → Spot → Spot → Reader σ} {known found : σ} (outer : List Slot)
    (ran : entries doc spot entry (fuel + 1) known p = .ok (found, p')) :
    ∃ event mark, doc.items[p.position]? = some (event, mark) ∧
      (ends (.key :: outer) event = true ∧ p'.position = p.position + 1 ∧ found = known ∨
        ends (.key :: outer) event = false ∧ ∃ keySpot valueSpot known' q,
          entry known keySpot valueSpot p = .ok (known', q) ∧
          entries doc spot entry fuel known' q = .ok (found, p')) := by
  rw [entries] at ran
  obtain ⟨⟨event, mark⟩, r, peeked, going⟩ := exists_of_bind_ok ran
  obtain ⟨there, same⟩ := of_peek_ok peeked
  rw [same] at going
  refine ⟨event, mark, there, ?_⟩
  have last (going : (next doc >>= fun _ => pure known : Reader σ) p = .ok (found, p')) :
      p'.position = p.position + 1 ∧ found = known := by
    obtain ⟨_, _, taken, done⟩ := exists_of_bind_ok going
    obtain ⟨rfl, rfl⟩ := eq_of_pure_ok done
    exact ⟨(of_next_ok taken).2, rfl⟩
  cases event with
  | mappingEnd | void => exact .inl ⟨rfl, last going⟩
  | _ =>
    obtain ⟨known', q, read, rest⟩ := exists_of_bind_ok going
    exact .inr ⟨rfl, _, _, known', q, read, rest⟩

theorem of_addEntry_ok {value : Spot → Reader Value} {known found : Entries} {valueSpot : Spot}
    (ran : addEntry value known spot valueSpot p = .ok (found, p')) :
    ∃ key q content, value spot p = .ok (key, q) ∧ value valueSpot q = .ok (content, p') ∧
      found = (key, content) :: known := by
  rw [addEntry] at ran
  obtain ⟨key, q, read, going⟩ := exists_of_bind_ok ran
  split at going
  · exact (not_throw_ok going).elim
  · obtain ⟨content, r, read', done⟩ := exists_of_bind_ok going
    obtain ⟨rfl, rfl⟩ := eq_of_pure_ok done
    exact ⟨key, q, content, read, read', rfl⟩

theorem openAt_of_ends {slot : Slot} (there : doc.items[place]? = some (event, mark))
    (opened : doc.openAt place = slot :: outer) (last : ends (slot :: outer) event = true) :
    doc.openAt (place + 1) = settled outer := by
  rw [openAt_succ there, opened]
  exact if_pos last

theorem begins_of_found (there : doc.items[place]? = some (event, mark))
    (begins : ends (doc.openAt place) event = false) : doc.Begins place := by
  intro event' mark' there'
  cases there.symm.trans there'
  exact begins

theorem openAt_of_begins (begins : doc.Begins place) (there : doc.items[place]? = some (event, mark)) :
    doc.openAt (place + 1) = begun (doc.openAt place) event := by
  rw [openAt_succ there]
  exact if_neg (Bool.eq_false_iff.mp (begins event mark there))

/-- A sequence is read up to its own end: its items take an event each, so the count of events suffices. -/
theorem completes_items {item : Spot → Reader α} (each : ∀ spot, Completes doc (item spot)) {done found : List α}
    (enough : doc.items.size < fuel + p.position) (inside : p.position ≤ doc.items.size)
    (opened : doc.openAt p.position = .item :: outer) (ran : items doc spot item fuel done p = .ok (found, p')) :
    p.position < p'.position ∧ p'.position ≤ doc.items.size ∧ doc.openAt p'.position = settled outer := by
  induction fuel generalizing p done with
  | zero => omega
  | succ fuel ih =>
    obtain ⟨event, mark, there, ⟨last, position⟩ | ⟨begins, spot', a, q, read, rest⟩⟩ := of_items_ok outer ran
    · have within := lt_size_of_found there
      rw [position]
      exact ⟨Nat.lt_succ_self _, within, openAt_of_ends there opened last⟩
    · rw [← opened] at begins
      obtain ⟨further, within, behind⟩ := each spot' p a q read (begins_of_found there begins)
      rw [opened] at behind
      obtain ⟨further', within', behind'⟩ := ih (by omega) within behind rest
      exact ⟨Nat.lt_trans further further', within', behind'⟩

/-- A mapping is read up to its own end, and each of its keys at a place of a key. -/
theorem completes_entries {value : Spot → Reader Value} (each : ∀ spot, Completes doc (value spot))
    {known found : Entries} (enough : doc.items.size < fuel + p.position) (inside : p.position ≤ doc.items.size)
    (opened : doc.openAt p.position = .key :: outer)
    (ran : entries doc spot (addEntry value) fuel known p = .ok (found, p')) :
    (p.position < p'.position ∧ p'.position ≤ doc.items.size ∧ doc.openAt p'.position = settled outer) ∧
    ∀ entry ∈ found, entry ∈ known ∨
      ∃ spot q q', doc.isKey q.position = true ∧ value spot q = .ok (entry.1, q') := by
  induction fuel generalizing p known with
  | zero => omega
  | succ fuel ih =>
    obtain ⟨event, mark, there, ⟨last, position, rfl⟩ | ⟨begins, keySpot, valueSpot, known', r', added, rest⟩⟩ :=
      of_entries_ok outer ran
    · have within := lt_size_of_found there
      rw [position]
      exact ⟨⟨Nat.lt_succ_self _, within, openAt_of_ends there opened last⟩, fun _ member => .inl member⟩
    · obtain ⟨key, r, content, read, read', rfl⟩ := of_addEntry_ok added
      have here : doc.isKey p.position = true := by
        rw [Document.isKey, opened, there]
        exact (Bool.not_eq_true' _).mpr begins
      rw [← opened] at begins
      obtain ⟨further, _, behind⟩ := each keySpot p key r read (begins_of_found there begins)
      rw [opened] at behind
      -- behind a key there is its content, whatever the event
      have begins' : doc.Begins r.position := by
        intro event' mark' _
        rw [behind]
        rfl
      obtain ⟨further', within', behind'⟩ := each valueSpot r content r' read' begins'
      rw [behind] at behind'
      obtain ⟨⟨further'', within'', behind''⟩, keys⟩ := ih (by omega) within' behind' rest
      refine ⟨⟨by omega, within'', behind''⟩, fun entry member => ?_⟩
      rcases keys entry member with listed | later
      · rcases List.mem_cons.mp listed with rfl | listed
        · exact .inr ⟨keySpot, p, r, here, read⟩
        · exact .inl listed
      · exact .inr later

/-! ## Values -/

/-- How a value is read. -/
inductive ValueRead (doc : Document) (fuel : Nat) (tagged : Bool) (p : Progress) : Value → Progress → Prop
  | followed {anchor : Nat} {mark : Mark} {spot : Spot} {v : Value} {p' q q' : Progress} :
      doc.items[p.position]? = some (.alias anchor, mark) → p'.position = p.position + 1 →
      q.position = (doc.anchors.lookup anchor).getD doc.items.size → value doc fuel false spot q = .ok (v, q') →
      ValueRead doc fuel tagged p v p'
  | behindTag {spot : Spot} {name : String} {v : Value} {p' : Progress} :
      value doc fuel true spot p = .ok (v, p') → ValueRead doc fuel tagged p (.tagged name v) p'
  | scalar {tag : Option Tag} {text : List Char} {style : Style} {mark : Mark} {v : Value} {p' : Progress} :
      doc.items[p.position]? = some (.scalar tag text style, mark) → p'.position = p.position + 1 →
      (tagged = false → tag.bind Tag.localName? = none ∧ (denoted tag text style).bind Denoted.value = .ok v) →
      ValueRead doc fuel tagged p v p'
  | list {tag : Option Tag} {mark : Mark} {spot : Spot} {found : List Value} {q p' : Progress} :
      doc.items[p.position]? = some (.sequenceStart tag, mark) → q.position = p.position + 1 →
      items doc spot (value doc fuel false) doc.items.size [] q = .ok (found, p') →
      ValueRead doc fuel tagged p (.list found) p'
  | mapping {tag : Option Tag} {mark : Mark} {spot : Spot} {found : Entries} {q p' : Progress} :
      doc.items[p.position]? = some (.mappingStart tag, mark) → q.position = p.position + 1 →
      entries doc spot (addEntry (value doc fuel false)) doc.items.size [] q = .ok (found, p') →
      ValueRead doc fuel tagged p (.mapping found.reverse) p'
  | unexpected {event : Item} {mark : Mark} {p' : Progress} :
      doc.items[p.position]? = some (event, mark) → p'.position = p.position + 1 →
      event = .sequenceEnd ∨ event = .mappingEnd ∨ event = .void → ValueRead doc fuel tagged p .null p'

/-- A collection is read one level deeper, and its value made of what was read there. -/
theorem exists_of_inside_ok {β : Type} {inside : Spot → Reader α} {make : α → β} {b : β}
    (ran : (deeper mark spot >>= fun inner => inside inner >>= fun a => pure (make a) : Reader β) p = .ok (b, p')) :
    ∃ inner a, inside inner p = .ok (a, p') ∧ b = make a := by
  obtain ⟨inner, _, deep, going⟩ := exists_of_bind_ok ran
  obtain ⟨a, _, read, done⟩ := exists_of_bind_ok going
  rw [eq_of_deeper_ok deep] at read
  obtain ⟨rfl, rfl⟩ := eq_of_pure_ok done
  exact ⟨inner, a, read, rfl⟩

theorem valueRead_of_value_ok {tagged : Bool} (ran : value doc (fuel + 1) tagged spot p = .ok (v, p')) :
    ValueRead doc fuel tagged p v p' := by
  rw [value] at ran
  obtain ⟨start, r, got, going⟩ := exists_of_bind_ok ran
  cases got
  obtain ⟨⟨event, mark⟩, r, taken, going⟩ := exists_of_bind_ok going
  obtain ⟨there, position⟩ := of_next_ok taken
  have going := ok_of_placed going
  have behind (name : String) (going : (set p >>= fun _ => value doc fuel true spot >>= fun v => pure (.tagged name v) :
      Reader Value) r = .ok (v, p')) : ValueRead doc fuel tagged p v p' := by
    obtain ⟨_, _, back, going⟩ := exists_of_bind_ok going
    cases back
    obtain ⟨v, _, read, done⟩ := exists_of_bind_ok going
    obtain ⟨rfl, rfl⟩ := eq_of_pure_ok done
    exact .behindTag read
  cases event with
  | «alias» anchor =>
    obtain ⟨back, q, q', lands, read⟩ := of_following_ok going
    exact .followed there (back.trans position) lands read
  | scalar tag text style =>
    cases named : (if tagged then none else tag.bind Tag.localName?) with
    | some name =>
      simp only [named] at going
      exact behind name going
    | none =>
      cases meant : (denoted (if tagged then none else tag) text style).bind Denoted.value with
      | error cause =>
        simp only [named, meant] at going
        exact (not_throw_ok going).elim
      | ok meaning =>
        simp only [named, meant] at going
        obtain ⟨rfl, rfl⟩ := eq_of_pure_ok going
        refine .scalar there position fun untagged => ?_
        subst untagged
        exact ⟨named, meant⟩
  | sequenceStart tag =>
    cases named : (if tagged then none else tag.bind Tag.localName?) with
    | some name =>
      simp only [named] at going
      exact behind name going
    | none =>
      simp only [named] at going
      obtain ⟨inner, found, read, rfl⟩ := exists_of_inside_ok going
      exact .list there position read
  | mappingStart tag =>
    cases named : (if tagged then none else tag.bind Tag.localName?) with
    | some name =>
      simp only [named] at going
      exact behind name going
    | none =>
      simp only [named] at going
      obtain ⟨inner, found, read, rfl⟩ := exists_of_inside_ok going
      exact .mapping there position read
  | sequenceEnd =>
    obtain ⟨rfl, rfl⟩ := eq_of_pure_ok going
    exact .unexpected there position (.inl rfl)
  | mappingEnd =>
    obtain ⟨rfl, rfl⟩ := eq_of_pure_ok going
    exact .unexpected there position (.inr (.inl rfl))
  | void =>
    obtain ⟨rfl, rfl⟩ := eq_of_pure_ok going
    exact .unexpected there position (.inr (.inr rfl))

/-- Whatever is read as a value takes one event and all that belongs to it. -/
theorem completes_value (fuel : Nat) (tagged : Bool) (spot : Spot) : Completes doc (value doc fuel tagged spot) := by
  induction fuel generalizing tagged spot with
  | zero => exact fun _ _ _ ran => (not_throw_ok ran).elim
  | succ fuel ih =>
    intro p v p' ran begins
    have leaf {event : Item} {mark : Mark} (there : doc.items[p.position]? = some (event, mark))
        (position : p'.position = p.position + 1)
        (flat : begun (doc.openAt p.position) event = settled (doc.openAt p.position)) :
        p.position < p'.position ∧ p'.position ≤ doc.items.size ∧
          doc.openAt p'.position = settled (doc.openAt p.position) := by
      have within := lt_size_of_found there
      rw [position, openAt_of_begins begins there, flat]
      exact ⟨Nat.lt_succ_self _, within, rfl⟩
    cases valueRead_of_value_ok ran with
    | followed there position => exact leaf there position rfl
    | behindTag read => exact ih true _ p _ p' read begins
    | scalar there position => exact leaf there position rfl
    | list there position read =>
      have opened := openAt_of_begins begins there
      rw [← position] at opened
      have within := lt_size_of_found there
      obtain ⟨further, inside, behind⟩ :=
        completes_items (fun spot => ih false spot) (by omega) (by omega) opened read
      exact ⟨by omega, inside, behind⟩
    | mapping there position read =>
      have opened := openAt_of_begins begins there
      rw [← position] at opened
      have within := lt_size_of_found there
      obtain ⟨⟨further, inside, behind⟩, _⟩ :=
        completes_entries (fun spot => ih false spot) (by omega) (by omega) opened read
      exact ⟨by omega, inside, behind⟩
    | unexpected there position other =>
      refine leaf there position ?_
      rcases other with rfl | rfl | rfl <;> rfl

/-- A text or a number is what the event at its place denotes. -/
theorem denotation?_of_value_ok (ran : value doc fuel false spot p = .ok (v, p'))
    (plain : (∃ s, v = .string s) ∨ ∃ n, v = .int n) : doc.denotation? fuel p.position = some v := by
  induction fuel generalizing spot p p' with
  | zero => exact (not_throw_ok ran).elim
  | succ fuel ih =>
    cases valueRead_of_value_ok ran with
    | followed there _ lands read =>
      have read := ih read
      rw [lands] at read
      rw [Document.denotation?, there]
      exact read
    | scalar there _ meant =>
      obtain ⟨untagged, meant⟩ := meant rfl
      rw [Document.denotation?, there]
      simp only [untagged, meant, Option.isSome_none, Bool.false_eq_true, if_false]
    | behindTag | list | mapping | unexpected => rcases plain with ⟨_, same⟩ | ⟨_, same⟩ <;> cases same

/-- Each key of an untyped mapping stands at a place of a key; a text or a number is what it denotes there. -/
theorem exists_key_of_untyped_ok {found : Entries} (ran : untyped doc spot p = .ok (found, p')) {entry : Value × Value}
    (member : entry ∈ found) : ∃ place, doc.isKey place = true ∧
      ((∃ s, entry.1 = .string s) ∨ (∃ n, entry.1 = .int n) →
        doc.denotation? (valueFuel doc) place = some entry.1) := by
  obtain ⟨known, q, _, finished, rfl | ⟨place, tag, mark, inner, r, there, position, read⟩⟩ := exists_of_mapping_ok ran
  · obtain ⟨rfl, _⟩ := eq_of_pure_ok finished
    cases member
  · obtain ⟨rfl, _⟩ := eq_of_pure_ok finished
    have within := lt_size_of_found there
    have opened : doc.openAt r.position = .key :: doc.openAt place := by
      have begins : ends (doc.openAt place) (.mappingStart tag) = false := by
        cases doc.openAt place with
        | nil => rfl
        | cons slot outer => cases slot <;> rfl
      rw [position, openAt_of_begins (begins_of_found there begins) there]
      rfl
    obtain ⟨_, keys⟩ :=
      completes_entries (fun spot => completes_value (valueFuel doc) false spot) (by omega) (by omega) opened read
    rcases keys entry (List.mem_reverse.mp member) with none | ⟨spot, q, q', here, read⟩
    · cases none
    · exact ⟨q.position, here, denotation?_of_value_ok read⟩

end UiCheck.Yaml
