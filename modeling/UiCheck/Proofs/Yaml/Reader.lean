import UiCheck.Yaml.Reader

/-! # What readers that succeed have read

A reader that gives an answer has gone through its parts one after the other. The first half of this module takes such
a run apart; in the second half `Ensures` says what all answers of a reader have in common, wherever it starts, and
carries that through the readers of sequences, mappings and records.
-/

namespace UiCheck.Yaml

variable {α β σ : Type} {doc : Document} {p p' : Progress} {a : α} {b : β}

/-! ## Runs -/

theorem exists_of_bind_ok {reader : Reader α} {rest : α → Reader β} (ran : (reader >>= rest) p = .ok (b, p')) :
    ∃ a q, reader p = .ok (a, q) ∧ rest a q = .ok (b, p') := by
  rcases first : reader p with fault | ⟨a, q⟩
  · simp only [bind, StateT.bind, Except.bind, first] at ran
    cases ran
  · simp only [bind, StateT.bind, Except.bind, first] at ran
    exact ⟨a, q, rfl, ran⟩

theorem eq_of_pure_ok {answer : α} (ran : (pure answer : Reader α) p = .ok (a, p')) : a = answer ∧ p' = p := by
  cases ran
  exact ⟨rfl, rfl⟩

theorem not_throw_ok {fault : Fault} (ran : (throw fault : Reader α) p = .ok (a, p')) : False := by
  cases ran

theorem ok_of_placed {mark : Mark} {spot : Spot} {reader : Reader α} (ran : placed mark spot reader p = .ok (a, p')) :
    reader p = .ok (a, p') := by
  rw [placed] at ran
  split at ran
  · cases ran
  · exact ran

theorem of_peek_ok {item : Item × Mark} (ran : peek doc p = .ok (item, p')) :
    doc.items[p.position]? = some item ∧ p' = p := by
  rw [peek] at ran
  obtain ⟨_, _, got, ran⟩ := exists_of_bind_ok ran
  cases got
  cases found : doc.items[p.position]? with
  | none =>
    rw [found] at ran
    exact (not_throw_ok ran).elim
  | some event =>
    rw [found] at ran
    obtain ⟨rfl, rfl⟩ := eq_of_pure_ok ran
    exact ⟨rfl, rfl⟩

theorem of_next_ok {item : Item × Mark} (ran : next doc p = .ok (item, p')) :
    doc.items[p.position]? = some item ∧ p'.position = p.position + 1 := by
  rw [next] at ran
  obtain ⟨_, _, peeked, moving⟩ := exists_of_bind_ok ran
  obtain ⟨found, same⟩ := of_peek_ok peeked
  obtain ⟨_, _, moved, done⟩ := exists_of_bind_ok moving
  cases moved
  cases done
  exact ⟨found, by rw [same]⟩

theorem eq_of_deeper_ok {mark : Mark} {spot inner : Spot} (ran : deeper mark spot p = .ok (inner, p')) : p' = p := by
  unfold deeper at ran
  cases nesting : spot.depth <;> rw [nesting] at ran <;> cases ran
  rfl

/-- The value of an anchor is read where the anchor stands, and then the reader comes back. -/
theorem of_following_ok {anchor : Nat} {reader : Reader α} (ran : following doc anchor reader p = .ok (a, p')) :
    p'.position = p.position ∧ ∃ q q', q.position = (doc.anchors.lookup anchor).getD doc.items.size ∧
      reader q = .ok (a, q') := by
  rw [following] at ran
  obtain ⟨_, _, got, ran⟩ := exists_of_bind_ok ran
  cases got
  dsimp only at ran
  split at ran
  · obtain ⟨_, _, thrown, _⟩ := exists_of_bind_ok ran
    exact (not_throw_ok thrown).elim
  · obtain ⟨_, _, jumped, ran⟩ := exists_of_bind_ok ran
    cases jumped
    obtain ⟨answer, q, read, ran⟩ := exists_of_bind_ok ran
    obtain ⟨_, _, moved, ran⟩ := exists_of_bind_ok ran
    cases moved
    cases ran
    exact ⟨rfl, _, q, rfl, read⟩

/-- On the other side of all aliases a reader meets an event that is none. -/
theorem exists_of_onItem_ok {spot : Spot} {reader : Item → Mark → Reader α} (ran : onItem doc spot reader p = .ok (a, p')) :
    ∃ place item mark q q', doc.items[place]? = some (item, mark) ∧ q.position = place + 1 ∧
      reader item mark q = .ok (a, q') := by
  rw [onItem] at ran
  generalize doc.items.size * 100 + 2 = fuel at ran
  induction fuel generalizing p p' with
  | zero => exact (not_throw_ok ran).elim
  | succ fuel ih =>
    obtain ⟨⟨item, mark⟩, q, taken, ran⟩ := exists_of_bind_ok ran
    obtain ⟨found, position⟩ := of_next_ok taken
    have ran := ok_of_placed ran
    cases item with
    | «alias» anchor =>
      obtain ⟨_, q, q', _, read⟩ := of_following_ok ran
      exact ih read
    | _ => exact ⟨p.position, _, mark, q, p', found, position, ran⟩

/-- A mapping is finished with what was known at first, or with what its entries told. -/
theorem exists_of_mapping_ok {expected : String} {entry : σ → Spot → Spot → Reader σ} {initial : σ}
    {finish : σ → Reader α} {spot : Spot} (ran : mapping doc expected entry initial finish spot p = .ok (a, p')) :
    ∃ known q q', finish known q = .ok (a, q') ∧ (known = initial ∨
      ∃ place tag mark inner r, doc.items[place]? = some (.mappingStart tag, mark) ∧ r.position = place + 1 ∧
        entries doc inner entry doc.items.size initial r = .ok (known, q)) := by
  obtain ⟨place, item, mark, r, q', found, position, ran⟩ := exists_of_onItem_ok ran
  split at ran
  · next tag =>
    obtain ⟨inner, r', deep, going⟩ := exists_of_bind_ok ran
    obtain ⟨known, q, read, finished⟩ := exists_of_bind_ok going
    rw [eq_of_deeper_ok deep] at read
    exact ⟨known, q, q', finished, .inr ⟨place, tag, mark, inner, r, found, position, read⟩⟩
  · split at ran
    · exact ⟨initial, r, q', ran, .inl rfl⟩
    · exact (not_throw_ok ran).elim

/-! ## What all answers have in common -/

/-- Whatever a reader answers, wherever it starts, has the property. -/
def Ensures (reader : Reader α) (good : α → Prop) : Prop :=
  ∀ p a p', reader p = .ok (a, p') → good a

variable {good : α → Prop} {reader : Reader α}

theorem Ensures.of_bind {good' : β → Prop} {rest : α → Reader β} (first : Ensures reader good)
    (second : ∀ a, good a → Ensures (rest a) good') : Ensures (reader >>= rest) good' := by
  intro p b p' ran
  obtain ⟨a, q, read, ran⟩ := exists_of_bind_ok ran
  exact second a (first p a q read) q b p' ran

theorem Ensures.of_pure (holds : good a) : Ensures (pure a) good := by
  intro p b p' ran
  obtain ⟨rfl, _⟩ := eq_of_pure_ok ran
  exact holds

theorem Ensures.trivial (reader : Reader α) : Ensures reader fun _ => True :=
  fun _ _ _ _ => True.intro

theorem Ensures.of_throw {fault : Fault} : Ensures (throw fault) good :=
  fun _ _ _ ran => (not_throw_ok ran).elim

theorem Ensures.of_onItem {spot : Spot} {reader : Item → Mark → Reader α}
    (each : ∀ item mark, Ensures (reader item mark) good) : Ensures (onItem doc spot reader) good := by
  intro p a p' ran
  obtain ⟨_, item, mark, q, q', _, _, read⟩ := exists_of_onItem_ok ran
  exact each item mark q a q' read

theorem Ensures.of_items {spot : Spot} {item : Spot → Reader α} (each : ∀ spot, Ensures (item spot) good) (fuel : Nat)
    {done : List α} (before : ∀ a ∈ done, good a) :
    Ensures (items doc spot item fuel done) fun found => ∀ a ∈ found, good a := by
  induction fuel generalizing done with
  | zero => exact .of_pure fun a member => before a (List.mem_reverse.mp member)
  | succ fuel ih =>
    refine .of_bind (.trivial _) fun event _ => ?_
    split
    · refine .of_bind (.trivial _) fun _ _ => .of_pure fun a member => before a (List.mem_reverse.mp member)
    · refine .of_bind (.trivial _) fun _ _ => .of_pure fun a member => before a (List.mem_reverse.mp member)
    · exact .of_bind (each _) fun a holds => ih (List.forall_mem_cons.mpr ⟨holds, before⟩)

theorem Ensures.of_entries {known : σ → Prop} {spot : Spot} {entry : σ → Spot → Spot → Reader σ}
    (each : ∀ s spot valueSpot, known s → Ensures (entry s spot valueSpot) known) (fuel : Nat) {s : σ} (before : known s) :
    Ensures (entries doc spot entry fuel s) known := by
  induction fuel generalizing s with
  | zero => exact .of_pure before
  | succ fuel ih =>
    refine .of_bind (.trivial _) fun event _ => ?_
    split
    · exact .of_bind (.trivial _) fun _ _ => .of_pure before
    · exact .of_bind (.trivial _) fun _ _ => .of_pure before
    · exact .of_bind (each _ _ _ before) fun s holds => ih holds

theorem Ensures.of_list {spot : Spot} {item : Spot → Reader α} (each : ∀ spot, Ensures (item spot) good) :
    Ensures (list doc item spot) fun found => ∀ a ∈ found, good a := by
  refine .of_onItem fun event mark => ?_
  split
  · exact .of_bind (.trivial _) fun _ _ => .of_items each _ nofun
  · split
    · exact .of_pure nofun
    · exact .of_throw

theorem Ensures.of_mapping {known : σ → Prop} {expected : String} {entry : σ → Spot → Spot → Reader σ} {initial : σ}
    {finish : σ → Reader α} {spot : Spot} (each : ∀ s spot valueSpot, known s → Ensures (entry s spot valueSpot) known)
    (before : known initial) (behind : ∀ s, known s → Ensures (finish s) good) :
    Ensures (mapping doc expected entry initial finish spot) good := by
  intro p a p' ran
  obtain ⟨s, q, q', finished, rfl | ⟨_, _, _, _, r, _, _, read⟩⟩ := exists_of_mapping_ok ran
  · exact behind s before q a q' finished
  · exact behind s (Ensures.of_entries each _ before r s q read) q a q' finished

/-- What is known of a record stays good if each field keeps it so. -/
theorem Ensures.of_record {known : σ → Prop} {typeName : String} {fields : List (RecordField σ)} {initial : σ}
    {finish : σ → Reader α} {spot : Spot}
    (each : ∀ f ∈ fields, ∀ s spot, known s → Ensures (f.read s spot) known) (before : known initial)
    (behind : ∀ s, known s → Ensures (finish s) good) :
    Ensures (record doc typeName fields initial finish spot) good := by
  refine .of_mapping (fun s spot valueSpot holds => ?_) before behind
  refine .of_bind (.trivial _) fun name _ => ?_
  split
  · exact .of_bind (.trivial _) fun _ _ => .of_pure holds
  · next f found =>
    split
    · exact .of_throw
    · exact each f (List.mem_of_find?_eq_some found) s valueSpot holds

theorem Ensures.of_optional {spot : Spot} {reader : Spot → Reader α} (each : ∀ spot, Ensures (reader spot) good) :
    Ensures (optional doc reader spot) fun found => ∀ a, found = some a → good a := by
  rw [optional]
  generalize doc.items.size * 100 + 2 = fuel
  have present : Ensures (return some (← reader spot)) fun found => ∀ a, found = some a → good a :=
    .of_bind (each spot) fun a holds => .of_pure fun _ same => Option.some.inj same ▸ holds
  induction fuel with
  | zero => exact .of_throw
  | succ fuel ih =>
    refine .of_bind (.trivial _) fun event _ => ?_
    split
    · refine .of_bind (.trivial _) fun _ _ => ?_
      intro p a p' ran
      obtain ⟨_, q, q', _, read⟩ := of_following_ok ran
      exact ih q a q' read
    · have settled (nothing : Bool) :
          Ensures (if nothing = true then do let _ ← next doc; return none else return some (← reader spot))
            fun found => ∀ a, found = some a → good a := by
        split
        · exact .of_bind (.trivial _) fun _ _ => .of_pure nofun
        · exact present
      -- the event may stand for nothing, and then it is only taken
      dsimp only
      split
      · exact .of_bind (.trivial _) fun nothing _ => settled nothing
      · split
        · split
          · exact .of_bind (.trivial _) fun nothing _ => settled nothing
          · exact .of_bind (.trivial _) fun nothing _ => settled nothing
        · split
          · exact .of_bind (.trivial _) fun nothing _ => settled nothing
          · exact .of_bind (.trivial _) fun nothing _ => settled nothing
    · exact .of_bind (.trivial _) fun _ _ => .of_pure nofun
    · exact present

/-- What is read from a whole text was read from its document. -/
theorem exists_of_readText_ok {source : String} {reader : Document → Spot → Reader α}
    (read : readText source reader = .ok a) :
    ∃ p p', reader (Document.ofText source).1 Spot.top p = .ok (a, p') := by
  rw [readText] at read
  dsimp only at read
  split at read
  · cases read
  · next answer ran =>
    split at read
    · cases read
    · split at read <;> cases read
      exact ⟨_, _, ran⟩

end UiCheck.Yaml
