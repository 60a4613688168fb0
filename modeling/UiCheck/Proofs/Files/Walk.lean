import UiCheck.Files.Disk
import UiCheck.Proofs.Files.Tree

/-! # Walks that arrive

`Arrives` tells how a walk comes to where it ends, part by part and link by link: at a node that is there or at a name
that its directory does not have.
-/

namespace UiCheck.Files

/-- A walk with so many links still allowed ends at a place. The names of where it starts are in reverse order. -/
inductive Arrives (tree : Node) (follow : Bool) : Nat → List String → List Part → Place → Prop
  | present {links : Nat} {names : List String} {node : Node} :
      tree.get? names.reverse = some node → Arrives tree follow links names [] (.present names node)
  | root {links : Nat} {names : List String} {way : List Part} {place : Place} :
      Arrives tree follow links [] way place → Arrives tree follow links names (.root :: way) place
  | here {links : Nat} {names : List String} {way : List Part} {place : Place} {entries : Entries} :
      tree.get? names.reverse = some (.directory entries) →
      Arrives tree follow links names way place → Arrives tree follow links names (.here :: way) place
  | up {links : Nat} {names : List String} {way : List Part} {place : Place} {entries : Entries} :
      tree.get? names.reverse = some (.directory entries) →
      Arrives tree follow links names.tail way place → Arrives tree follow links names (.up :: way) place
  | vacant {links : Nat} {names : List String} {text : String} {entries : Entries} :
      tree.get? names.reverse = some (.directory entries) → ¬ nameLimit < text.utf8ByteSize →
      entries.lookup text = none → Arrives tree follow links names [.name text] (.vacant names text)
  | unfollowed {links : Nat} {names : List String} {text target : String} {entries : Entries} :
      tree.get? names.reverse = some (.directory entries) → ¬ nameLimit < text.utf8ByteSize →
      entries.lookup text = some (.link target) → follow = false →
      Arrives tree follow links names [.name text] (.present (text :: names) (.link target))
  | link {links : Nat} {names : List String} {text target : String} {way : List Part} {place : Place}
      {entries : Entries} :
      tree.get? names.reverse = some (.directory entries) → ¬ nameLimit < text.utf8ByteSize →
      entries.lookup text = some (.link target) → target.isEmpty = false →
      Arrives tree follow links names (steps target ++ way) place →
      Arrives tree follow (links + 1) names (.name text :: way) place
  | name {links : Nat} {names : List String} {text : String} {way : List Part} {place : Place} {entries : Entries}
      {node : Node} :
      tree.get? names.reverse = some (.directory entries) → ¬ nameLimit < text.utf8ByteSize →
      entries.lookup text = some node → (∀ target, node ≠ .link target) →
      Arrives tree follow links (text :: names) way place → Arrives tree follow links names (.name text :: way) place

variable {tree : Node} {follow : Bool} {links : Nat} {names : List String} {way : List Part} {place : Place}

theorem arrives_of_walk (walked : walk tree follow links names way = .ok place) :
    Arrives tree follow links names way place := by
  -- a part behind the first is reached with no more links, and what a link leads to with fewer
  induction links using Nat.strongRecOn generalizing names way with
  | ind links fewer =>
    induction way generalizing names with
    | nil =>
      rw [walk] at walked
      split at walked
      · next found =>
        cases walked
        exact .present found
      · cases walked
    | cons part way ih =>
      cases part with
      | root =>
        rw [walk] at walked
        exact .root (ih walked)
      | here =>
        rw [walk] at walked
        split at walked
        · next directory => exact .here directory (ih walked)
        · cases walked
        · cases walked
      | up =>
        rw [walk] at walked
        split at walked
        · next directory => exact .up directory (ih walked)
        · cases walked
        · cases walked
      | name text =>
        rw [walk] at walked
        split at walked
        · cases walked
        · next directory =>
          split at walked
          · cases walked
          · next short =>
            split at walked
            · next missing =>
              split at walked
              · next last =>
                cases walked
                rw [List.isEmpty_iff.mp last]
                exact .vacant directory short missing
              · cases walked
            · next target linked =>
              split at walked
              · next stays =>
                obtain ⟨last, stays⟩ := Bool.and_eq_true_iff.mp stays
                cases walked
                rw [List.isEmpty_iff.mp last]
                exact .unfollowed directory short linked ((Bool.not_eq_true' follow).mp stays)
              · cases links with
                | zero => cases walked
                | succ links =>
                  dsimp only at walked
                  split at walked
                  · cases walked
                  · next filled =>
                    have rest := fewer links (Nat.lt_succ_self links) walked
                    exact .link directory short linked (Bool.eq_false_iff.mpr filled) rest
            · next node other below =>
              exact .name directory short below other (ih walked)
        · cases walked

/-- What a walk finds is there. -/
theorem Arrives.get? {found : List String} {node : Node}
    (arrives : Arrives tree follow links names way (.present found node)) : tree.get? found.reverse = some node := by
  generalize same : Place.present found node = place at arrives
  induction arrives with
  | present there =>
    cases same
    exact there
  | vacant => cases same
  | unfollowed directory _ linked =>
    cases same
    rw [List.reverse_cons, Node.get?_snoc directory, linked]
  | root _ ih => exact ih same
  | here _ _ ih => exact ih same
  | up _ _ ih => exact ih same
  | link _ _ _ _ _ ih => exact ih same
  | name _ _ _ _ _ ih => exact ih same

/-- A free name is one that its directory does not have. -/
theorem Arrives.missing {directory : List String} {name : String}
    (arrives : Arrives tree follow links names way (.vacant directory name)) :
    ∃ entries, tree.get? directory.reverse = some (.directory entries) ∧ entries.lookup name = none := by
  generalize same : Place.vacant directory name = place at arrives
  induction arrives with
  | vacant there _ none =>
    cases same
    exact ⟨_, there, none⟩
  | present | unfollowed => cases same
  | root _ ih => exact ih same
  | here _ _ ih => exact ih same
  | up _ _ ih => exact ih same
  | link _ _ _ _ _ ih => exact ih same
  | name _ _ _ _ _ ih => exact ih same

/-- A dot at the end of a way asks for a directory. -/
theorem Arrives.exists_of_here {whole : List Part} (arrives : Arrives tree follow links names whole place)
    (same : whole = way ++ [.here]) : ∃ found entries, place = .present found (.directory entries) := by
  induction arrives generalizing way with
  | present => exact absurd same.symm (List.append_ne_nil_of_right_ne_nil _ (List.cons_ne_nil _ _))
  | here directory rest ih =>
    cases way with
    | nil =>
      obtain rfl := (List.cons.inj same).2
      cases rest with
      | present there =>
        cases there.symm.trans directory
        exact ⟨_, _, rfl⟩
    | cons => exact ih (List.cons.inj same).2
  | root _ ih | up _ _ ih | name _ _ _ _ _ ih =>
    cases way with
    | nil => cases (List.cons.inj same).1
    | cons => exact ih (List.cons.inj same).2
  | vacant | unfollowed =>
    cases way with
    | nil => cases (List.cons.inj same).1
    | cons => exact absurd (List.cons.inj same).2.symm (List.append_ne_nil_of_right_ne_nil _ (List.cons_ne_nil _ _))
  | link _ _ _ _ _ ih =>
    cases way with
    | nil => cases (List.cons.inj same).1
    | cons _ way =>
      have rest := (List.cons.inj same).2
      exact ih ((congrArg (steps _ ++ ·) rest).trans (List.append_assoc ..).symm)

end UiCheck.Files
