import UiCheck.Text.Blank
import UiCheck.Text.Case
import UiCheck.Text.Search

/-! # Code fences

A reply may wrap its code in fences of three backticks, with the name of a language behind the opening one,
and may introduce it by a sentence. All of that is removed.
-/

namespace UiCheck.Patch

/-- The three backticks of a fence. -/
def fence : List Char := ['\x60', '\x60', '\x60']

/-- What follows an opening fence: backticks, letters and the end of the line. -/
def afterFence? (s : List Char) : Option (List Char) :=
  match Text.after? fence s with
  | none => none
  | some s =>
    match s.dropWhile Char.isAlpha with
    | '\n' :: rest => some rest
    | '\r' :: '\n' :: rest => some rest
    | _ => none

/-- Removes the opening fences, with the output so far reversed and one unit of fuel for each character. -/
def removeFences : Nat → List Char → List Char → List Char
  | 0, done, s => done.reverse ++ s
  | fuel + 1, done, s =>
    match afterFence? s with
    | some rest => removeFences fuel done rest
    | none =>
      match s with
      | [] => done.reverse
      | c :: rest => removeFences fuel (c :: done) rest

/-- What follows the first word `code` behind a blank on the line, in any case. -/
def afterCode? : List Char → Option (List Char)
  | [] => none
  | c :: s =>
    match Text.afterFolded? " code".toList (c :: s) with
    | some rest => some rest
    | none => if c = '\n' then none else afterCode? s

/-- What follows a sentence that introduces the code at the start of a text. -/
def afterPreamble? (s : List Char) : Option (List Char) :=
  match (Text.afterFolded? "here is the ".toList (Text.trimStart s)).bind afterCode? with
  | some (':' :: rest) => some rest
  | other => other

/-- The code of a reply, without fences, introduction and surrounding blanks. -/
def stripFences (text : String) : String :=
  let s := text.toList
  let s := removeFences s.length [] s
  let s := Text.replaceAll fence [] s
  String.ofList (Text.trim ((afterPreamble? s).getD s))

end UiCheck.Patch
