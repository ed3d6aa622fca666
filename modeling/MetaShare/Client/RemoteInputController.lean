import MetaShare.Client.SessionInputForwarder
import Mathlib.Algebra.Order.Ring.Nat
import Mathlib.Tactic.Common

namespace MetaShare

open StreamSession

/-!
# Typing in the hidden editor

Every edit of the editor is reported to a watcher, which types what was inserted
and then sends a backspace for each character by which the editor became shorter.
The host sees key presses only.  A text is a list of UTF-16 code units.
-/

namespace Keysyms

/-- The keysym of a committed character: Latin-1 printables stand for themselves,
the others are in the range that is reserved for Unicode. -/
def fromCodePoint (cp : Nat) : Int :=
  if cp = 10 then 0xff0d
  else if cp = 9 then 0xff09
  else if 0x20 ≤ cp ∧ cp ≤ 0x7e then cp
  else if 0xa0 ≤ cp ∧ cp ≤ 0xff then cp
  else (0x01000000 ||| cp : Nat)

/-- The character that a keysym types on the host. -/
def character (keysym : Int) : Option Nat :=
  if keysym = 0xff0d then some 10
  else if keysym = 0xff09 then some 9
  else if 0x20 ≤ keysym ∧ keysym ≤ 0x7e ∨ 0xa0 ≤ keysym ∧ keysym ≤ 0xff then some keysym.toNat
  else if 0x01000000 ≤ keysym then some (keysym - 0x01000000).toNat
  else none

theorem fromCodePoint_unicode {cp : Nat} (small : cp < 2 ^ 24) :
    (0x01000000 ||| cp : Nat) = 0x01000000 + cp := by
  have disjoint := Nat.two_pow_add_eq_or_of_lt small 1
  rw [Nat.mul_one] at disjoint
  exact disjoint.symm

/-- The host types the character whose keysym it gets. -/
theorem character_fromCodePoint {cp : Nat} (small : cp < 2 ^ 24) : character (fromCodePoint cp) = some cp := by
  have unicode := fromCodePoint_unicode small
  rw [fromCodePoint, unicode, character]
  split_ifs <;> first | omega | (apply congrArg some; omega)

end Keysyms

namespace RemoteInputController

open Keysyms SessionInputForwarder

variable {Amount : Type}

def XK_BackSpace : Int := 0xff08

def isHighSurrogate (unit : UInt16) : Bool := 0xd800 ≤ unit && unit ≤ 0xdbff

def isLowSurrogate (unit : UInt16) : Bool := 0xdc00 ≤ unit && unit ≤ 0xdfff

/-- The code points of a text: `codePointAt` and `charCount` from the beginning to
the end. -/
def codePoints : List UInt16 → List Nat
  | [] => []
  | [unit] => [unit.toNat]
  | high :: low :: rest =>
      if isHighSurrogate high && isLowSurrogate low then
        ((high.toNat - 0xd800) * 0x400 + (low.toNat - 0xdc00) + 0x10000) :: codePoints rest
      else high.toNat :: codePoints (low :: rest)

def onTextInput (forwarder : SessionInputForwarder Amount) (text : List UInt16) : List Input :=
  if forwarder.session then textInput ((codePoints text).map fromCodePoint) else []

def onKeyInput (forwarder : SessionInputForwarder Amount) (keysym : Int) (pressed : Bool) : List Input :=
  if forwarder.session then [.key keysym pressed] else []

/-- The watcher of the editor: in `s`, the `count` characters at `start` have
replaced `before` others. -/
def onTextChanged (forwarder : SessionInputForwarder Amount) (s : List UInt16) (start before count : Nat) :
    List Input :=
  (if 0 < count then onTextInput forwarder ((s.drop start).take count) else []) ++
    (List.range' count (before - count)).flatMap (fun _ =>
      onKeyInput forwarder XK_BackSpace true ++ onKeyInput forwarder XK_BackSpace false)

/-! ## The editor and the host -/

/-- An edit at the end of the text.  The inserted characters are of the Basic
Multilingual Plane: none is the first half of a pair. -/
structure Edit where
  before : Nat
  inserted : List UInt16
  plain : inserted.any isHighSurrogate = false

/-- The text of the editor after the edit. -/
def Edit.result (edit : Edit) (text : List UInt16) : List UInt16 :=
  text.take (text.length - edit.before) ++ edit.inserted

/-- What the watcher sends when the text has been edited. -/
def Edit.sent (forwarder : SessionInputForwarder Amount) (edit : Edit) (text : List UInt16) : List Input :=
  onTextChanged forwarder (edit.result text) (text.length - edit.before) edit.before edit.inserted.length

/-- The text of the host after a line: a character is appended when its key is
pressed, and BackSpace removes the last one. -/
def receive (text : List Nat) : Input → List Nat
  | .key keysym true => if keysym = XK_BackSpace then text.dropLast else text ++ (character keysym).toList
  | _ => text

/-- The editor and the host after the edits. -/
def edited (forwarder : SessionInputForwarder Amount) (edits : List Edit) : List UInt16 × List Nat :=
  edits.foldl (fun texts edit => (edit.result texts.1, (edit.sent forwarder texts.1).foldl receive texts.2)) ([], [])

/-- No edit removes more than there is. -/
def Possible : List UInt16 → List Edit → Prop
  | _, [] => True
  | text, edit :: edits => edit.before ≤ text.length ∧ Possible (edit.result text) edits

/-! ## One edit -/

section Edits

variable {forwarder : SessionInputForwarder Amount}

theorem codePoints_plain {text : List UInt16} (plain : ∀ unit ∈ text, isHighSurrogate unit = false) :
    codePoints text = text.map UInt16.toNat := by
  induction text using codePoints.induct with
  | case1 => rfl
  | case2 unit => rfl
  | case3 high low rest pair _ =>
      rw [plain high List.mem_cons_self] at pair
      cases pair
  | case4 high low rest apart inductionHypothesis =>
      have later := inductionHypothesis (fun unit member => plain unit (List.mem_cons_of_mem _ member))
      rw [codePoints, if_neg apart, later]
      rfl

theorem Edit.isPlain (edit : Edit) : ∀ unit ∈ edit.inserted, isHighSurrogate unit = false :=
  fun unit member => Bool.eq_false_iff.mpr (List.any_eq_false.mp edit.plain unit member)

theorem plain_result {edit : Edit} {text : List UInt16} (plain : ∀ unit ∈ text, isHighSurrogate unit = false) :
    ∀ unit ∈ edit.result text, isHighSurrogate unit = false := by
  intro unit member
  rcases List.mem_append.mp member with old | new
  · exact plain unit (List.mem_of_mem_take old)
  · exact edit.isPlain unit new

/-- A typed character is appended. -/
theorem receive_character {cp : Nat} (small : cp < 2 ^ 24) (text : List Nat) :
    receive text (.key (fromCodePoint cp) true) = text ++ [cp] := by
  have unicode := fromCodePoint_unicode small
  have apart : fromCodePoint cp ≠ XK_BackSpace := by
    rw [fromCodePoint, unicode, XK_BackSpace]
    split_ifs <;> omega
  rw [receive, if_neg apart, character_fromCodePoint small]
  rfl

theorem receive_textInput {characters : List Nat} (small : ∀ cp ∈ characters, cp < 2 ^ 24) (text : List Nat) :
    (textInput (characters.map fromCodePoint)).foldl receive text = text ++ characters := by
  induction characters generalizing text with
  | nil => exact (List.append_nil text).symm
  | cons cp characters inductionHypothesis =>
      have lines : textInput ((cp :: characters).map fromCodePoint) =
          .key (fromCodePoint cp) true :: .key (fromCodePoint cp) false ::
            textInput (characters.map fromCodePoint) := rfl
      rw [lines, List.foldl_cons, List.foldl_cons, receive_character (small cp List.mem_cons_self)]
      rw [receive, inductionHypothesis (fun cp member => small cp (List.mem_cons_of_mem _ member)),
        List.append_assoc, List.singleton_append]
      simp

/-- So many backspaces remove so many characters. -/
theorem receive_backspaces (isBound : forwarder.session = true) (start count : Nat) (text : List Nat) :
    ((List.range' start count).flatMap (fun _ =>
      onKeyInput forwarder XK_BackSpace true ++ onKeyInput forwarder XK_BackSpace false)).foldl receive text =
        text.take (text.length - count) := by
  have once : onKeyInput forwarder XK_BackSpace true ++ onKeyInput forwarder XK_BackSpace false =
      [.key XK_BackSpace true, .key XK_BackSpace false] := by
    rw [onKeyInput, onKeyInput, if_pos isBound, if_pos isBound, List.singleton_append]
  rw [once]
  induction count generalizing start text with
  | zero => exact (List.take_length).symm
  | succ count inductionHypothesis =>
      have removed :
          [Input.key XK_BackSpace true, Input.key XK_BackSpace false].foldl receive text = text.dropLast := rfl
      rw [List.range'_succ, List.flatMap_cons, List.foldl_append, removed, inductionHypothesis,
        List.length_dropLast, List.dropLast_eq_take, List.take_take]
      congr 1
      omega

/-- The host appends what was inserted, and then removes what the text became
shorter by. -/
theorem receive_sent (isBound : forwarder.session = true) {edit : Edit} {text : List UInt16} (host : List Nat) :
    (edit.sent forwarder text).foldl receive host =
      (host ++ edit.inserted.map UInt16.toNat).take
        ((host ++ edit.inserted.map UInt16.toNat).length - (edit.before - edit.inserted.length)) := by
  have kept : (text.take (text.length - edit.before)).length = text.length - edit.before :=
    List.length_take_of_le (Nat.sub_le _ _)
  have inserted :
      ((edit.result text).drop (text.length - edit.before)).take edit.inserted.length = edit.inserted := by
    rw [Edit.result, List.drop_left' kept, List.take_length]
  have typed : (if 0 < edit.inserted.length then onTextInput forwarder edit.inserted else []).foldl receive host =
      host ++ edit.inserted.map UInt16.toNat := by
    split
    · rw [onTextInput, if_pos isBound, codePoints_plain edit.isPlain]
      apply receive_textInput
      intro cp member
      obtain ⟨unit, _, rfl⟩ := List.mem_map.mp member
      exact unit.toNat_lt.trans (by decide)
    · rename_i nothing
      rw [List.length_eq_zero_iff.mp (Nat.eq_zero_of_not_pos nothing)]
      exact (List.append_nil host).symm
  rw [Edit.sent, onTextChanged, inserted, List.foldl_append, typed, receive_backspaces isBound]

/-- The host goes along with an edit that only inserts or only removes. -/
theorem follows_iff (isBound : forwarder.session = true) {edit : Edit} {text : List UInt16} {host : List Nat}
    (plain : ∀ unit ∈ text, isHighSurrogate unit = false) (possible : edit.before ≤ text.length)
    (mirrored : host = codePoints text) :
    (edit.sent forwarder text).foldl receive host = codePoints (edit.result text) ↔
      edit.before = 0 ∨ edit.inserted = [] := by
  rw [codePoints_plain plain] at mirrored
  rw [receive_sent isBound, codePoints_plain (plain_result plain), mirrored]
  constructor
  · intro same
    have lengths := congrArg List.length same
    simp only [Edit.result, List.length_take, List.length_append, List.length_map] at lengths
    rw [← List.length_eq_zero_iff]
    omega
  · rintro (insertion | deletion)
    · rw [Edit.result, insertion, Nat.zero_sub, Nat.sub_zero, Nat.sub_zero, List.take_length, List.take_length,
        List.map_append]
    · rw [Edit.result, deletion, List.map_nil, List.append_nil, List.append_nil, List.map_take, List.length_map,
        List.length_nil, Nat.sub_zero]

/-! ## All edits -/

theorem edited_concat (edits : List Edit) (edit : Edit) :
    edited forwarder (edits ++ [edit]) =
      (edit.result (edited forwarder edits).1,
        (edit.sent forwarder (edited forwarder edits).1).foldl receive (edited forwarder edits).2) :=
  List.foldl_concat _ _ _ _

theorem possible_append {text : List UInt16} {early late : List Edit} (possible : Possible text (early ++ late)) :
    Possible text early ∧ Possible (early.foldl (fun text edit => edit.result text) text) late := by
  induction early generalizing text with
  | nil => exact ⟨trivial, possible⟩
  | cons edit early inductionHypothesis =>
      obtain ⟨enough, later⟩ := possible
      have rest := inductionHypothesis later
      exact ⟨⟨enough, rest.1⟩, rest.2⟩

theorem edited_text (edits : List Edit) :
    (edited forwarder edits).1 = edits.foldl (fun text edit => edit.result text) [] := by
  induction edits using List.reverseRecOn with
  | nil => rfl
  | append_singleton edits edit inductionHypothesis =>
      rw [edited_concat, List.foldl_concat, inductionHypothesis]

theorem plain_edited (edits : List Edit) :
    ∀ unit ∈ (edited forwarder edits).1, isHighSurrogate unit = false := by
  induction edits using List.reverseRecOn with
  | nil => exact fun unit member => absurd member List.not_mem_nil
  | append_singleton edits edit inductionHypothesis =>
      rw [edited_concat]
      exact plain_result inductionHypothesis

/-- The next edit is followed exactly when it only inserts or only removes. -/
theorem next_follows_iff (isBound : forwarder.session = true) {early late : List Edit} {edit : Edit}
    (possible : Possible [] (early ++ edit :: late))
    (mirrored : (edited forwarder early).2 = codePoints (edited forwarder early).1) :
    (edited forwarder (early ++ [edit])).2 = codePoints (edited forwarder (early ++ [edit])).1 ↔
      edit.before = 0 ∨ edit.inserted = [] := by
  have enough : edit.before ≤ (edited forwarder early).1.length := by
    rw [edited_text]
    exact (possible_append possible).2.1
  rw [edited_concat]
  exact follows_iff isBound (plain_edited early) enough mirrored

/-- The host has the text of the editor after every edit exactly when no edit
replaces characters by others: what replaces them is typed behind them. -/
theorem typed_mirrored (isBound : forwarder.session = true) {edits : List Edit} (possible : Possible [] edits) :
    (∀ early late, edits = early ++ late →
      (edited forwarder early).2 = codePoints (edited forwarder early).1) ↔
        ∀ edit ∈ edits, edit.before = 0 ∨ edit.inserted = [] := by
  constructor
  · intro mirrored edit member
    obtain ⟨early, late, rfl⟩ := List.append_of_mem member
    have next := mirrored (early ++ [edit]) late (by rw [List.append_assoc, List.singleton_append])
    exact (next_follows_iff isBound possible (mirrored early (edit :: late) rfl)).mp next
  · intro separate early
    induction early using List.reverseRecOn with
    | nil => exact fun _ _ => rfl
    | append_singleton early edit inductionHypothesis =>
        intro late split
        rw [List.append_assoc, List.singleton_append] at split
        have follows := separate edit (split ▸ List.mem_append_right _ List.mem_cons_self)
        exact (next_follows_iff isBound (split ▸ possible) (inductionHypothesis (edit :: late) split)).mpr follows

end Edits

/-- An insertion and a deletion: the letters a and b, and one of them removed. -/
theorem typed_mirrored_sample :
    (edited (bound ()) [⟨0, [97, 98], by decide⟩, ⟨1, [], by decide⟩]).2 = [97] ∧
      ∀ early late, [(⟨0, [97, 98], by decide⟩ : Edit), ⟨1, [], by decide⟩] = early ++ late →
        (edited (bound ()) early).2 = codePoints (edited (bound ()) early).1 := by
  have possible : Possible [] [⟨0, [97, 98], by decide⟩, ⟨1, [], by decide⟩] :=
    ⟨Nat.le_refl 0, by decide, trivial⟩
  refine ⟨by decide, (typed_mirrored rfl possible).mpr ?_⟩
  intro edit member
  rcases List.mem_pair.mp member with rfl | rfl
  · exact .inl rfl
  · exact .inr rfl

/-- The letter a is replaced by a b, as an input method does that corrects a word:
the host has both. -/
theorem replacement_kept :
    ∃ edits : List Edit, Possible [] edits ∧ (edited (bound ()) edits).1 = [98] ∧
      (edited (bound ()) edits).2 = [97, 98] ∧
        (edited (bound ()) edits).2 ≠ codePoints (edited (bound ()) edits).1 :=
  ⟨[⟨0, [97], by decide⟩, ⟨1, [98], by decide⟩], ⟨Nat.le_refl 0, by decide, trivial⟩, by decide,
    by decide, by decide⟩

end RemoteInputController
end MetaShare
