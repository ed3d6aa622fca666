import MetaShare.Foundation.Transitions
import Mathlib.Logic.Function.Basic

namespace MetaShare

open Transitions

/-!
# The remote input

The threads of the user interface enqueue what the user does as lines, and a
sender thread writes the lines to the signaling socket.  A pointer move replaces
a move that was enqueued just before it.  Behind a slow link the queue is kept
short by discarding its oldest line, whatever that line says.
-/

namespace StreamSession

/-- One thing the user does.  The coordinates are decimal texts. -/
inductive Input where
  | move (x y : String)
  | button (evdevButton : Int) (pressed : Bool)
  | scroll (vSteps hSteps : Int)
  | key (keysym : Int) (pressed : Bool)
  deriving DecidableEq

def transition (pressed : Bool) : String := if pressed then " 1" else " 0"

def body : Input → String
  | .move x y => "m " ++ x ++ " " ++ y
  | .button evdevButton pressed => "b " ++ toString evdevButton ++ transition pressed
  | .scroll vSteps hSteps => "s " ++ toString vSteps ++ " " ++ toString hSteps
  | .key keysym pressed => "k " ++ toString keysym ++ transition pressed

def line (input : Input) : String := "INPUT " ++ body input

/-- The lines of a committed text, by the keysyms of its characters. -/
def textInput (keysyms : List Int) : List Input :=
  keysyms.flatMap (fun keysym => [.key keysym true, .key keysym false])

/-- The queue, the line that the sender has taken and not yet written, and what
has been written and enqueued. -/
structure BackChannel where
  inputQueue : List Input
  inputOpen : Bool
  sending : Option Input
  written : List Input
  enqueued : List Input
  deriving DecidableEq

def inputQueueCap : Nat := 512

/-- The channel when the stream has just come up. -/
def BackChannel.opened : BackChannel := ⟨[], true, none, [], []⟩

/-- The new line is a move, and so is the last one in the queue. -/
def coalesces (queue : List Input) (input : Input) : Bool :=
  (body input).toList.head? == some 'm' &&
    match queue.getLast? with
    | some last => "INPUT m ".toList.isPrefixOf (line last).toList
    | none => false

namespace BackChannel

def enqueueInput (channel : BackChannel) (input : Input) : BackChannel :=
  if channel.inputOpen then
    let kept := if coalesces channel.inputQueue input then channel.inputQueue.dropLast else channel.inputQueue
    let queue := kept ++ [input]
    { channel with
      inputQueue := if inputQueueCap < queue.length then queue.tail else queue
      enqueued := channel.enqueued ++ [input] }
  else channel

/-- The sender takes a line under the lock.  It waits while there is none. -/
def poll (channel : BackChannel) : Option BackChannel :=
  match channel.inputOpen, channel.sending, channel.inputQueue with
  | true, none, first :: rest => some { channel with inputQueue := rest, sending := some first }
  | _, _, _ => none

/-- The sender writes the line outside the lock. -/
def write (channel : BackChannel) : Option BackChannel :=
  match channel.sending with
  | some input => some { channel with sending := none, written := channel.written ++ [input] }
  | none => none

/-- The session ends. -/
def close (channel : BackChannel) : BackChannel := { channel with inputOpen := false, inputQueue := [] }

end BackChannel

inductive InputAction where
  | enqueue (input : Input)
  | poll
  | write
  | close

def inputStep (channel : BackChannel) : InputAction → Option BackChannel
  | .enqueue input => some (channel.enqueueInput input)
  | .poll => channel.poll
  | .write => channel.write
  | .close => some channel.close

/-! ## What the lines amount to -/

/-- A button or a key. -/
inductive Control where
  | button (evdevButton : Int)
  | key (keysym : Int)
  deriving DecidableEq

/-- What a line is about. -/
inductive Subject where
  | pointer
  | control (control : Control)
  deriving DecidableEq

/-- What is pressed, and where the pointer is. -/
@[ext] structure Effect where
  pressed : Control → Bool
  position : Option (String × String)

namespace Input

/-- A scroll is about nothing that lasts. -/
def subject : Input → Option Subject
  | .move _ _ => some .pointer
  | .button evdevButton _ => some (.control (.button evdevButton))
  | .scroll _ _ => none
  | .key keysym _ => some (.control (.key keysym))

def apply (effect : Effect) : Input → Effect
  | .move x y => { effect with position := some (x, y) }
  | .button evdevButton pressed =>
      { effect with pressed := Function.update effect.pressed (.button evdevButton) pressed }
  | .scroll _ _ => effect
  | .key keysym pressed => { effect with pressed := Function.update effect.pressed (.key keysym) pressed }

end Input

/-- The effect of the lines, applied in order. -/
def effectOf (lines : List Input) : Effect := lines.foldl Input.apply ⟨fun _ => false, none⟩

/-- The lines that have been handed to the socket, the one being written included. -/
def BackChannel.taken (channel : BackChannel) : List Input := channel.written ++ channel.sending.toList

/-- Discarding a line is harmless if a later line is about the same, or if the
line repeats what those before it have brought about. -/
def Harmless (taken later : List Input) (lost : Input) : Prop :=
  (∀ subject ∈ lost.subject, ∃ other ∈ later, other.subject = some subject) ∨
    lost.apply (effectOf taken) = effectOf taken

/-- An action that overflows the queue discards a line harmlessly. -/
def Sparing (channel : BackChannel) : InputAction → Prop
  | .enqueue input => channel.inputOpen = true → coalesces channel.inputQueue input = false →
      ∀ lost rest, channel.inputQueue = lost :: rest → inputQueueCap ≤ channel.inputQueue.length →
        Harmless channel.taken (rest ++ [input]) lost
  | _ => True

/-! ## Effects -/

/-- The effects agree on the subject. -/
def Effect.Agree (one other : Effect) : Subject → Prop
  | .pointer => one.position = other.position
  | .control control => one.pressed control = other.pressed control

theorem Effect.eq_iff_agree (one other : Effect) : one = other ↔ ∀ subject, one.Agree other subject := by
  constructor
  · intro same subject
    cases subject <;> exact same ▸ rfl
  · intro agree
    apply Effect.ext
    · funext control
      exact agree (.control control)
    · exact agree .pointer

/-- Behind a line two effects agree on what it is about, and on what they agreed
before. -/
theorem Input.apply_agree (input : Input) (one other : Effect) (subject : Subject) :
    (input.apply one).Agree (input.apply other) subject ↔
      input.subject = some subject ∨ one.Agree other subject := by
  cases input <;> cases subject <;>
    simp only [Input.apply, Input.subject, Effect.Agree, Function.update_apply, Option.some.injEq,
      Subject.control.injEq, reduceCtorEq, false_or, true_or] <;>
    grind

theorem foldl_agree (lines : List Input) (one other : Effect) (subject : Subject) :
    (lines.foldl Input.apply one).Agree (lines.foldl Input.apply other) subject ↔
      (∃ line ∈ lines, line.subject = some subject) ∨ one.Agree other subject := by
  induction lines generalizing one other with
  | nil => simp
  | cons line lines inductionHypothesis =>
      rw [List.foldl_cons, List.foldl_cons, inductionHypothesis, Input.apply_agree, ← or_assoc]
      apply or_congr_left
      rw [List.exists_mem_cons_iff]
      exact or_comm

theorem effectOf_append (early late : List Input) :
    effectOf (early ++ late) = late.foldl Input.apply (effectOf early) :=
  List.foldl_append

/-- What a line is not about stays as it was. -/
theorem Input.agree_apply (input : Input) (effect : Effect) (subject : Subject)
    (other : input.subject ≠ some subject) : (input.apply effect).Agree effect subject := by
  cases input <;> cases subject <;>
    simp_all [Input.apply, Input.subject, Effect.Agree, Function.update_apply]
  all_goals grind

/-- Leaving out a line changes nothing exactly if that is harmless. -/
theorem harmless_iff (taken later : List Input) (lost : Input) :
    effectOf (taken ++ lost :: later) = effectOf (taken ++ later) ↔ Harmless taken later lost := by
  rw [effectOf_append, effectOf_append, List.foldl_cons, Effect.eq_iff_agree, Harmless, Effect.eq_iff_agree]
  constructor
  · intro agree
    cases about : lost.subject with
    | none =>
        refine Or.inl ?_
        intro subject impossible
        cases impossible
    | some subject =>
        rcases (foldl_agree later _ _ subject).mp (agree subject) with superseded | repeats
        · refine Or.inl ?_
          intro same isSame
          cases isSame
          exact superseded
        · refine Or.inr (fun same => ?_)
          by_cases own : same = subject
          · exact own ▸ repeats
          · refine lost.agree_apply _ _ (fun isSame => own ?_)
            exact (Option.some.inj (about.symm.trans isSame)).symm
  · rintro (superseded | repeats) subject
    · refine (foldl_agree later _ _ subject).mpr ?_
      by_cases own : lost.subject = some subject
      · exact Or.inl (superseded subject own)
      · exact Or.inr (lost.agree_apply _ _ own)
    · exact (foldl_agree later _ _ subject).mpr (Or.inr (repeats subject))

/-! ## Coalescing -/

theorem head_body_iff (input : Input) : (body input).toList.head? = some 'm' ↔ input.subject = some .pointer := by
  cases input <;> simp [body, Input.subject, String.toList_append]

theorem isPrefixOf_line_iff (input : Input) :
    "INPUT m ".toList.isPrefixOf (line input).toList = true ↔ input.subject = some .pointer := by
  cases input <;> simp [line, body, Input.subject, String.toList_append]

theorem coalesces_iff (queue : List Input) (input : Input) :
    coalesces queue input = true ↔
      input.subject = some .pointer ∧ ∃ last ∈ queue.getLast?, last.subject = some .pointer := by
  rw [coalesces, Bool.and_eq_true, beq_iff_eq, head_body_iff]
  apply and_congr_right'
  cases queue.getLast? with
  | none => simp
  | some last =>
      rw [isPrefixOf_line_iff]
      simp

theorem coalesces_eq_false (queue : List Input) {input : Input} (noMove : input.subject ≠ some .pointer) :
    coalesces queue input = false := by
  apply Bool.eq_false_iff.mpr
  intro joins
  exact noMove ((coalesces_iff queue input).mp joins).1

/-- The newer one of two moves is the one that counts. -/
theorem effectOf_coalesced (lines : List Input) (old new : Input) (isMove : old.subject = some .pointer)
    (newer : new.subject = some .pointer) : effectOf (lines ++ [old, new]) = effectOf (lines ++ [new]) := by
  refine (harmless_iff lines [new] old).mpr (Or.inl ?_)
  intro subject isSubject
  refine ⟨new, List.mem_singleton_self new, ?_⟩
  rw [newer, ← isMove]
  exact isSubject

/-! ## Every step -/

/-- While the session lasts, what has been taken and what is queued amount to
all that was enqueued, and the queue is within its bound. -/
structure BackChannel.Kept (channel : BackChannel) : Prop where
  effect : effectOf (channel.taken ++ channel.inputQueue) = effectOf channel.enqueued
  short : channel.inputQueue.length ≤ inputQueueCap

theorem kept_opened : BackChannel.opened.Kept where
  effect := rfl
  short := Nat.zero_le _

namespace BackChannel

variable {channel next : BackChannel}

/-- An enqueue replaces the last move, discards the first line, or only appends. -/
theorem enqueueInput_cases (input : Input) (isOpen : channel.inputOpen = true)
    (short : channel.inputQueue.length ≤ inputQueueCap) :
    (∃ kept last, channel.inputQueue = kept ++ [last] ∧ input.subject = some .pointer ∧
        last.subject = some .pointer ∧ channel.enqueueInput input =
          { channel with inputQueue := kept ++ [input], enqueued := channel.enqueued ++ [input] }) ∨
      (∃ lost rest, coalesces channel.inputQueue input = false ∧ channel.inputQueue = lost :: rest ∧
        inputQueueCap ≤ channel.inputQueue.length ∧ channel.enqueueInput input =
          { channel with inputQueue := rest ++ [input], enqueued := channel.enqueued ++ [input] }) ∨
      (channel.inputQueue.length < inputQueueCap ∧ channel.enqueueInput input =
          { channel with inputQueue := channel.inputQueue ++ [input], enqueued := channel.enqueued ++ [input] }) := by
  cases joins : coalesces channel.inputQueue input with
  | true =>
      obtain ⟨isMove, last, isLast, older⟩ := (coalesces_iff _ _).mp joins
      obtain ⟨kept, same⟩ := List.getLast?_eq_some_iff.mp isLast
      refine Or.inl ⟨kept, last, same, isMove, older, ?_⟩
      have fits : ¬ inputQueueCap < (kept ++ [input]).length := by
        rw [same] at short
        rw [List.length_append] at short ⊢
        exact Nat.not_lt.mpr short
      rw [enqueueInput, if_pos isOpen, joins, if_pos rfl, same, List.dropLast_concat]
      simp only [if_neg fits]
  | false =>
      by_cases full : inputQueueCap < (channel.inputQueue ++ [input]).length
      · cases queue : channel.inputQueue with
        | nil =>
            rw [queue] at full
            exact absurd full (show ¬ inputQueueCap < 1 by decide)
        | cons lost rest =>
            refine Or.inr (Or.inl ⟨lost, rest, rfl, rfl, ?_, ?_⟩)
            · rw [queue, List.length_append] at full
              exact Nat.lt_succ_iff.mp full
            · rw [queue] at full joins
              rw [enqueueInput, if_pos isOpen, queue, joins]
              simp only [Bool.false_eq_true, if_false, if_pos full]
              rfl
      · refine Or.inr (Or.inr ⟨?_, ?_⟩)
        · rw [List.length_append] at full
          exact Nat.lt_of_succ_le (Nat.not_lt.mp full)
        · rw [enqueueInput, if_pos isOpen, joins]
          simp only [Bool.false_eq_true, if_false, if_neg full]

/-- While the channel is open, an enqueue that discards harmlessly keeps the
effect. -/
theorem Kept.enqueueInput (kept : channel.Kept) (input : Input) (isOpen : channel.inputOpen = true)
    (sparing : Sparing channel (.enqueue input)) : (channel.enqueueInput input).Kept := by
  have goal : effectOf (channel.taken ++ channel.inputQueue ++ [input]) = effectOf (channel.enqueued ++ [input]) := by
    rw [effectOf_append, kept.effect, ← effectOf_append]
  rcases enqueueInput_cases input isOpen kept.short with
    ⟨early, last, queue, newer, isMove, same⟩ | ⟨lost, rest, apart, queue, full, same⟩ | ⟨room, same⟩
  · rw [same]
    constructor
    · calc effectOf (channel.taken ++ (early ++ [input]))
          = effectOf (channel.taken ++ early ++ [input]) := by rw [List.append_assoc]
        _ = effectOf (channel.taken ++ early ++ [last, input]) := (effectOf_coalesced _ last input isMove newer).symm
        _ = effectOf (channel.taken ++ channel.inputQueue ++ [input]) := by
            rw [queue]
            simp only [List.append_assoc, List.cons_append, List.nil_append]
        _ = effectOf (channel.enqueued ++ [input]) := goal
    · have short := kept.short
      rw [queue, List.length_append] at short
      rw [List.length_append]
      exact short
  · rw [same]
    constructor
    · calc effectOf (channel.taken ++ (rest ++ [input]))
          = effectOf (channel.taken ++ lost :: (rest ++ [input])) :=
            ((harmless_iff _ _ lost).mpr (sparing isOpen apart lost rest queue full)).symm
        _ = effectOf (channel.taken ++ channel.inputQueue ++ [input]) := by
            rw [queue, List.append_assoc, List.cons_append]
        _ = effectOf (channel.enqueued ++ [input]) := goal
    · have short := kept.short
      rw [queue] at short
      rw [List.length_append]
      exact short
  · rw [same]
    constructor
    · rw [← List.append_assoc]
      exact goal
    · rw [List.length_append]
      exact room

theorem Kept.poll (kept : channel.Kept) (polled : channel.poll = some next) : next.Kept := by
  unfold BackChannel.poll at polled
  split at polled
  case h_1 first rest isOpen idle queue =>
    cases polled
    constructor
    · rw [← kept.effect, taken, taken, idle, queue]
      simp only [Option.toList_some, Option.toList_none, List.append_assoc, List.cons_append, List.nil_append]
    · have short := kept.short
      rw [queue] at short
      exact Nat.le_of_succ_le short
  case h_2 => cases polled

theorem Kept.write (kept : channel.Kept) (wrote : channel.write = some next) : next.Kept := by
  unfold BackChannel.write at wrote
  split at wrote
  case h_1 input holds =>
    cases wrote
    refine ⟨?_, kept.short⟩
    rw [← kept.effect, taken, taken, holds]
    simp only [Option.toList_some, Option.toList_none, List.append_nil]
  case h_2 => cases wrote

end BackChannel

theorem kept_step (channel : BackChannel) (action : InputAction) (next : BackChannel)
    (kept : channel.inputOpen = true → channel.Kept) (sparing : Sparing channel action)
    (stepped : inputStep channel action = some next) : next.inputOpen = true → next.Kept := by
  intro isOpen
  cases action with
  | enqueue input =>
      cases stepped
      cases before : channel.inputOpen with
      | true => exact (kept before).enqueueInput input before sparing
      | false =>
          have same : channel.enqueueInput input = channel := by
            rw [BackChannel.enqueueInput, if_neg (by rw [before]; exact Bool.false_ne_true)]
          rw [same] at isOpen ⊢
          exact kept isOpen
  | poll =>
      refine (kept ?_).poll stepped
      have polled : channel.poll = some next := stepped
      unfold BackChannel.poll at polled
      split at polled
      case h_1 first rest before idle queue => exact before
      case h_2 => cases polled
  | write =>
      refine (kept ?_).write stepped
      have wrote : channel.write = some next := stepped
      unfold BackChannel.write at wrote
      split at wrote
      case h_1 input holds =>
        cases wrote
        exact isOpen
      case h_2 => cases wrote
  | close =>
      cases stepped
      cases isOpen

theorem kept_of_run {actions : List InputAction} {channel : BackChannel}
    (ran : run inputStep .opened actions = some channel)
    (sparing : Throughout inputStep .opened Sparing actions) : channel.inputOpen = true → channel.Kept :=
  run_invariant_throughout kept_step (fun _ => kept_opened) sparing ran

/-! ## Filling and emptying the queue -/

/-- Lines other than moves fill the queue as long as there is room. -/
theorem run_enqueue (inputs : List Input) (channel : BackChannel) (isOpen : channel.inputOpen = true)
    (noMoves : ∀ input ∈ inputs, input.subject ≠ some .pointer)
    (room : channel.inputQueue.length + inputs.length ≤ inputQueueCap) :
    run inputStep channel (inputs.map .enqueue) = some { channel with
      inputQueue := channel.inputQueue ++ inputs, enqueued := channel.enqueued ++ inputs } := by
  induction inputs generalizing channel with
  | nil =>
      rw [List.append_nil, List.append_nil]
      rfl
  | cons input inputs inductionHypothesis =>
      rw [List.length_cons] at room
      have apart : coalesces channel.inputQueue input = false :=
        coalesces_eq_false _ (noMoves input List.mem_cons_self)
      have fits : ¬ inputQueueCap < (channel.inputQueue ++ [input]).length := by
        rw [List.length_append, List.length_singleton]
        omega
      have stepped : inputStep channel (.enqueue input) = some { channel with
          inputQueue := channel.inputQueue ++ [input], enqueued := channel.enqueued ++ [input] } := by
        rw [inputStep, BackChannel.enqueueInput, if_pos isOpen, apart]
        simp only [Bool.false_eq_true, if_false, if_neg fits]
      refine run_cons_iff.mpr ⟨_, stepped, ?_⟩
      have later := inductionHypothesis { channel with
          inputQueue := channel.inputQueue ++ [input], enqueued := channel.enqueued ++ [input] } isOpen
        (fun other member => noMoves other (List.mem_cons_of_mem _ member))
        (by simp only [List.length_append, List.length_singleton]; omega)
      simp only [List.append_assoc, List.cons_append, List.nil_append] at later
      exact later

theorem length_enqueueInput_le (channel : BackChannel) (input : Input) :
    (channel.enqueueInput input).inputQueue.length ≤ channel.inputQueue.length + 1 := by
  have room (kept : List Input) (fewer : kept.length ≤ channel.inputQueue.length) :
      (if inputQueueCap < (kept ++ [input]).length then (kept ++ [input]).tail else kept ++ [input]).length ≤
        channel.inputQueue.length + 1 := by
    have length : (kept ++ [input]).length = kept.length + 1 := List.length_append
    split
    · rw [List.length_tail, length]
      omega
    · rw [length]
      omega
  rw [BackChannel.enqueueInput]
  split
  · apply room
    split
    · exact List.length_dropLast ▸ Nat.sub_le _ _
    · exact Nat.le_refl _
  · exact Nat.le_succ _

theorem length_queue_le {actions : List InputAction} {channel : BackChannel}
    (ran : run inputStep .opened actions = some channel) : channel.inputQueue.length ≤ actions.length := by
  induction actions using List.reverseRecOn generalizing channel with
  | nil =>
      cases ran
      exact Nat.le_refl _
  | append_singleton actions action inductionHypothesis =>
      obtain ⟨previous, early, stepped⟩ := run_concat_iff.mp ran
      have soFar := inductionHypothesis early
      rw [List.length_append, List.length_singleton]
      cases action with
      | enqueue input =>
          cases stepped
          exact Nat.le_trans (length_enqueueInput_le previous input) (Nat.succ_le_succ soFar)
      | poll =>
          have polled : previous.poll = some channel := stepped
          unfold BackChannel.poll at polled
          split at polled
          case h_1 first rest _ _ queue =>
            cases polled
            rw [queue, List.length_cons] at soFar
            dsimp only
            omega
          case h_2 => cases polled
      | write =>
          have wrote : previous.write = some channel := stepped
          unfold BackChannel.write at wrote
          split at wrote
          case h_1 =>
            cases wrote
            exact Nat.le_succ_of_le soFar
          case h_2 => cases wrote
      | close =>
          cases stepped
          exact Nat.zero_le _

/-- A short run never overflows the queue. -/
theorem sparing_of_short {actions : List InputAction} (short : actions.length ≤ inputQueueCap) :
    Throughout inputStep .opened Sparing actions := by
  rintro early action late rfl channel ran
  cases action with
  | enqueue input =>
      intro _ _ _ _ _ full
      have length := length_queue_le ran
      rw [List.length_append, List.length_cons] at short
      omega
  | poll => trivial
  | write => trivial
  | close => trivial

/-- A line that is not a move discards the oldest line of a full queue. -/
theorem step_enqueue_full {channel : BackChannel} {input oldest : Input} {rest : List Input}
    (isOpen : channel.inputOpen = true) (queue : channel.inputQueue = oldest :: rest)
    (full : channel.inputQueue.length = inputQueueCap) (noMove : input.subject ≠ some .pointer) :
    inputStep channel (.enqueue input) = some { channel with
      inputQueue := rest ++ [input], enqueued := channel.enqueued ++ [input] } := by
  have apart : coalesces channel.inputQueue input = false := coalesces_eq_false _ noMove
  have exceeds : inputQueueCap < (channel.inputQueue ++ [input]).length := by
    rw [List.length_append, full]
    exact Nat.lt_succ_self _
  rw [inputStep, BackChannel.enqueueInput, if_pos isOpen, apart]
  simp only [Bool.false_eq_true, if_false, if_pos exceeds]
  rw [queue, List.cons_append, List.tail_cons]

/-- The sender can always empty the queue. -/
theorem exists_drain (queue : List Input) (channel : BackChannel) (isQueue : channel.inputQueue = queue)
    (isOpen : channel.inputOpen = true) (idle : channel.sending = none) :
    ∃ actions drained, run inputStep channel actions = some drained ∧
      (∀ action ∈ actions, ∀ state, Sparing state action) ∧ drained.inputOpen = true ∧
      drained.inputQueue = [] ∧ drained.taken = channel.taken ++ queue ∧ drained.enqueued = channel.enqueued := by
  induction queue generalizing channel with
  | nil => exact ⟨[], channel, rfl, List.forall_mem_nil _, isOpen, isQueue, (List.append_nil _).symm, rfl⟩
  | cons first rest inductionHypothesis =>
      have polled : inputStep channel .poll = some { channel with inputQueue := rest, sending := some first } := by
        rw [inputStep, BackChannel.poll, isOpen, idle, isQueue]
      obtain ⟨actions, drained, ran, always, stillOpen, empty, took, same⟩ :=
        inductionHypothesis
          { channel with inputQueue := rest, sending := none, written := channel.written ++ [first] } rfl isOpen rfl
      refine ⟨.poll :: .write :: actions, drained, ?_, ?_, stillOpen, empty, ?_, same⟩
      · exact run_cons_iff.mpr ⟨_, polled, run_cons_iff.mpr ⟨_, rfl, ran⟩⟩
      · exact List.forall_mem_cons.mpr ⟨fun _ => trivial, List.forall_mem_cons.mpr ⟨fun _ => trivial, always⟩⟩
      · rw [took, BackChannel.taken, BackChannel.taken, idle]
        simp only [Option.toList_none, List.append_nil, List.append_assoc, List.cons_append, List.nil_append]

theorem exists_drained (channel : BackChannel) (isOpen : channel.inputOpen = true) :
    ∃ actions drained, run inputStep channel actions = some drained ∧
      (∀ action ∈ actions, ∀ state, Sparing state action) ∧ drained.inputOpen = true ∧
      drained.inputQueue = [] ∧ drained.taken = channel.taken ++ channel.inputQueue ∧
      drained.enqueued = channel.enqueued := by
  cases holds : channel.sending with
  | none => exact exists_drain channel.inputQueue channel rfl isOpen holds
  | some input =>
      have wrote : inputStep channel .write =
          some { channel with sending := none, written := channel.written ++ [input] } := by
        rw [inputStep, BackChannel.write, holds]
      obtain ⟨actions, drained, ran, always, stillOpen, empty, took, same⟩ := exists_drain channel.inputQueue
        { channel with sending := none, written := channel.written ++ [input] } rfl isOpen rfl
      refine ⟨.write :: actions, drained, run_cons_iff.mpr ⟨_, wrote, ran⟩,
        List.forall_mem_cons.mpr ⟨fun _ => trivial, always⟩, stillOpen, empty, ?_, same⟩
      rw [took, BackChannel.taken, BackChannel.taken, holds]
      simp only [Option.toList_some, Option.toList_none, List.append_nil]

/-! ## Nothing stays pressed -/

/-- If every line that the full queue discards may be discarded, then whenever
the queue is empty, the lines taken from it have the effect of all lines
enqueued. -/
theorem nothing_stuck {actions : List InputAction} {channel : BackChannel}
    (ran : run inputStep .opened actions = some channel)
    (sparing : Throughout inputStep .opened Sparing actions)
    (isOpen : channel.inputOpen = true) (drained : channel.inputQueue = []) :
    (effectOf channel.taken).pressed = (effectOf channel.enqueued).pressed ∧
      (effectOf channel.taken).position = (effectOf channel.enqueued).position := by
  have kept : channel.Kept :=
    kept_of_run ran sparing isOpen
  have same := kept.effect
  rw [drained, List.append_nil] at same
  rw [same]
  exact ⟨rfl, rfl⟩

/-- The left button is pressed and released again, with 511 scrolls in between.  The
release discards the press. -/
theorem nothing_stuck_sample :
    ∃ actions channel, run inputStep .opened actions = some channel ∧
      channel.taken = List.replicate 511 (.scroll 1 0) ++ [.button 272 false] ∧
      channel.enqueued = .button 272 true :: List.replicate 511 (.scroll 1 0) ++ [.button 272 false] ∧
      (effectOf channel.taken).pressed = (effectOf channel.enqueued).pressed ∧
      (effectOf channel.taken).position = (effectOf channel.enqueued).position := by
  let press := Input.button 272 true
  let release := Input.button 272 false
  let scrolls := List.replicate 511 (Input.scroll 1 0)
  let full : BackChannel := ⟨press :: scrolls, true, none, [], press :: scrolls⟩
  let lost : BackChannel := ⟨scrolls ++ [release], true, none, [], press :: scrolls ++ [release]⟩
  have noMoves : ∀ input ∈ press :: scrolls, input.subject ≠ some .pointer := by
    intro input member
    rcases List.mem_cons.mp member with rfl | member
    · decide
    · rw [List.eq_of_mem_replicate member]
      decide
  have size : (press :: scrolls).length = inputQueueCap := congrArg (· + 1) List.length_replicate
  have filled : run inputStep .opened ((press :: scrolls).map .enqueue) = some full :=
    run_enqueue (press :: scrolls) .opened rfl noMoves (Nat.le_of_eq ((Nat.zero_add _).trans size))
  have discards : inputStep full (.enqueue release) = some lost :=
    step_enqueue_full rfl rfl size (by decide)
  have harmless : Sparing full (.enqueue release) := by
    intro _ _ oldest rest queue _
    cases queue
    left
    intro subject isSubject
    exact ⟨release, List.mem_append_right _ List.mem_cons_self, isSubject⟩
  obtain ⟨more, drained, drains, always, isOpen, empty, took, logged⟩ := exists_drained lost rfl
  have ran : run inputStep .opened ((press :: scrolls).map .enqueue ++ .enqueue release :: more) = some drained :=
    run_append_iff.mpr ⟨full, filled, run_cons_iff.mpr ⟨lost, discards, drains⟩⟩
  have sparing : Throughout inputStep .opened Sparing
      ((press :: scrolls).map .enqueue ++ .enqueue release :: more) := by
    refine (sparing_of_short (Nat.le_of_eq ((List.length_map _).trans size))).append ?_
    intro middle reached
    cases reached.symm.trans filled
    exact throughout_cons_iff.mpr ⟨harmless, fun _ _ => throughout_of_forall always⟩
  exact ⟨_, drained, ran, took, logged, nothing_stuck ran sparing isOpen empty⟩

/-! ## The condition is needed -/

/-- After the first line that may not be discarded, the sender can empty the
queue with another effect than that of all lines enqueued. -/
theorem stuck_after_loss {actions : List InputAction} {channel : BackChannel} {input : Input}
    (ran : run inputStep .opened actions = some channel)
    (sparing : Throughout inputStep .opened Sparing actions)
    (isOpen : channel.inputOpen = true) (harmful : ¬ Sparing channel (.enqueue input)) :
    ∃ more drained, run inputStep .opened (actions ++ .enqueue input :: more) = some drained ∧
      drained.inputOpen = true ∧ drained.inputQueue = [] ∧ effectOf drained.taken ≠ effectOf drained.enqueued := by
  have kept : channel.Kept :=
    kept_of_run ran sparing isOpen
  obtain ⟨apart, lost, rest, queue, full, harm⟩ : coalesces channel.inputQueue input = false ∧ ∃ lost rest,
      channel.inputQueue = lost :: rest ∧ inputQueueCap ≤ channel.inputQueue.length ∧
        ¬ Harmless channel.taken (rest ++ [input]) lost := by
    simp only [Sparing] at harmful
    grind
  rcases channel.enqueueInput_cases input isOpen kept.short with
    ⟨early, last, joined, newer, isMove, _⟩ | ⟨lost', rest', _, queue', _, same⟩ | ⟨room, _⟩
  · have joins : coalesces channel.inputQueue input = true := by
      refine (coalesces_iff _ _).mpr ⟨newer, last, ?_, isMove⟩
      rw [joined, List.getLast?_concat]
      rfl
    rw [apart] at joins
    exact absurd joins Bool.false_ne_true
  · rw [queue] at queue'
    cases queue'
    obtain ⟨more, drained, drains, _, stillOpen, empty, took, logged⟩ :=
      exists_drained (channel.enqueueInput input) (by rw [same]; exact isOpen)
    refine ⟨more, drained, ?_, stillOpen, empty, ?_⟩
    · exact run_append_iff.mpr ⟨channel, ran, run_cons_iff.mpr ⟨_, rfl, drains⟩⟩
    · rw [took, logged, same]
      intro equal
      refine harm ((harmless_iff _ _ lost).mp ?_)
      calc effectOf (channel.taken ++ lost :: (rest ++ [input]))
          = effectOf (channel.taken ++ channel.inputQueue ++ [input]) := by
            rw [queue, List.append_assoc, List.cons_append]
        _ = effectOf (channel.enqueued ++ [input]) := by rw [effectOf_append, kept.effect, ← effectOf_append]
        _ = effectOf (channel.taken ++ (rest ++ [input])) := equal.symm
  · exact absurd full (Nat.not_le.mpr room)

/-! ## A release behind a long text -/

theorem untouched (lines : List Input) (effect : Effect) (subject : Subject)
    (others : ∀ line ∈ lines, line.subject ≠ some subject) :
    (lines.foldl Input.apply effect).Agree effect subject := by
  induction lines generalizing effect with
  | nil => exact (Effect.eq_iff_agree effect effect).mp rfl subject
  | cons line lines inductionHypothesis =>
      have later := inductionHypothesis (line.apply effect)
        (fun other member => others other (List.mem_cons_of_mem _ member))
      have now := line.agree_apply effect subject (others line List.mem_cons_self)
      cases subject <;> exact Eq.trans later now

theorem length_textInput (keysyms : List Int) : (textInput keysyms).length = 2 * keysyms.length := by
  induction keysyms with
  | nil => rfl
  | cons keysym keysyms inductionHypothesis =>
      have split : textInput (keysym :: keysyms) = [.key keysym true, .key keysym false] ++ textInput keysyms := rfl
      rw [split, List.length_append, inductionHypothesis]
      simp only [List.length_cons, List.length_nil]
      omega

theorem subject_of_mem_textInput {keysyms : List Int} {input : Input} (member : input ∈ textInput keysyms) :
    ∃ keysym, input.subject = some (.control (.key keysym)) := by
  obtain ⟨keysym, _, typed⟩ := List.mem_flatMap.mp member
  rcases List.mem_pair.mp typed with rfl | rfl <;> exact ⟨keysym, rfl⟩

/-- The left button is pressed, and the line is written.  It is released, and a
text of 256 characters is typed before the sender goes on: the release is
discarded, and the button stays pressed. -/
theorem stuck_sometimes :
    ¬ ∀ actions channel, run inputStep .opened actions = some channel →
      channel.inputOpen = true → channel.inputQueue = [] →
        (effectOf channel.taken).pressed = (effectOf channel.enqueued).pressed ∧
          (effectOf channel.taken).position = (effectOf channel.enqueued).position := by
  intro never
  let press := Input.button 272 true
  let release := Input.button 272 false
  let last := Input.key 97 false
  obtain ⟨typed, text⟩ : ∃ typed, typed ++ [last] = textInput (List.replicate 256 97) :=
    ⟨(textInput (List.replicate 256 97)).dropLast, by decide +kernel⟩
  have size : typed.length = 511 := by
    have total := congrArg List.length text
    rw [List.length_append, length_textInput, List.length_replicate] at total
    exact Nat.succ.inj total
  have keys : ∀ input ∈ typed ++ [last], ∃ keysym, input.subject = some (.control (.key keysym)) := by
    rw [text]
    exact fun input member => subject_of_mem_textInput member
  let pressed : BackChannel := ⟨[release], true, none, [press], [press, release]⟩
  let full : BackChannel := { pressed with inputQueue := [release] ++ typed, enqueued := [press, release] ++ typed }
  let lost : BackChannel := { full with inputQueue := typed ++ [last], enqueued := full.enqueued ++ [last] }
  have reached : run inputStep .opened [.enqueue press, .poll, .write, .enqueue release] = some pressed := by
    decide
  have filled : run inputStep pressed (typed.map .enqueue) = some full := by
    refine run_enqueue typed pressed rfl ?_ ?_
    · intro input member isMove
      obtain ⟨keysym, isKey⟩ := keys input (List.mem_append_left _ member)
      cases isMove.symm.trans isKey
    · exact Nat.le_of_eq (congrArg (1 + ·) size)
  have discards : inputStep full (.enqueue last) = some lost := by
    refine step_enqueue_full rfl rfl ?_ (by decide)
    exact congrArg (· + 1) size
  obtain ⟨more, drained, drains, _, isOpen, empty, took, logged⟩ := exists_drained lost rfl
  have ran : run inputStep .opened
      ([.enqueue press, .poll, .write, .enqueue release] ++ (typed.map .enqueue ++ .enqueue last :: more)) =
        some drained :=
    run_append_iff.mpr ⟨pressed, reached, run_append_iff.mpr ⟨full, filled,
      run_cons_iff.mpr ⟨lost, discards, drains⟩⟩⟩
  have same := congrFun (never _ drained ran isOpen empty).1 (.button 272)
  have apart : ∀ input ∈ typed ++ [last], input.subject ≠ some (.control (.button 272)) := by
    intro input member isButton
    obtain ⟨keysym, isKey⟩ := keys input member
    cases isButton.symm.trans isKey
  have held : (effectOf drained.taken).pressed (.button 272) = true := by
    rw [took]
    exact untouched (typed ++ [last]) (effectOf [press]) (.control (.button 272)) apart
  have free : (effectOf drained.enqueued).pressed (.button 272) = false := by
    rw [logged]
    exact untouched (typed ++ [last]) (effectOf [press, release]) (.control (.button 272)) apart
  rw [held, free] at same
  exact Bool.noConfusion same

end StreamSession
end MetaShare
