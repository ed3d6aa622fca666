import MetaShare.Server.Signaling

namespace MetaShare
namespace Signal

open RtpServer

/-!
# Reading the signaling stream

The signaling server reads lines out of a buffer that `recv` refills.  Bytes
after a newline stay in the buffer for the next line, and a line without one is
copied before the buffer is refilled.
-/

def bufferSize : Nat := 4096

def maxLine : Nat := 65536

/-- What one call of `recv` returns.  Failing covers a timeout, and receiving
nothing means that the peer has closed the connection. -/
inductive Recv where
  | interrupted
  | failed
  | received (octets : List UInt8) (fits : octets.length ≤ bufferSize)

structure LineReader where
  buffer : List UInt8
  pos : Nat
  size : Nat
  whole : buffer.length = bufferSize
  ordered : pos ≤ size
  inside : size ≤ bufferSize

namespace LineReader

def new : LineReader where
  buffer := List.replicate bufferSize 0
  pos := 0
  size := 0
  whole := List.length_replicate
  ordered := Nat.le_refl 0
  inside := Nat.zero_le _

/-- The bytes between the two positions. -/
def unread (reader : LineReader) : List UInt8 :=
  (reader.buffer.drop reader.pos).take (reader.size - reader.pos)

theorem length_unread (reader : LineReader) : reader.unread.length = reader.size - reader.pos := by
  have inside := reader.inside
  rw [unread, List.length_take, List.length_drop, reader.whole]
  omega

/-- Received bytes are written over the front of the buffer. -/
def refill (reader : LineReader) (octets : List UInt8) (fits : octets.length ≤ bufferSize) : LineReader where
  buffer := octets ++ reader.buffer.drop octets.length
  pos := 0
  size := octets.length
  whole := by
    rw [List.length_append, List.length_drop, reader.whole]
    omega
  ordered := Nat.zero_le _
  inside := fits

def advance (reader : LineReader) (count : Nat) (within : count ≤ reader.size - reader.pos) : LineReader where
  buffer := reader.buffer
  pos := reader.pos + count
  size := reader.size
  whole := reader.whole
  ordered := by
    have ordered := reader.ordered
    omega
  inside := reader.inside

theorem unread_refill (reader : LineReader) (octets : List UInt8) (fits : octets.length ≤ bufferSize) :
    (reader.refill octets fits).unread = octets :=
  List.take_left' rfl

theorem unread_advance (reader : LineReader) (count : Nat) (within : count ≤ reader.size - reader.pos) :
    (reader.advance count within).unread = reader.unread.drop count := by
  rw [unread, unread, List.drop_take, List.drop_drop, Nat.sub_sub]
  rfl

/-- What one look into the buffer does to the line that is being read. -/
inductive Scanned where
  | tooLong
  | ended (line : List UInt8) (reader : LineReader)
  | unended (line : List UInt8) (reader : LineReader)

/-- Append the buffer to the line, up to the first newline. -/
def scan (reader : LineReader) (line : List UInt8) : Scanned :=
  match found : Lines.cut 10 reader.unread with
  | some (part, rest) =>
      if line.length + part.length > maxLine then .tooLong
      else .ended (line ++ part) (reader.advance (part.length + 1) (by
        have length := Lines.length_of_cut found
        rw [length_unread] at length
        omega))
  | none =>
      if line.length + (reader.size - reader.pos) > maxLine then .tooLong
      else .unended (line ++ reader.unread) (reader.advance (reader.size - reader.pos) (Nat.le_refl _))

/-- Unless bytes are left in the buffer, receive more. -/
def fill : List Recv → LineReader → Option (List Recv × LineReader)
  | recvs, reader =>
      if reader.pos = reader.size then
        match recvs with
        | [] => none
        | .interrupted :: recvs => fill recvs reader
        | .failed :: _ => none
        | .received octets fits :: recvs =>
            if octets = [] then none else some (recvs, reader.refill octets fits)
      else some (recvs, reader)

/-- The calls of `recv` that a round may still need. -/
def credit (recvs : List Recv) (reader : LineReader) : Nat :=
  recvs.length + if reader.pos = reader.size then 0 else 1

theorem credit_of_fill {recvs later : List Recv} {reader filled : LineReader}
    (isFilled : fill recvs reader = some (later, filled)) : later.length < credit recvs reader := by
  fun_induction fill recvs reader with
  | case1 => cases isFilled
  | case2 reader isEmpty recvs inductionHypothesis =>
      have fewer := inductionHypothesis isFilled
      rw [credit, if_pos isEmpty] at fewer ⊢
      exact Nat.lt_succ_of_lt fewer
  | case3 => cases isFilled
  | case4 => cases isFilled
  | case5 reader isEmpty recvs octets fits some =>
      cases isFilled
      rw [credit, if_pos isEmpty]
      exact Nat.lt_succ_self _
  | case6 recvs reader left =>
      cases isFilled
      rw [credit, if_neg left]
      exact Nat.lt_succ_self _

theorem read_of_unended {reader next : LineReader} {line longer : List UInt8}
    (scanned : reader.scan line = .unended longer next) : next.pos = next.size := by
  have ordered := reader.ordered
  rw [scan] at scanned
  split at scanned
  · split at scanned <;> cases scanned
  · split at scanned
    · cases scanned
    · cases scanned
      exact Nat.add_sub_cancel' ordered

/-- Read one line.  The line that has been read so far is passed on, and the
source begins with an empty one. -/
def readLine (recvs : List Recv) (reader : LineReader) (line : List UInt8) :
    Option (List UInt8 × List Recv × LineReader) :=
  match _isFilled : fill recvs reader with
  | none => none
  | some (later, filled) =>
      match _scanned : filled.scan line with
      | .tooLong => none
      | .ended line next => some (line, later, next)
      | .unended line next => readLine later next line
termination_by credit recvs reader
decreasing_by
  rw [credit, if_pos (read_of_unended _scanned)]
  exact credit_of_fill _isFilled

/-! ## What is read depends on the bytes only -/

/-- The bytes that a sequence of calls delivers before the connection ends. -/
def bytes : List Recv → List UInt8
  | [] => []
  | .interrupted :: recvs => bytes recvs
  | .failed :: _ => []
  | .received octets _ :: recvs => if octets = [] then [] else octets ++ bytes recvs

/-- The bytes that are still to be read. -/
def pending (recvs : List Recv) (reader : LineReader) : List UInt8 := reader.unread ++ bytes recvs

theorem unread_eq_nil {reader : LineReader} (isRead : reader.pos = reader.size) : reader.unread = [] := by
  rw [← List.length_eq_zero_iff, length_unread, isRead, Nat.sub_self]

theorem pending_of_fill {recvs later : List Recv} {reader filled : LineReader}
    (isFilled : fill recvs reader = some (later, filled)) : pending later filled = pending recvs reader := by
  fun_induction fill recvs reader with
  | case1 => cases isFilled
  | case2 reader isRead recvs inductionHypothesis => exact inductionHypothesis isFilled
  | case3 => cases isFilled
  | case4 => cases isFilled
  | case5 reader isRead recvs octets fits some =>
      cases isFilled
      rw [pending, pending, unread_refill, unread_eq_nil isRead, bytes, if_neg some]
      rfl
  | case6 recvs reader left =>
      cases isFilled
      rfl

theorem pending_of_fill_none {recvs : List Recv} {reader : LineReader} (ended : fill recvs reader = none) :
    pending recvs reader = [] := by
  fun_induction fill recvs reader with
  | case1 reader isRead => rw [pending, unread_eq_nil isRead, bytes, List.append_nil]
  | case2 reader isRead recvs inductionHypothesis => exact inductionHypothesis ended
  | case3 reader isRead recvs => rw [pending, unread_eq_nil isRead, bytes, List.append_nil]
  | case4 reader isRead recvs fits =>
      rw [pending, unread_eq_nil isRead, bytes, if_pos rfl, List.append_nil]
  | case5 => cases ended
  | case6 => cases ended

/-- The line that a reader owes to these bytes, and the bytes it leaves. -/
def owed (line pending : List UInt8) : Option (List UInt8 × List UInt8) :=
  (Lines.cut 10 pending).bind (fun found =>
    if line.length + found.1.length > maxLine then none else some (line ++ found.1, found.2))

theorem owed_of_long {line : List UInt8} (long : line.length > maxLine) (pending : List UInt8) :
    owed line pending = none := by
  rw [owed, Option.bind_eq_none_iff]
  intro found _
  exact if_pos (Nat.lt_of_lt_of_le long (Nat.le_add_right _ _))

theorem owed_append {front : List UInt8} (absent : 10 ∉ front) (line later : List UInt8) :
    owed line (front ++ later) = owed (line ++ front) later := by
  rw [owed, owed, Lines.cut_append absent, Option.bind_map]
  refine congrArg (Option.bind _) (funext fun found => ?_)
  change (if line.length + (front ++ found.1).length > maxLine then none
    else some (line ++ (front ++ found.1), _)) = _
  rw [List.length_append, List.length_append, Nat.add_assoc, List.append_assoc]

theorem owed_of_cut {front part rest : List UInt8} (found : Lines.cut 10 front = some (part, rest))
    (line later : List UInt8) : owed line (front ++ later) =
      if line.length + part.length > maxLine then none else some (line ++ part, rest ++ later) := by
  rw [owed, Lines.cut_append_of_some found]
  rfl

/-- What a look into the buffer leaves owed when these bytes come later. -/
def Scanned.owes (later : List UInt8) : Scanned → Option (List UInt8 × List UInt8)
  | .tooLong => none
  | .ended line next => some (line, next.unread ++ later)
  | .unended line next => owed line (next.unread ++ later)

theorem owes_scan (reader : LineReader) (line later : List UInt8) :
    (reader.scan line).owes later = owed line (reader.unread ++ later) := by
  rw [scan]
  split
  · rename_i part rest found
    rw [owed_of_cut found]
    split
    · rfl
    · have whole := (Lines.eq_of_cut found).1
      rw [Scanned.owes, unread_advance, whole, List.drop_append, List.drop_of_length_le (Nat.le_succ _),
        Nat.add_sub_cancel_left]
      rfl
  · rename_i none
    rw [owed_append (Lines.not_mem_of_cut none)]
    split
    · rename_i long
      refine (owed_of_long ?_ later).symm
      rw [List.length_append, length_unread]
      exact long
    · rw [Scanned.owes, unread_advance, List.drop_of_length_le (Nat.le_of_eq (length_unread reader))]
      rfl

/-- One line is read as if the pending bytes had come at once. -/
theorem readLine_eq (recvs : List Recv) (reader : LineReader) (line : List UInt8) :
    (readLine recvs reader line).map (fun read => (read.1, pending read.2.1 read.2.2)) =
      owed line (pending recvs reader) := by
  fun_induction readLine recvs reader line with
  | case1 recvs reader line ended =>
      rw [pending_of_fill_none ended]
      rfl
  | case2 recvs reader line later filled isFilled scanned =>
      rw [← pending_of_fill isFilled, pending, ← owes_scan, scanned]
      rfl
  | case3 recvs reader line later filled isFilled line' next scanned =>
      rw [← pending_of_fill isFilled, pending, ← owes_scan, scanned]
      rfl
  | case4 recvs reader line later filled isFilled line' next scanned inductionHypothesis =>
      rw [inductionHypothesis, ← pending_of_fill isFilled, pending, pending, ← owes_scan filled, scanned]
      rfl

theorem readLine_eq_none {recvs : List Recv} {reader : LineReader} {line : List UInt8}
    (failed : readLine recvs reader line = none) : owed line (pending recvs reader) = none := by
  rw [← readLine_eq, failed]
  rfl

theorem readLine_eq_some {recvs later : List Recv} {reader next : LineReader} {line longer : List UInt8}
    (read : readLine recvs reader line = some (longer, later, next)) :
    owed line (pending recvs reader) = some (longer, pending later next) := by
  rw [← readLine_eq, read]
  rfl

/-- A line that begins empty is the next one of the stream. -/
theorem owed_nil_eq_some {stream line rest : List UInt8} (isOwed : owed [] stream = some (line, rest)) :
    Lines.cut 10 stream = some (line, rest) ∧ line.length ≤ maxLine := by
  obtain ⟨found, isCut, inside⟩ := Option.bind_eq_some_iff.mp isOwed
  split at inside
  · cases inside
  · rename_i short
    cases inside
    refine ⟨isCut, Nat.le_of_not_lt ?_⟩
    rwa [List.length_nil, Nat.zero_add] at short

theorem lines_of_owed_nil {stream : List UInt8} (none : owed [] stream = none) :
    Lines.lines 10 maxLine stream = [] := by
  cases isCut : Lines.cut 10 stream with
  | none => exact Lines.lines_of_none isCut
  | some found =>
      rw [Lines.lines_of_some isCut]
      refine if_neg (fun short => ?_)
      have inside := Option.bind_eq_none_iff.mp none found isCut
      rw [List.length_nil, Nat.zero_add, if_neg (Nat.not_lt_of_le short)] at inside
      cases inside

/-- The lines that are read until reading fails. -/
def readLines (recvs : List Recv) (reader : LineReader) : List (List UInt8) :=
  match _read : readLine recvs reader [] with
  | none => []
  | some (line, later, next) => line :: readLines later next
termination_by (pending recvs reader).length
decreasing_by
  have length := Lines.length_of_cut (owed_nil_eq_some (readLine_eq_some _read)).1
  omega

theorem readLines_eq (recvs : List Recv) (reader : LineReader) :
    readLines recvs reader = Lines.lines 10 maxLine (pending recvs reader) := by
  fun_induction readLines recvs reader with
  | case1 recvs reader failed => exact (lines_of_owed_nil (readLine_eq_none failed)).symm
  | case2 recvs reader line later next read inductionHypothesis =>
      obtain ⟨isCut, short⟩ := owed_nil_eq_some (readLine_eq_some read)
      rw [Lines.lines_of_some isCut, if_pos short, inductionHypothesis]

theorem readLines_new (recvs : List Recv) :
    readLines recvs new = Lines.lines 10 maxLine (bytes recvs) :=
  readLines_eq recvs new

end LineReader

/-! ## Messages and segments -/

open LineReader

/-- What the server or a client writes to the connection for a message. -/
def send (message : Message) : List UInt8 := serialize message ++ [10]

/-- Sent messages are read back, however the connection cuts their bytes, and
what is read of any stream does not depend on where it is cut. -/
theorem segmentation :
    (∀ (messages : List Message) (recvs : List Recv),
        (∀ message ∈ messages, message.Sendable ∧ (serialize message).length ≤ maxLine) →
        bytes recvs = messages.flatMap send →
        List.Forall₂ (fun line message => ∀ fresh : Message, fresh.body = [] → parse line fresh = some message)
          (readLines recvs new) messages) ∧
      ∀ recvs others : List Recv, bytes recvs = bytes others → readLines recvs new = readLines others new := by
  constructor
  · intro messages recvs sendable isSent
    have written : messages.flatMap send = (messages.map serialize).flatMap (fun line => line ++ [10]) := by
      rw [List.flatMap_map]
      rfl
    have proper : ∀ line ∈ messages.map serialize, 10 ∉ line ∧ line.length ≤ maxLine := by
      intro line member
      obtain ⟨message, isSent, rfl⟩ := List.mem_map.mp member
      exact ⟨newline_not_mem_serialize (sendable message isSent).1, (sendable message isSent).2⟩
    rw [readLines_new, isSent, written, Lines.lines_flatMap proper, List.forall₂_map_left_iff, List.forall₂_same]
    intro message member fresh isFresh
    exact parse_serialize (sendable message member).1 isFresh
  · intro recvs others same
    rw [readLines_new, readLines_new, same]

/-- Two messages cut in the middle of the first and at the last newline. -/
theorem segmentation_sample :
    List.Forall₂ (fun line message => ∀ fresh : Message, fresh.body = [] → parse line fresh = some message)
      (readLines [.received [80, 73] (by decide), .interrupted, .received [78, 71, 10, 66, 89, 69] (by decide),
        .received [10] (by decide)] new)
      [⟨.ping, []⟩, ⟨.bye, []⟩] := by
  refine segmentation.1 _ _ (fun message member => ?_) (by decide)
  rcases List.mem_cons.mp member with rfl | member
  · exact ⟨rfl, by decide⟩
  · rw [List.mem_singleton.mp member]
    exact ⟨rfl, by decide⟩

end Signal
end MetaShare
