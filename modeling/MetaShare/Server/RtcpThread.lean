import MetaShare.Server.Accounting

namespace MetaShare

open Octets Rtp Transitions RtpServer

/-!
# The thread that handles feedback

`handle_rtcp` runs on whatever octets arrive from the client.  Here the parser
reads them one by one and fails where an index is beyond the datagram, so that
it has to be proved that this does not happen.  What the thread keeps for
itself, the last report and the count of requests, is part of its state, and no
other thread comes in between.
-/

/-- The server, and what only the thread that reads RTCP writes.  The loss is in
256ths. -/
structure RtcpThread where
  server : RtpServer
  lastLoss : UInt8
  lastRr : Time
  videoNackRequests : Nat

namespace RtcpThread

/-! ## Reading the datagram -/

def word16At (data : List UInt8) (off : Nat) : Option Nat := do
  let high ← data[off]?
  let low ← data[off + 1]?
  return word16 high low

def word32At (data : List UInt8) (off : Nat) : Option Nat := do
  let first ← data[off]?
  let second ← data[off + 1]?
  let third ← data[off + 2]?
  let fourth ← data[off + 3]?
  return word32 first second third fourth

/-- The loop over the entries of a NACK. -/
def readEntries (data : List UInt8) (video : Bool) (pktLen off : Nat) : Option (List RtcpEvent) :=
  if off + 4 ≤ pktLen then do
    let pid ← word16At data off
    let blp ← word16At data (off + 2)
    let rest ← readEntries data video pktLen (off + 4)
    return retransmitEntry video pid blp ++ rest
  else some []
termination_by pktLen - off

/-- The loop over the blocks of a receiver report. -/
def readBlocks (videoSsrc : UInt32) (data : List UInt8) (pktLen : Nat) : (blocks off : Nat) → Option (List RtcpEvent)
  | 0, _ => some []
  | blocks + 1, off =>
      if off + 24 ≤ pktLen then do
        let blockSsrc ← word32At data off
        let own ←
          if blockSsrc = videoSsrc.toNat then data[off + 4]?.map (fun octet => [.fractionLost octet])
          else some []
        let rest ← readBlocks videoSsrc data pktLen blocks (off + 24)
        return own ++ rest
      else some []

/-- The parser, or nothing if it reads beyond the datagram. -/
def readRtcp (videoSsrc audioSsrc : UInt32) (data : List UInt8) : Option (List RtcpEvent) :=
  if data.length < 8 then some []
  else do
    let b0 ← data[0]?
    if b0 &&& 0xC0 ≠ 0x80 then return []
    let fmt := b0 &&& 0x1F
    let pt ← data[1]?
    let len16 ← word16At data 2
    let pktLen := (len16 + 1) * 4
    if data.length < pktLen ∨ pktLen < 8 then return []
    if pt = 206 ∧ fmt = 1 then return [.keyframeRequest]
    if pt = 205 ∧ fmt = 1 then do
      if pktLen < 16 then return []
      let mediaSsrc ← word32At data 8
      if mediaSsrc = videoSsrc.toNat then readEntries data true pktLen 12
      else if mediaSsrc = audioSsrc.toNat then readEntries data false pktLen 12
      else return []
    else if pt = 201 then readBlocks videoSsrc data pktLen fmt.toNat 8
    else return []

/-! ## No index beyond the datagram -/

theorem octet_eq {data : List UInt8} {index : Nat} (inside : index < data.length) :
    data[index]? = some (data.getD index 0) := by
  rw [List.getElem?_eq_getElem inside, List.getD_eq_getElem _ _ inside]

theorem word16At_eq {data : List UInt8} {off : Nat} (inside : off + 1 < data.length) :
    word16At data off = some (word16 (data.getD off 0) (data.getD (off + 1) 0)) := by
  rw [word16At, octet_eq (by omega), octet_eq inside]
  rfl

theorem word32At_eq {data : List UInt8} {off : Nat} (inside : off + 3 < data.length) :
    word32At data off =
      some (word32 (data.getD off 0) (data.getD (off + 1) 0) (data.getD (off + 2) 0) (data.getD (off + 3) 0)) := by
  rw [word32At, octet_eq (by omega), octet_eq (by omega), octet_eq (by omega), octet_eq inside]
  rfl

theorem readEntries_eq {data : List UInt8} {pktLen : Nat} (fits : pktLen ≤ data.length) (video : Bool) (off : Nat) :
    readEntries data video pktLen off = some (retransmitEntries data video ((pktLen - off) / 4) off) := by
  induction off using readEntries.induct pktLen with
  | case1 off more inductionHypothesis =>
      have count : (pktLen - off) / 4 = (pktLen - (off + 4)) / 4 + 1 := by omega
      rw [readEntries, if_pos more, word16At_eq (by omega), word16At_eq (by omega), inductionHypothesis, count,
        retransmitEntries]
      rfl
  | case2 off done =>
      have count : (pktLen - off) / 4 = 0 := by omega
      rw [readEntries, if_neg done, count, retransmitEntries]

theorem readBlocks_eq {data : List UInt8} {pktLen : Nat} (fits : pktLen ≤ data.length) (videoSsrc : UInt32)
    (blocks off : Nat) :
    readBlocks videoSsrc data pktLen blocks off = some (reportBlocks videoSsrc data pktLen blocks off) := by
  induction blocks generalizing off with
  | zero => rfl
  | succ blocks inductionHypothesis =>
      rw [readBlocks, reportBlocks]
      split
      · rename_i more
        rw [word32At_eq (by omega), octet_eq (by omega : off + 4 < data.length), inductionHypothesis]
        dsimp only [Option.bind_eq_bind, Option.bind_some]
        split <;> rfl
      · rfl

/-- Every index that the parser reads is inside the datagram. -/
theorem readRtcp_eq (videoSsrc audioSsrc : UInt32) (data : List UInt8) :
    readRtcp videoSsrc audioSsrc data = some (RtpServer.handleRtcp videoSsrc audioSsrc data) := by
  rw [readRtcp, RtpServer.handleRtcp]
  split
  · rfl
  rename_i long
  rw [octet_eq (by omega : 0 < data.length), octet_eq (by omega : 1 < data.length),
    word16At_eq (by omega : 2 + 1 < data.length)]
  dsimp only [Option.bind_eq_bind, Option.bind_some]
  split
  · rfl
  split
  · rfl
  rename_i fits
  split
  · rfl
  split
  · split
    · rfl
    rw [word32At_eq (by omega : 8 + 3 < data.length)]
    dsimp only [Option.bind_some]
    split
    · exact readEntries_eq (by omega) true 12
    split
    · exact readEntries_eq (by omega) false 12
    · rfl
  split
  · exact readBlocks_eq (by omega) videoSsrc _ 8
  · rfl

/-! ## Serving the events -/

/-- What the thread does about an event. -/
def serve (state : RtcpThread) (now : Time) : RtcpEvent → RtcpThread
  | .keyframeRequest => { state with server := state.server.onKeyframeRequest }
  | .retransmit video seq =>
      { state with
        videoNackRequests := if video then state.videoNackRequests + 1 else state.videoNackRequests
        server := state.server.retransmit video seq now }
  | .fractionLost octet => { state with lastLoss := octet, lastRr := now }

/-- The events one after another; the clock is read for each of them. -/
def serveAll (state : RtcpThread) (clock : Nat → Time) (count : Nat) : List RtcpEvent → RtcpThread
  | [] => state
  | event :: rest => (state.serve (clock count) event).serveAll clock (count + 1) rest

def handleRtcp (state : RtcpThread) (config : Config) (data : List UInt8) (sender : SockAddr) (clock : Nat → Time) :
    Option RtcpThread :=
  if !state.server.peerStreaming || sender.address != state.server.peerUdp.address ||
      sender.port != state.server.peerUdp.port then some state
  else (readRtcp config.videoSsrc config.audioSsrc data).map (state.serveAll clock 0)

/-! ## Which feedback is served -/

/-- The datagram begins with a packet of version 2, whose length fits. -/
structure Framed (data : List UInt8) (format type pktLen : Nat) : Prop where
  version : (data.getD 0 0).toNat / 64 = 2
  format : (data.getD 0 0).toNat % 32 = format
  type : (data.getD 1 0).toNat = type
  length : pktLen = 4 * (word16 (data.getD 2 0) (data.getD 3 0) + 1)
  whole : 8 ≤ pktLen
  fits : pktLen ≤ data.length

/-- The feedback messages as they are specified: a PLI names the media source, a
NACK has entries, and a receiver report has as many blocks as it says. -/
inductive WellFormed (data : List UInt8) : Prop where
  | pli (pktLen : Nat) (framed : Framed data 1 206 pktLen) (source : 12 ≤ pktLen)
  | nack (pktLen : Nat) (framed : Framed data 1 205 pktLen) (entry : 16 ≤ pktLen)
  | receiverReport (count pktLen : Nat) (framed : Framed data count 201 pktLen) (blocks : 8 + 24 * count ≤ pktLen)

/-- What the server serves: also a PLI without a source, and a receiver report
that is cut short. -/
inductive Served (data : List UInt8) : Prop where
  | pli (pktLen : Nat) (framed : Framed data 1 206 pktLen)
  | nack (pktLen : Nat) (framed : Framed data 1 205 pktLen) (entry : 16 ≤ pktLen)
  | receiverReport (count pktLen : Nat) (framed : Framed data count 201 pktLen)

theorem WellFormed.served {data : List UInt8} (wellFormed : WellFormed data) : Served data := by
  cases wellFormed with
  | pli pktLen framed source => exact .pli pktLen framed
  | nack pktLen framed entry => exact .nack pktLen framed entry
  | receiverReport count pktLen framed blocks => exact .receiverReport count pktLen framed

theorem version_bits : ∀ octet : UInt8, octet &&& 0xC0 = 0x80 ↔ octet.toNat / 64 = 2 := by
  apply forall_of_bits
  decide

theorem format_bits : ∀ octet : UInt8, (octet &&& 0x1F).toNat = octet.toNat % 32 := by
  apply forall_of_bits
  decide

theorem format_one (octet : UInt8) : octet &&& 0x1F = 1 ↔ octet.toNat % 32 = 1 := by
  rw [← format_bits, ← UInt8.toNat_inj]
  rfl

/-- The parser in terms of the header's fields. -/
theorem handleRtcp_of_framed {data : List UInt8} {format type pktLen : Nat} (framed : Framed data format type pktLen)
    (videoSsrc audioSsrc : UInt32) : RtpServer.handleRtcp videoSsrc audioSsrc data =
      if type = 206 ∧ format = 1 then [.keyframeRequest]
      else if type = 205 ∧ format = 1 then
        if pktLen < 16 then []
        else
          let mediaSsrc := word32 (data.getD 8 0) (data.getD 9 0) (data.getD 10 0) (data.getD 11 0)
          if mediaSsrc = videoSsrc.toNat then retransmitEntries data true ((pktLen - 12) / 4) 12
          else if mediaSsrc = audioSsrc.toNat then retransmitEntries data false ((pktLen - 12) / 4) 12
          else []
      else if type = 201 then reportBlocks videoSsrc data pktLen format 8
      else [] := by
  have type : ∀ value : UInt8, data.getD 1 0 = value ↔ type = value.toNat := by
    intro value
    rw [← UInt8.toNat_inj, framed.type]
  have length : (word16 (data.getD 2 0) (data.getD 3 0) + 1) * 4 = pktLen := by
    rw [framed.length, Nat.mul_comm]
  have long : ¬ data.length < 8 := by
    have whole := framed.whole
    have fits := framed.fits
    omega
  have inside : ¬ (data.length < pktLen ∨ pktLen < 8) := by
    have whole := framed.whole
    have fits := framed.fits
    omega
  rw [RtpServer.handleRtcp, if_neg long]
  dsimp only
  rw [if_neg (not_not.mpr ((version_bits _).mpr framed.version)), length, if_neg inside]
  simp only [type, format_one, format_bits, framed.format]
  rfl

/-- Nothing else leads to any event. -/
theorem handleRtcp_of_not_served {data : List UInt8} (notServed : ¬ Served data) (videoSsrc audioSsrc : UInt32) :
    RtpServer.handleRtcp videoSsrc audioSsrc data = [] := by
  by_cases framed : ∃ format type pktLen, Framed data format type pktLen
  · obtain ⟨format, type, pktLen, framed⟩ := framed
    rw [handleRtcp_of_framed framed]
    split
    · rename_i isPli
      obtain ⟨rfl, rfl⟩ := isPli
      exact absurd (.pli pktLen framed) notServed
    split
    · rename_i isNack
      obtain ⟨rfl, rfl⟩ := isNack
      split
      · rfl
      · rename_i long
        exact absurd (.nack pktLen framed (not_lt.mp long)) notServed
    split
    · rename_i isReport
      subst isReport
      exact absurd (.receiverReport format pktLen framed) notServed
    · rfl
  · rw [RtpServer.handleRtcp]
    split
    · rfl
    dsimp only
    split
    · rfl
    rename_i version
    split
    · rfl
    rename_i inside
    refine absurd ⟨_, _, _, (version_bits _).mp (not_not.mp version), rfl, rfl, Nat.mul_comm _ _, ?_, ?_⟩ framed
    all_goals omega

/-! ## The requests of a NACK -/

/-- The numbers that an entry asks for: the packet id, and those behind it whose
bits are set. -/
def entryNumbers (pid blp : Nat) : List UInt16 :=
  UInt16.ofNat pid ::
    ((List.range 16).filter (fun i => blp.testBit i)).map (fun i => UInt16.ofNat (pid + 1 + i))

/-- The numbers that a NACK asks for, entry by entry. -/
def requested (data : List UInt8) (pktLen : Nat) : List UInt16 :=
  (List.range ((pktLen - 12) / 4)).flatMap (fun entry =>
    entryNumbers (word16 (data.getD (12 + 4 * entry) 0) (data.getD (12 + 4 * entry + 1) 0))
      (word16 (data.getD (12 + 4 * entry + 2) 0) (data.getD (12 + 4 * entry + 3) 0)))

theorem retransmitEntry_eq (video : Bool) (pid blp : Nat) :
    retransmitEntry video pid blp = (entryNumbers pid blp).map (.retransmit video) := by
  have bit : ∀ i : Nat, blp &&& (1 <<< i) ≠ 0 ↔ blp.testBit i = true := by
    intro i
    rw [Nat.one_shiftLeft, Nat.and_two_pow]
    cases blp.testBit i <;> simp
  rw [retransmitEntry, entryNumbers, List.map_cons, List.map_map, ← List.filterMap_eq_map, List.filterMap_filter]
  refine congrArg (List.cons _) (List.filterMap_congr (fun i _ => ?_))
  simp only [bit]
  rfl

theorem retransmitEntries_eq (data : List UInt8) (video : Bool) (entries off : Nat) :
    retransmitEntries data video entries off =
      ((List.range entries).flatMap (fun entry =>
        entryNumbers (word16 (data.getD (off + 4 * entry) 0) (data.getD (off + 4 * entry + 1) 0))
          (word16 (data.getD (off + 4 * entry + 2) 0) (data.getD (off + 4 * entry + 3) 0)))).map
        (.retransmit video) := by
  induction entries generalizing off with
  | zero => rfl
  | succ entries inductionHypothesis =>
      have next : ∀ entry, off + 4 + 4 * entry = off + 4 * (entry + 1) := by
        intro entry
        omega
      rw [retransmitEntries, inductionHypothesis, retransmitEntry_eq, List.range_succ_eq_map, List.flatMap_cons,
        List.flatMap_map, List.map_append]
      simp only [next]
      rfl

/-! ## What is queued -/

def sameNumber (first second : RepairPacket) : Bool := first.packet.number == second.packet.number

/-- The repair for a request at this time: if the packet is retained, was sent
recently and is not queued yet. -/
def repairFor (server : RtpServer) (video : Bool) (request : UInt16 × Time) : Option RepairPacket :=
  if server.repairQ.any (fun queued => queued.video == video && queued.packet.number == request.1) then none
  else
    match (if video then server.videoRetx else server.audioRetx).get request.1 with
    | none => none
    | some stored =>
        if request.2 - stored.sentAt < kMaxSendAge then
          some ⟨stored.packet, min (stored.sentAt + kMaxSendAge) (request.2 + kRepairAge),
            server.sendGeneration, video⟩
        else none

/-- The repairs for some requests, each packet once, as far as there is room. -/
def repairsFor (server : RtpServer) (video : Bool) (requests : List (UInt16 × Time)) : List RepairPacket :=
  ((requests.filterMap (repairFor server video)).eraseDupsBy sameNumber).take
    (kMaxQueuedRepairs - server.repairQ.length)

/-- The requests with the readings of the clock, from one count on. -/
def timed (clock : Nat → Time) (count : Nat) (numbers : List UInt16) : List (UInt16 × Time) :=
  (numbers.zipIdx count).map (fun number => (number.1, clock number.2))

variable {server : RtpServer} {video : Bool} {request : UInt16 × Time} {repair : RepairPacket}

theorem timed_cons (clock : Nat → Time) (count : Nat) (seq : UInt16) (rest : List UInt16) :
    timed clock count (seq :: rest) = (seq, clock count) :: timed clock (count + 1) rest := rfl

/-- A request is served if there is room. -/
theorem retransmit_eq (streaming : server.peerStreaming = true) (video : Bool) (seq : UInt16) (now : Time) :
    server.retransmit video seq now =
      if kMaxQueuedRepairs ≤ server.repairQ.length then server
      else { server with repairQ := server.repairQ ++ (repairFor server video (seq, now)).toList } := by
  have nothing : { server with repairQ := server.repairQ ++ (none : Option RepairPacket).toList } = server := by
    rw [Option.toList_none, List.append_nil]
  rw [retransmit]
  by_cases full : kMaxQueuedRepairs ≤ server.repairQ.length
  · rw [if_pos full, if_pos (by rw [decide_eq_true full, Bool.or_true])]
  rw [if_neg full, if_neg (by rw [streaming, decide_eq_false full]; exact Bool.false_ne_true), repairFor]
  by_cases queued : server.repairQ.any (fun queued => queued.video == video && queued.packet.number == seq) = true
  · rw [if_pos queued, nothing]
    exact if_pos queued
  rw [if_neg queued]
  refine (if_neg queued).trans ?_
  cases found : (if video then server.videoRetx else server.audioRetx).get seq with
  | none => exact nothing.symm
  | some stored =>
      dsimp only
      split
      · rfl
      · exact nothing.symm

/-- The repair carries the number that was asked for. -/
theorem number_of_repairFor (keyed : server.videoRetx.Keyed MediaPacket.number ∧
    server.audioRetx.Keyed MediaPacket.number) (found : repairFor server video request = some repair) :
    repair.packet.number = request.1 ∧ repair.video = video := by
  rw [repairFor] at found
  split at found
  · cases found
  split at found
  · cases found
  rename_i stored isStored
  split at found
  · cases found
    refine ⟨?_, rfl⟩
    cases video with
    | true => exact keyed.1.get isStored
    | false => exact keyed.2.get isStored
  · cases found

/-- Behind a queued repair its number is not asked for again. -/
theorem repairFor_behind (keyed : server.videoRetx.Keyed MediaPacket.number ∧
    server.audioRetx.Keyed MediaPacket.number) (isVideo : repair.video = video) (request : UInt16 × Time) :
    repairFor { server with repairQ := server.repairQ ++ [repair] } video request =
      (repairFor server video request).filter (fun other => sameNumber other repair = false) := by
  cases found : repairFor server video request with
  | none =>
      rw [Option.filter_none, repairFor]
      rw [repairFor] at found
      split at found
      · rename_i queued
        rw [List.any_append, queued, Bool.true_or, if_pos rfl]
      · rename_i unqueued
        split
        · rfl
        · exact found
  | some other =>
      have number := (number_of_repairFor keyed found).1
      rw [repairFor] at found ⊢
      split at found
      · cases found
      rename_i unqueued
      rw [List.any_append, Bool.eq_false_iff.mpr unqueued, Bool.false_or, List.any_cons, List.any_nil, Bool.or_false,
        isVideo, beq_self_eq_true, Bool.true_and]
      by_cases same : repair.packet.number = request.1
      · have twice : sameNumber other repair = true := beq_iff_eq.mpr (number.trans same.symm)
        rw [if_pos (beq_iff_eq.mpr same), Option.filter_some, twice]
        rfl
      · have once : sameNumber other repair = false :=
          beq_eq_false_iff_ne.mpr (fun equal => same (equal.symm.trans number))
        rw [if_neg (by rw [beq_iff_eq]; exact same), Option.filter_some, once]
        exact found

theorem repairsFor_of_full (full : kMaxQueuedRepairs ≤ server.repairQ.length) (requests : List (UInt16 × Time)) :
    repairsFor server video requests = [] := by
  rw [repairsFor, Nat.sub_eq_zero_of_le full, List.take_zero]

theorem repairsFor_cons_none (none : repairFor server video request = none) (rest : List (UInt16 × Time)) :
    repairsFor server video (request :: rest) = repairsFor server video rest := by
  rw [repairsFor, List.filterMap_cons_none none, repairsFor]

/-- The first repair takes a place, and its number is done with. -/
theorem repairsFor_cons_some (keyed : server.videoRetx.Keyed MediaPacket.number ∧
    server.audioRetx.Keyed MediaPacket.number) (room : server.repairQ.length < kMaxQueuedRepairs)
    (found : repairFor server video request = some repair) (rest : List (UInt16 × Time)) :
    repairsFor server video (request :: rest) =
      repair :: repairsFor { server with repairQ := server.repairQ ++ [repair] } video rest := by
  have isVideo := (number_of_repairFor keyed found).2
  have places : kMaxQueuedRepairs - server.repairQ.length = kMaxQueuedRepairs - (server.repairQ.length + 1) + 1 := by
    omega
  have behind : rest.filterMap (repairFor { server with repairQ := server.repairQ ++ [repair] } video) =
      (rest.filterMap (repairFor server video)).filter (fun other => sameNumber other repair = false) := by
    rw [List.filter_filterMap]
    exact List.filterMap_congr (fun other _ => repairFor_behind keyed isVideo other)
  rw [repairsFor, List.filterMap_cons_some found, List.eraseDupsBy_cons, places, List.take_succ_cons,
    repairsFor, behind, List.length_append]
  rfl

/-- What is queued for the requests of one medium. -/
theorem foldl_retransmit (streaming : server.peerStreaming = true)
    (keyed : server.videoRetx.Keyed MediaPacket.number ∧ server.audioRetx.Keyed MediaPacket.number) (video : Bool)
    (requests : List (UInt16 × Time)) :
    requests.foldl (fun server request => server.retransmit video request.1 request.2) server =
      { server with repairQ := server.repairQ ++ repairsFor server video requests } := by
  induction requests generalizing server with
  | nil =>
      rw [repairsFor, List.filterMap_nil, List.eraseDupsBy_nil, List.take_nil, List.append_nil]
      rfl
  | cons request rest inductionHypothesis =>
      rw [List.foldl_cons, retransmit_eq streaming]
      by_cases full : kMaxQueuedRepairs ≤ server.repairQ.length
      · rw [if_pos full, inductionHypothesis streaming keyed, repairsFor_of_full full, repairsFor_of_full full]
      rw [if_neg full]
      cases found : repairFor server video request with
      | none =>
          rw [Option.toList_none, List.append_nil, repairsFor_cons_none found]
          exact inductionHypothesis streaming keyed
      | some repair =>
          rw [Option.toList_some, repairsFor_cons_some keyed (not_le.mp full) found]
          rw [inductionHypothesis, List.append_assoc]
          · rfl
          · exact streaming
          · exact keyed

theorem serveAll_requests (state : RtcpThread) (clock : Nat → Time) (video : Bool) (numbers : List UInt16)
    (count : Nat) : (state.serveAll clock count (numbers.map (.retransmit video))).server =
      (timed clock count numbers).foldl (fun server request => server.retransmit video request.1 request.2)
        state.server := by
  induction numbers generalizing state count with
  | nil => rfl
  | cons seq rest inductionHypothesis =>
      rw [timed_cons, List.foldl_cons, List.map_cons, serveAll, inductionHypothesis]
      rfl

/-- A receiver report touches nothing but what is known of the loss. -/
theorem serveAll_report (state : RtcpThread) (clock : Nat → Time) (videoSsrc : UInt32) (data : List UInt8)
    (pktLen blocks off count : Nat) :
    (state.serveAll clock count (reportBlocks videoSsrc data pktLen blocks off)).server = state.server ∧
      (state.serveAll clock count (reportBlocks videoSsrc data pktLen blocks off)).videoNackRequests =
        state.videoNackRequests := by
  induction blocks generalizing state off count with
  | zero => exact ⟨rfl, rfl⟩
  | succ blocks inductionHypothesis =>
      rw [reportBlocks]
      split
      · dsimp only
        split
        · exact inductionHypothesis (state.serve (clock count) (.fractionLost (data.getD (off + 4) 0))) (off + 24)
            (count + 1)
        · exact inductionHypothesis state (off + 24) count
      · exact ⟨rfl, rfl⟩

/-! ## The handler -/

/-- The datagram comes from the client that is being streamed to. -/
def FromPeer (server : RtpServer) (sender : SockAddr) : Prop :=
  server.peerStreaming = true ∧ sender.address = server.peerUdp.address ∧ sender.port = server.peerUdp.port

theorem handleRtcp_of_peer {state : RtcpThread} {sender : SockAddr} (fromPeer : FromPeer state.server sender)
    (config : Config) (data : List UInt8) (clock : Nat → Time) :
    state.handleRtcp config data sender clock =
      some (state.serveAll clock 0 (RtpServer.handleRtcp config.videoSsrc config.audioSsrc data)) := by
  obtain ⟨streaming, address, port⟩ := fromPeer
  rw [handleRtcp, readRtcp_eq, if_neg]
  · rfl
  · rw [streaming, address, port]
    simp

/-- The medium that an SSRC stands for. -/
def medium (config : Config) (ssrc : Nat) : Option Bool :=
  if ssrc = config.videoSsrc.toNat then some true
  else if ssrc = config.audioSsrc.toNat then some false
  else none

theorem handleRtcp_of_nack {data : List UInt8} {pktLen : Nat} (framed : Framed data 1 205 pktLen)
    (entry : 16 ≤ pktLen) (config : Config) {video : Bool} (isMedium : medium config
      (word32 (data.getD 8 0) (data.getD 9 0) (data.getD 10 0) (data.getD 11 0)) = some video) :
    RtpServer.handleRtcp config.videoSsrc config.audioSsrc data =
      (requested data pktLen).map (.retransmit video) := by
  have notPli : ¬ (205 = 206 ∧ 1 = 1) := by decide
  have isNack : 205 = 205 ∧ 1 = 1 := by decide
  rw [handleRtcp_of_framed framed, if_neg notPli, if_pos isNack, if_neg (not_lt.mpr entry)]
  rw [medium] at isMedium
  dsimp only
  split at isMedium
  · rename_i same
    cases isMedium
    rw [if_pos same, retransmitEntries_eq, requested]
  rename_i other
  split at isMedium
  · rename_i same
    cases isMedium
    rw [if_neg other, if_pos same, retransmitEntries_eq, requested]
  · cases isMedium

theorem mem_of_mem_eraseDupsBy {same : RepairPacket → RepairPacket → Bool} {repairs : List RepairPacket}
    (member : repair ∈ repairs.eraseDupsBy same) : repair ∈ repairs := by
  induction length : repairs.length using Nat.strong_induction_on generalizing repairs with
  | _ count inductionHypothesis =>
      cases repairs with
      | nil => exact member
      | cons first rest =>
          rw [List.eraseDupsBy_cons] at member
          rcases List.mem_cons.mp member with isFirst | later
          · exact isFirst ▸ List.mem_cons_self
          · have shorter : (rest.filter (fun other => same other first = false)).length < count := by
              rw [← length, List.length_cons]
              exact Nat.lt_succ_of_le (List.length_filter_le _ _)
            exact List.mem_cons_of_mem _ (List.mem_of_mem_filter (inductionHypothesis _ shorter later rfl))

/-- What is queued is current and due soon. -/
theorem mem_repairsFor {requests : List (UInt16 × Time)} (member : repair ∈ repairsFor server video requests) :
    repair.generation = server.sendGeneration ∧
      ∃ request ∈ requests, repairFor server video request = some repair ∧
        repair.deadline ≤ request.2 + kRepairAge := by
  obtain ⟨request, asked, found⟩ := List.mem_filterMap.mp (mem_of_mem_eraseDupsBy (List.mem_of_mem_take member))
  have made := found
  rw [repairFor] at made
  split at made
  · cases made
  split at made
  · cases made
  split at made
  · cases made
    exact ⟨rfl, request, asked, found, min_le_right _ _⟩
  · cases made

/-- Whatever arrives from the client, no index is read beyond it.  What is no
PLI, NACK or receiver report changes nothing, a receiver report only what is
known of the loss, and a PLI only asks for a keyframe.  A NACK extends the queue
of repairs, in the order of the requests, by the packets asked for that are
retained, were sent recently and are not queued yet, each once and as far as
there is room. -/
theorem handles_feedback {config : Config} {actions : List Action} {state : RtcpThread}
    (reached : RtpServer.run config actions = some state.server) {sender : SockAddr}
    (fromPeer : FromPeer state.server sender) (data : List UInt8) (clock : Nat → Time) :
    ∃ next, state.handleRtcp config data sender clock = some next ∧
      (¬ Served data → next = state) ∧
      (∀ pktLen, Framed data 1 206 pktLen → next = { state with server := state.server.onKeyframeRequest }) ∧
      (∀ count pktLen, Framed data count 201 pktLen →
        next.server = state.server ∧ next.videoNackRequests = state.videoNackRequests) ∧
      (∀ pktLen video, Framed data 1 205 pktLen → 16 ≤ pktLen →
        medium config (word32 (data.getD 8 0) (data.getD 9 0) (data.getD 10 0) (data.getD 11 0)) = some video →
        next.server = { state.server with
          repairQ := state.server.repairQ ++
            repairsFor state.server video (timed clock 0 (requested data pktLen)) } ∧
        ∀ repair ∈ repairsFor state.server video (timed clock 0 (requested data pktLen)),
          repair.generation = state.server.sendGeneration ∧
          ∃ request ∈ timed clock 0 (requested data pktLen), repairFor state.server video request = some repair ∧
            repair.deadline ≤ request.2 + kRepairAge) := by
  have accounted := accounted_of_run reached
  refine ⟨_, handleRtcp_of_peer fromPeer config data clock, ?_, ?_, ?_, ?_⟩
  · intro notServed
    rw [handleRtcp_of_not_served notServed]
    rfl
  · intro pktLen framed
    rw [handleRtcp_of_framed framed]
    rfl
  · intro count pktLen framed
    rw [handleRtcp_of_framed framed]
    exact serveAll_report state clock config.videoSsrc data pktLen count 8 0
  · intro pktLen video framed entry isMedium
    refine ⟨?_, fun repair => mem_repairsFor⟩
    rw [handleRtcp_of_nack framed entry config isMedium, serveAll_requests]
    exact foldl_retransmit fromPeer.1 ⟨accounted.video, accounted.audio⟩ video _

/-! ## The steps of the thread -/

theorem handleEvent_rtcp (server : RtpServer) (now : Time) (event : RtcpEvent) (rest : List RtcpEvent) :
    { server with rtcp := rest }.handleEvent now event = { server.handleEvent now event with rtcp := rest } := by
  cases event with
  | keyframeRequest => rfl
  | fractionLost octet => rfl
  | retransmit video seq =>
      change { server with rtcp := rest }.retransmit video seq now =
        { server.retransmit video seq now with rtcp := rest }
      unfold retransmit
      dsimp only
      split
      · rfl
      split
      · rfl
      cases (if video then server.videoRetx else server.audioRetx).get seq with
      | none => rfl
      | some stored =>
          dsimp only
          split <;> rfl

/-- When no other thread comes in between, the steps of the thread do what the
handler does. -/
theorem run_handleEvents (config : Config) (state : RtcpThread) (clock : Nat → Time) (events : List RtcpEvent)
    (count : Nat) : run (RtpServer.step config) { state.server with rtcp := events }
        ((List.range' count events.length).map (fun index => .handleEvent (clock index))) =
      some { (state.serveAll clock count events).server with rtcp := [] } := by
  induction events generalizing state count with
  | nil => rfl
  | cons event rest inductionHypothesis =>
      have served : (state.serve (clock count) event).server = state.server.handleEvent (clock count) event := by
        cases event <;> rfl
      rw [List.length_cons, List.range'_succ, List.map_cons, run_cons_iff]
      refine ⟨{ (state.serve (clock count) event).server with rtcp := rest }, ?_, ?_⟩
      · rw [served]
        exact congrArg some (handleEvent_rtcp state.server (clock count) event rest)
      · exact inductionHypothesis (state.serve (clock count) event) (count + 1)

/-! ## A small session -/

/-- A keyframe was sent, and a NACK asks for its packet twice. -/
def sampleActions : List Action :=
  sampleReady ++ [.broadcastVideo 0 0 [0, 0, 0, 1, 0x26, 0x01, 0xAF] 0 true] ++ sampleSend 1

def sampleState : RtcpThread where
  server := (RtpServer.run sampleConfig sampleActions).get (by decide +kernel)
  lastLoss := 0
  lastRr := 0
  videoNackRequests := 0

def samplePeer : SockAddr := ⟨AF_INET, 0xC0A80001, 5004⟩

def sampleNack : List UInt8 := [0x81, 205, 0, 4, 0, 0, 0, 9, 0, 0, 0, 7, 0, 0, 0, 0, 255, 255, 0, 1]

theorem handles_feedback_sample : ∃ next, sampleState.handleRtcp sampleConfig sampleNack samplePeer (fun _ => 2) =
      some next ∧ next.server.repairQ.map RepairPacket.deadline = [20000002] := by
  have reached : RtpServer.run sampleConfig sampleActions = some sampleState.server :=
    Option.eq_some_of_isSome (by decide +kernel)
  have fromPeer : FromPeer sampleState.server samplePeer := by
    refine ⟨by decide +kernel, by decide +kernel, by decide +kernel⟩
  have framed : Framed sampleNack 1 205 20 := by
    refine ⟨by decide, by decide, by decide, by decide, by decide, by decide⟩
  obtain ⟨next, handled, _, _, _, queued⟩ := handles_feedback reached fromPeer sampleNack (fun _ => 2)
  refine ⟨next, handled, ?_⟩
  rw [(queued 20 true framed (by decide) (by decide +kernel)).1]
  decide +kernel

/-- A receiver report of two blocks that is cut short behind the first. -/
def truncatedReport : List UInt8 :=
  [0x82, 201, 0, 7, 0, 0, 0, 9, 0, 0, 0, 7, 128, 0, 0, 0, 0, 0, 0, 0, 0, 0, 0, 0, 0, 0, 0, 0, 0, 0, 0, 0]

theorem malformed_not_always_ignored : ¬ WellFormed truncatedReport ∧ FromPeer sampleState.server samplePeer ∧
    (sampleState.handleRtcp sampleConfig truncatedReport samplePeer (fun _ => 2)).map RtcpThread.lastLoss =
      some 128 ∧ sampleState.lastLoss = 0 := by
  refine ⟨?_, ⟨by decide +kernel, by decide +kernel, by decide +kernel⟩, by decide +kernel, rfl⟩
  intro wellFormed
  cases wellFormed with
  | pli pktLen framed source => exact absurd framed.type (by decide)
  | nack pktLen framed entry => exact absurd framed.type (by decide)
  | receiverReport count pktLen framed blocks =>
      have isCount : 2 = count := framed.format
      have length : pktLen = 32 := framed.length
      omega

end RtcpThread
end MetaShare
