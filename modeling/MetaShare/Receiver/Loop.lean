import MetaShare.Foundation.ReorderBuffer
import MetaShare.Receiver.Depacketizer

namespace MetaShare
namespace RtpReceiver

open Octets

/-!
# The receive loop

One thread of the client receives RTP packets, holds early ones back, reports
losses and feeds the depacketizer.  The model runs one iteration of the loop at
a time: the repair expiry, then whatever the socket returned.  Readings of the
clock and the outcome of sends are not under the program's control; an
`Environment` supplies them in the order in which the loop asks for them, and
nothing is assumed about them.

What other components can see is recorded in a log: calls of the depacketizer,
frames and audio packets handed to the sinks, and datagrams sent.  Two kinds of
entries only serve to state properties: the extended sequence number of each
video packet that arrives, and of each packet that a NACK asks for.
-/

abbrev InetAddress := List UInt8

/-- What the receiver is configured with.  The SSRCs are kept as the bit
patterns of the `int` fields. -/
structure Config where
  videoSsrc : UInt32
  videoPt : Int
  h265 : Bool
  videoClockRate : Int
  audioSsrc : UInt32
  audioPt : Int
  audioClockRate : Int
  audioSink : Bool

/-- Successive readings of the clock, and whether successive sends succeed. -/
structure Environment where
  elapsedRealtime : Nat → Int
  sendSucceeds : Nat → Bool

/-- A video packet that waits for its predecessors. -/
structure HeldVideo where
  payload : List UInt8
  marker : Bool
  ts : Nat
  receivedMs : Int

/-- What can be observed of the loop. -/
inductive Effect where
  | arrived (ext : Int)
  | requested (ext : Int)
  | gap
  | fed (ext : Int) (payload : List UInt8) (marker : Bool) (ptsUsec : Int)
  | frame (frame : Frame)
  | opus (data : List UInt8) (ptsUsec : Int)
  | sent (datagram : List UInt8) (address : InetAddress) (port : Int)

/-- What the socket returns.  The receive buffer is larger than a datagram;
what lies behind it is left over from earlier ones. -/
inductive Received where
  | timeout
  | failed
  | packet (data stale : List UInt8) (address : InetAddress) (port : UInt16)

def JITTER_MAX : Nat := 512
def REPAIR_BUDGET_MS : Int := 30
def NACK_MAX_GAP : Int := 256
def RR_INTERVAL_MS : Int := 1000
def EXTERNAL_PLI_MIN_INTERVAL_MS : Int := 250
def AUTO_PLI_MIN_INTERVAL_MS : Int := 500

end RtpReceiver

/-- The fields of the receiver and the local variables of its loop. -/
structure RtpReceiver where
  depack : RtpReceiver.VideoDepacketizer
  jitter : List (Int × RtpReceiver.HeldVideo) := []
  nextExtSeq : Int := -1
  highestExtSeq : Int := -1
  lastAutoPli : Int := 0
  remoteAddress : Option RtpReceiver.InetAddress := none
  remotePort : Int := -1
  pliPending : Bool := false
  lastExternalPliMs : Int := 0
  statFirstExtSeq : Int := -1
  statReceived : Int := 0
  statExpectedPrior : Int := 0
  statReceivedPrior : Int := 0
  lastRrMs : Int := 0
  reads : Nat := 0
  sends : Nat := 0
  log : List RtpReceiver.Effect := []

namespace RtpReceiver

open Octets OrderedMap

/-- A receiver whose loop has just been entered. -/
def start (config : Config) : RtpReceiver := { depack := .create config.h265 }

def record (receiver : RtpReceiver) (effect : Effect) : RtpReceiver :=
  { receiver with log := receiver.log ++ [effect] }

/-- The reading of the clock that the receiver gets next. -/
def clock (receiver : RtpReceiver) (env : Environment) : Int := env.elapsedRealtime receiver.reads

/-- The clock has been read. -/
def tick (receiver : RtpReceiver) : RtpReceiver := { receiver with reads := receiver.reads + 1 }

/-- Send a datagram, unless that raises an exception. -/
def transmit (receiver : RtpReceiver) (env : Environment) (datagram : List UInt8)
    (address : InetAddress) (port : Int) : RtpReceiver :=
  if env.sendSucceeds receiver.sends then
    { receiver with sends := receiver.sends + 1 }.record (.sent datagram address port)
  else { receiver with sends := receiver.sends + 1 }

/-- An `int` with this bit pattern is negative. -/
def isNegative (word : UInt32) : Bool := 0x80000000 ≤ word

/-! ## Feedback to the streamer -/

def pli (videoSsrc : UInt32) : List UInt8 :=
  [0x81, 206, 0x00, 0x02, 0, 0, 0, 0] ++ ofWord32 videoSsrc

def sendPli (receiver : RtpReceiver) (env : Environment) (config : Config) : RtpReceiver :=
  match receiver.remoteAddress with
  | none => receiver
  | some address =>
      if receiver.remotePort < 0 ∨ isNegative config.videoSsrc then receiver
      else receiver.transmit env (pli config.videoSsrc) address receiver.remotePort

/-- A keyframe request of the loop or of another thread. -/
def requestKeyframe (receiver : RtpReceiver) (env : Environment) (config : Config) : RtpReceiver :=
  let now := receiver.clock env
  let receiver := receiver.tick
  if now - receiver.lastExternalPliMs < EXTERNAL_PLI_MIN_INTERVAL_MS then receiver
  else
    let receiver := { receiver with lastExternalPliMs := now }
    match receiver.remoteAddress with
    | none => { receiver with pliPending := true }
    | some _ => receiver.sendPli env config

/-- The throttled request of the loop itself. -/
def sendAutoPli (receiver : RtpReceiver) (env : Environment) (config : Config) : RtpReceiver :=
  let now := receiver.clock env
  let receiver := receiver.tick
  if now - receiver.lastAutoPli > AUTO_PLI_MIN_INTERVAL_MS then
    { receiver with lastAutoPli := now }.sendPli env config
  else receiver

/-- The bitmap behind a packet id, and how many numbers it covers. -/
def packBlp (extPid afterGap : Int) : List Nat → Nat × Nat → Nat × Nat
  | [], packed => packed
  | i :: rest, (blp, count) =>
      if extPid + 1 + i ≥ afterGap then (blp, count)
      else packBlp extPid afterGap rest (blp ||| (1 <<< i), count + 1)

def nack (videoSsrc : UInt32) (pid blp : UInt16) : List UInt8 :=
  [0x81, 205, 0x00, 0x03, 0, 0, 0, 0] ++ ofWord32 videoSsrc ++ ofWord16 pid ++ ofWord16 blp

/-- The low 16 bits of an extended sequence number. -/
def lowWord (ext : Int) : UInt16 := UInt16.ofNat (ext % 65536).toNat

/-- Consecutive numbers, such as those that a NACK asks for. -/
def numbersFrom (first : Int) (count : Nat) : List Int :=
  (List.range count).map (fun (i : Nat) => first + i)

/-- The sending loop, which ends early when a send fails. -/
def sendNacksFrom (env : Environment) (config : Config) (address : InetAddress) (port : Int)
    (extPid afterGap : Int) (receiver : RtpReceiver) : RtpReceiver :=
  if extPid < afterGap then
    let packed := packBlp extPid afterGap (List.range 16) (0, 0)
    let sent := receiver.transmit env
      (nack config.videoSsrc (lowWord extPid) (UInt16.ofNat packed.1)) address port
    if env.sendSucceeds receiver.sends then
      sendNacksFrom env config address port (extPid + 1 + packed.2) afterGap
        { sent with log := sent.log ++ (numbersFrom extPid (packed.2 + 1)).map Effect.requested }
    else sent
  else receiver
termination_by (afterGap - extPid).toNat

/-- NACK the extended sequence numbers `[firstMissing, afterGap)`. -/
def sendNacksForRange (receiver : RtpReceiver) (env : Environment) (config : Config)
    (firstMissing afterGap : Int) : RtpReceiver :=
  match receiver.remoteAddress with
  | none => receiver
  | some address =>
      if receiver.remotePort < 0 then receiver
      else sendNacksFrom env config address receiver.remotePort firstMissing afterGap receiver

def receiverReport (videoSsrc : UInt32) (fractionLost cumLost highestExtSeq : Int) : List UInt8 :=
  let lost := UInt32.ofNat (cumLost % 4294967296).toNat
  ([0x81, 201, 0x00, 0x07, 0, 0, 0, 0] : List UInt8) ++ ofWord32 videoSsrc ++
    [UInt8.ofNat (fractionLost % 256).toNat, (lost >>> 16).toUInt8, (lost >>> 8).toUInt8, lost.toUInt8] ++
    (ofWord32 (UInt32.ofNat (highestExtSeq % 4294967296).toNat) ++ List.replicate 12 0)

def maybeSendReceiverReport (receiver : RtpReceiver) (env : Environment) (config : Config) : RtpReceiver :=
  let now := receiver.clock env
  let receiver := receiver.tick
  if now - receiver.lastRrMs < RR_INTERVAL_MS then receiver
  else
    let receiver := { receiver with lastRrMs := now }
    match receiver.remoteAddress with
    | none => receiver
    | some address =>
        if receiver.remotePort < 0 then receiver
        else if receiver.statFirstExtSeq < 0 ∨ receiver.highestExtSeq < 0 then receiver
        else
          let expected := receiver.highestExtSeq - receiver.statFirstExtSeq + 1
          let expectedInterval := expected - receiver.statExpectedPrior
          let receivedInterval := receiver.statReceived - receiver.statReceivedPrior
          let lost := expectedInterval - receivedInterval
          let fractionLost : Int :=
            if expectedInterval > 0 ∧ lost > 0 then min 255 ((lost * 256).tdiv expectedInterval) else 0
          let cumLost := max 0 (min 0x7FFFFF (expected - receiver.statReceived))
          let receiver := { receiver with
            statExpectedPrior := expected
            statReceivedPrior := receiver.statReceived }
          receiver.transmit env
            (receiverReport config.videoSsrc fractionLost cumLost receiver.highestExtSeq)
            address receiver.remotePort

/-! ## Delivery -/

/-- Ticks of a media clock in microseconds. -/
def usec (clockRate : Int) (ts : Nat) : Int := ((ts : Int) * 1000000).tdiv clockRate

def checkedUsec (clockRate : Int) (ts : Nat) : Checked Int :=
  if clockRate = 0 then .error .arithmetic else .ok (usec clockRate ts)

/-- Move the playout point behind a packet and feed it to the depacketizer. -/
def deliver (receiver : RtpReceiver) (env : Environment) (config : Config) (ext : Int)
    (data : List UInt8) (off len : Nat) (marker : Bool) (ts : Nat) : Checked RtpReceiver := do
  let ptsUsec ← checkedUsec config.videoClockRate ts
  let (depack, shown) ← receiver.depack.feed data off len marker ptsUsec
  let receiver := { receiver with
    nextExtSeq := ext + 1
    depack := depack
    log := receiver.log ++ .fed ext (slice data off len) marker ptsUsec :: shown.toList.map Effect.frame }
  pure (if depack.needsKeyframe then receiver.requestKeyframe env config else receiver)

/-- Skipping over a missing packet is announced to the depacketizer, and
answered with a keyframe request. -/
def announceGap (receiver : RtpReceiver) (env : Environment) (config : Config) : RtpReceiver :=
  ({ receiver with depack := receiver.depack.onGap }.record .gap).sendAutoPli env config

/-- The lowest held packet is due; the clock is only read if nothing else
makes it so. -/
def isDue (receiver : RtpReceiver) (env : Environment) (s : Int) (receivedMs : Int) : Bool × RtpReceiver :=
  if receiver.nextExtSeq < 0 ∨ s = receiver.nextExtSeq ∨ receiver.jitter.length > JITTER_MAX then
    (true, receiver)
  else (receiver.clock env - receivedMs ≥ REPAIR_BUDGET_MS, receiver.tick)

/-- Hand the lowest held packet on. -/
def release (receiver : RtpReceiver) (env : Environment) (config : Config) (s : Int) (hv : HeldVideo)
    (rest : List (Int × HeldVideo)) : Checked RtpReceiver :=
  let receiver := { receiver with jitter := rest }
  let receiver :=
    if 0 ≤ receiver.nextExtSeq ∧ s ≠ receiver.nextExtSeq then receiver.announceGap env config else receiver
  receiver.deliver env config s hv.payload 0 hv.payload.length hv.marker hv.ts

/-- The expiry loop over the held packets, lowest first. -/
def expireEntries (env : Environment) (config : Config) :
    List (Int × HeldVideo) → RtpReceiver → Checked RtpReceiver
  | [], receiver => pure receiver
  | (s, hv) :: rest, receiver =>
      let verdict := receiver.isDue env s hv.receivedMs
      if verdict.1 then do
        let receiver ← verdict.2.release env config s hv rest
        expireEntries env config rest receiver
      else pure verdict.2

def expire (receiver : RtpReceiver) (env : Environment) (config : Config) : Checked RtpReceiver :=
  expireEntries env config receiver.jitter receiver

/-! ## Arrival -/

/-- The remote endpoint is learned from the first datagram. -/
def learnRemote (receiver : RtpReceiver) (env : Environment) (config : Config)
    (address : InetAddress) (port : UInt16) : RtpReceiver :=
  match receiver.remoteAddress with
  | some _ => receiver
  | none =>
      let receiver := { receiver with remoteAddress := some address, remotePort := port.toNat }
      if receiver.pliPending then { receiver with pliPending := false }.sendPli env config else receiver

/-- The fields of a packet that the loop uses. -/
structure Header where
  marker : Bool
  pt : Nat
  seq : Nat
  ts : Nat
  ssrc : UInt32
  payloadOff : Nat

/-- Where the payload of a datagram of `n` octets begins: behind the CSRC list
and a header extension. -/
def payloadOffset (buf : List UInt8) (n : Nat) (flags : UInt8) : Checked Nat :=
  let cc := (flags &&& 0x0F).toNat
  let payloadOff := 12 + cc * 4
  if flags &&& 0x10 ≠ 0 ∧ payloadOff + 4 ≤ n then do
    let wordsHigh ← byteAt buf (payloadOff + 2)
    let wordsLow ← byteAt buf (payloadOff + 3)
    pure (payloadOff + (4 + word16 wordsHigh wordsLow * 4))
  else pure payloadOff

/-- Parse a datagram of `n` octets; there is no header if the version is not 2. -/
def parseHeader (buf : List UInt8) (n : Nat) : Checked (Option Header) := do
  let flags ← byteAt buf 0
  if (flags >>> (6 : UInt8)) &&& 3 ≠ 2 then pure none
  else do
    let second ← byteAt buf 1
    let seqHigh ← byteAt buf 2
    let seqLow ← byteAt buf 3
    let ts0 ← byteAt buf 4
    let ts1 ← byteAt buf 5
    let ts2 ← byteAt buf 6
    let ts3 ← byteAt buf 7
    let ssrc0 ← byteAt buf 8
    let ssrc1 ← byteAt buf 9
    let ssrc2 ← byteAt buf 10
    let ssrc3 ← byteAt buf 11
    let payloadOff ← payloadOffset buf n flags
    pure (some
      { marker := second &&& 0x80 != 0
        pt := (second &&& 0x7F).toNat
        seq := word16 seqHigh seqLow
        ts := word32 ts0 ts1 ts2 ts3
        ssrc := UInt32.ofNat (word32 ssrc0 ssrc1 ssrc2 ssrc3)
        payloadOff := payloadOff })

/-- The extended sequence number closest to the highest one seen: the `short`
difference is added to it. -/
def extendSeq (highestExtSeq : Int) (seq : Nat) : Int :=
  if highestExtSeq < 0 then seq else SerialNumber.unwrap 65536 highestExtSeq seq

/-- Count a packet and report what is missing in front of it. -/
def noteArrival (receiver : RtpReceiver) (env : Environment) (config : Config) (ext : Int) : RtpReceiver :=
  let receiver := { receiver with statReceived := receiver.statReceived + 1 }
  if ext > receiver.highestExtSeq then
    let receiver :=
      if receiver.highestExtSeq ≥ 0 ∧ ext > receiver.highestExtSeq + 1 then
        if ext - receiver.highestExtSeq - 1 ≤ NACK_MAX_GAP then
          receiver.sendNacksForRange env config (receiver.highestExtSeq + 1) ext
        else receiver.sendAutoPli env config
      else receiver
    { receiver with
      highestExtSeq := ext
      statFirstExtSeq := if receiver.statFirstExtSeq < 0 then ext else receiver.statFirstExtSeq }
  else receiver

/-- A packet is too late, or due at once, or held unless it is already. -/
def acceptVideo (receiver : RtpReceiver) (env : Environment) (config : Config) (ext : Int)
    (buf : List UInt8) (off len : Nat) (marker : Bool) (ts : Nat) : Checked RtpReceiver :=
  if receiver.nextExtSeq ≥ 0 ∧ ext < receiver.nextExtSeq then pure receiver
  else if receiver.nextExtSeq < 0 ∨ ext = receiver.nextExtSeq then
    receiver.deliver env config ext buf off len marker ts
  else if containsKey ext receiver.jitter then pure receiver
  else do
    let payload ← bytesAt buf off len
    pure { receiver.tick with jitter := put ext ⟨payload, marker, ts, receiver.clock env⟩ receiver.jitter }

def receiveVideo (receiver : RtpReceiver) (env : Environment) (config : Config) (header : Header)
    (buf : List UInt8) (n : Nat) : Checked RtpReceiver :=
  let ext := extendSeq receiver.highestExtSeq header.seq
  ((receiver.record (.arrived ext)).noteArrival env config ext).acceptVideo env config ext buf
    header.payloadOff (n - header.payloadOff) header.marker header.ts

def receiveAudio (receiver : RtpReceiver) (config : Config) (header : Header) (buf : List UInt8) (n : Nat) :
    Checked RtpReceiver := do
  let ptsUsec ← checkedUsec config.audioClockRate header.ts
  if config.audioSink then
    pure (receiver.record (.opus (slice buf header.payloadOff (n - header.payloadOff)) ptsUsec))
  else .error .nullPointer

def receive (receiver : RtpReceiver) (env : Environment) (config : Config) (data stale : List UInt8)
    (address : InetAddress) (port : UInt16) : Checked RtpReceiver :=
  if data.length < 12 then pure receiver
  else do
    let receiver := receiver.learnRemote env config address port
    let header? ← parseHeader (data ++ stale) data.length
    match header? with
    | none => pure receiver
    | some header =>
        if data.length ≤ header.payloadOff then pure receiver
        else do
          let receiver ←
            (if header.ssrc = config.videoSsrc ∧ header.pt = config.videoPt then
              receiver.receiveVideo env config header (data ++ stale) data.length
            else if header.ssrc = config.audioSsrc ∧ header.pt = config.audioPt then
              receiver.receiveAudio config header (data ++ stale) data.length
            else pure receiver)
          pure (receiver.maybeSendReceiverReport env config)

/-! ## Runs -/

/-- One pass through the loop. -/
def iterate (receiver : RtpReceiver) (env : Environment) (config : Config) (received : Received) :
    Checked RtpReceiver := do
  let receiver ← receiver.expire env config
  match received with
  | .timeout => pure (receiver.maybeSendReceiverReport env config)
  | .failed => pure receiver
  | .packet data stale address port => receiver.receive env config data stale address port

/-- What happens to a running receiver: a pass of its loop, or a keyframe
request of another thread. -/
inductive Input where
  | iteration (received : Received)
  | keyframeRequest

def step (env : Environment) (config : Config) (receiver : RtpReceiver) : Input → Checked RtpReceiver
  | .iteration received => receiver.iterate env config received
  | .keyframeRequest => pure (receiver.requestKeyframe env config)

def run (env : Environment) (config : Config) (receiver : RtpReceiver) (inputs : List Input) :
    Checked RtpReceiver :=
  inputs.foldlM (step env config) receiver

end RtpReceiver
end MetaShare
