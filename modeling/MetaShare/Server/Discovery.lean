import MetaShare.Foundation.Octets
import MetaShare.Server.Options
import Mathlib.Tactic.Ring

namespace MetaShare

/-!
# The discovery protocol

A client broadcasts a probe, and a streamer answers it with an offer.  Both are
packed structures, with the least significant octet of a number first.
-/

namespace Octets

/-- The octets of a number, the least significant one first. -/
def ofLittle : (width : Nat) → Nat → List UInt8
  | 0, _ => []
  | width + 1, number => UInt8.ofNat number :: ofLittle width (number / 256)

def little (octets : List UInt8) : Nat := octets.foldr (fun octet high => octet.toNat + 256 * high) 0

@[simp] theorem length_ofLittle (width number : Nat) : (ofLittle width number).length = width := by
  induction width generalizing number with
  | zero => rfl
  | succ width inductionHypothesis => simp [ofLittle, inductionHypothesis]

/-- Reading back a stored number. -/
theorem little_ofLittle {width number : Nat} (fits : number < 256 ^ width) :
    little (ofLittle width number) = number := by
  induction width generalizing number with
  | zero =>
      rw [Nat.pow_zero, Nat.lt_one_iff] at fits
      rw [fits]
      rfl
  | succ width inductionHypothesis =>
      have high : number / 256 < 256 ^ width := Nat.div_lt_of_lt_mul (by rwa [Nat.pow_succ, Nat.mul_comm] at fits)
      change (UInt8.ofNat number).toNat + 256 * little (ofLittle width (number / 256)) = number
      rw [inductionHypothesis high, UInt8.toNat_ofNat']
      exact Nat.mod_add_div number 256

/-- The part of a string between a front and a back of known lengths. -/
theorem slice_middle {front middle : List UInt8} {start length : Nat} (isStart : front.length = start)
    (isLength : middle.length = length) (back : List UInt8) :
    slice (front ++ (middle ++ back)) start length = middle := by
  rw [slice, ← isStart, List.drop_left, ← isLength, List.take_left]

end Octets

namespace Discovery

open Octets

def kDiscoveryPort : UInt16 := 7777
def kProtocolVersion : UInt32 := 4

/-- `MSHARED1`. -/
def kDiscoveryMagic : List UInt8 := [0x4D, 0x53, 0x48, 0x41, 0x52, 0x45, 0x44, 0x31]

structure DiscoveryProbe where
  version : UInt32
  clientCaps : UInt32
  deriving DecidableEq

structure DiscoveryOffer where
  version : UInt32
  signalingPort : UInt16
  monitorCount : UInt16
  hostName : List UInt8
  deriving DecidableEq

def DiscoveryProbe.bytes (probe : DiscoveryProbe) : List UInt8 :=
  kDiscoveryMagic ++ (ofLittle 4 probe.version.toNat ++ ofLittle 4 probe.clientCaps.toNat)

def DiscoveryOffer.bytes (offer : DiscoveryOffer) : List UInt8 :=
  kDiscoveryMagic ++ (ofLittle 4 offer.version.toNat ++ (ofLittle 2 offer.signalingPort.toNat ++
    (ofLittle 2 offer.monitorCount.toNat ++ offer.hostName)))

def sizeofProbe : Nat := 16
def sizeofOffer : Nat := 80

/-- What `gethostname` has left in the 64 octets of the name, and whether it
succeeded. -/
structure HostName where
  buffer : List UInt8
  size : buffer.length = 64
  succeeded : Bool

/-- The name in the offer ends with a zero. -/
def HostName.field (name : HostName) : List UInt8 :=
  let named :=
    if name.succeeded then name.buffer
    else [0x6D, 0x65, 0x74, 0x61, 0x73, 0x68, 0x61, 0x72, 0x65, 0] ++ name.buffer.drop 10
  named.take 63 ++ [0]

theorem HostName.length_field (name : HostName) : name.field.length = 64 := by
  have size := name.size
  rw [field]
  split <;> simp [size]

structure DiscoveryResponder where
  signalingPort : UInt16
  monitorCount : UInt16
  hostName : HostName

def DiscoveryResponder.offer (responder : DiscoveryResponder) : DiscoveryOffer where
  version := kProtocolVersion
  signalingPort := responder.signalingPort
  monitorCount := responder.monitorCount
  hostName := responder.hostName.field

/-- What the responder answers to a datagram, of which it takes the first octets. -/
def DiscoveryResponder.serve (responder : DiscoveryResponder) (data : List UInt8) : Option (List UInt8) :=
  let probe := data.take sizeofProbe
  if probe.length < sizeofProbe then none
  else if probe.take 8 ≠ kDiscoveryMagic then none
  else if little (slice probe 8 4) ≠ kProtocolVersion.toNat then none
  else some responder.offer.bytes

/-- The probe of the client. -/
def probe : DiscoveryProbe := ⟨kProtocolVersion, 0⟩

/-- The port and the number of monitors that the client reads from a datagram. -/
def readOffer (data : List UInt8) : Option (UInt16 × Nat) :=
  let offer := data.take sizeofOffer
  if offer.length < sizeofOffer then none
  else if offer.take 8 ≠ kDiscoveryMagic then none
  else
    let version := little (slice offer 8 4)
    let port := little (slice offer 12 2)
    let monitorCount := little (slice offer 14 2)
    if version = kProtocolVersion.toNat ∧ 0 < port then some (UInt16.ofNat port, max 1 monitorCount) else none

/-! ## Round trips -/

theorem length_magic : kDiscoveryMagic.length = 8 := rfl

theorem length_offer {offer : DiscoveryOffer} (named : offer.hostName.length = 64) :
    offer.bytes.length = sizeofOffer := by
  simp [DiscoveryOffer.bytes, kDiscoveryMagic, sizeofOffer, named]

/-- Whatever begins like a probe is answered, whatever follows. -/
theorem serve_of_front (responder : DiscoveryResponder) {back : List UInt8} (long : 4 ≤ back.length) :
    responder.serve (kDiscoveryMagic ++ (ofLittle 4 kProtocolVersion.toNat ++ back)) =
      some responder.offer.bytes := by
  have front : (kDiscoveryMagic ++ (ofLittle 4 kProtocolVersion.toNat ++ back)).take sizeofProbe =
      kDiscoveryMagic ++ (ofLittle 4 kProtocolVersion.toNat ++ back.take 4) := by
    simp [kDiscoveryMagic, sizeofProbe, List.take_append]
  have size : (back.take 4).length = 4 := List.length_take_of_le long
  have version : little (slice (kDiscoveryMagic ++ (ofLittle 4 kProtocolVersion.toNat ++ back.take 4)) 8 4) =
      kProtocolVersion.toNat := by
    rw [slice_middle length_magic (length_ofLittle 4 _), little_ofLittle (by decide)]
  rw [DiscoveryResponder.serve]
  simp only [front, version]
  rw [if_neg (by simp [kDiscoveryMagic, sizeofProbe, size]), if_neg, if_neg]
  · exact fun different => different rfl
  · exact fun different => different rfl

theorem serve_probe (responder : DiscoveryResponder) : responder.serve probe.bytes = some responder.offer.bytes :=
  serve_of_front responder (Nat.le_of_eq (length_ofLittle 4 _).symm)

/-- An offer begins like a probe. -/
theorem serve_offer (responder other : DiscoveryResponder) :
    responder.serve other.offer.bytes = some responder.offer.bytes := by
  apply serve_of_front
  simp [DiscoveryResponder.offer, HostName.length_field]

theorem serve_eq {responder : DiscoveryResponder} {data reply : List UInt8}
    (served : responder.serve data = some reply) :
    reply = responder.offer.bytes := by
  rw [DiscoveryResponder.serve] at served
  split at served
  · cases served
  split at served
  · cases served
  split at served
  · cases served
  · exact (Option.some.inj served).symm

theorem readOffer_probe : readOffer probe.bytes = none := by
  decide +kernel

/-- The client reads what the responder says. -/
theorem readOffer_offer (responder : DiscoveryResponder) : readOffer responder.offer.bytes =
    if 0 < responder.signalingPort then some (responder.signalingPort,
      max 1 responder.monitorCount.toNat) else none := by
  have size : responder.offer.bytes.length = sizeofOffer := length_offer responder.hostName.length_field
  have whole : responder.offer.bytes.take sizeofOffer = responder.offer.bytes := by
    rw [← size, List.take_length]
  have version : little (slice responder.offer.bytes 8 4) = kProtocolVersion.toNat := by
    have fits : kProtocolVersion.toNat < 256 ^ 4 := by decide
    rw [DiscoveryOffer.bytes, slice_middle length_magic (length_ofLittle 4 _)]
    exact little_ofLittle fits
  have port : little (slice responder.offer.bytes 12 2) = responder.signalingPort.toNat := by
    rw [DiscoveryOffer.bytes, ← List.append_assoc, slice_middle (by simp [kDiscoveryMagic]) (length_ofLittle 2 _)]
    exact little_ofLittle responder.signalingPort.toNat_lt
  have count : little (slice responder.offer.bytes 14 2) = responder.monitorCount.toNat := by
    rw [DiscoveryOffer.bytes, ← List.append_assoc, ← List.append_assoc,
      slice_middle (by simp [kDiscoveryMagic]) (length_ofLittle 2 _)]
    exact little_ofLittle responder.monitorCount.toNat_lt
  have positive : 0 < responder.signalingPort.toNat ↔ 0 < responder.signalingPort := by
    rw [UInt16.lt_iff_toNat_lt]
    rfl
  rw [readOffer]
  simp only [whole, size, version, port, count, positive, lt_irrefl, if_false, true_and, UInt16.ofNat_toNat]
  rw [if_neg (fun different => different rfl)]

end Discovery
end MetaShare
