import MetaShare.Receiver.Survival
import MetaShare.Server.Hello
import MetaShare.Server.InputEvents
import MetaShare.Server.ReadyPort

namespace MetaShare

/-!
# What the client reads and answers

The client takes the parameters of the stream from the JSON of HELLO, sets up its
receiver with them, and answers with the port that the receiver has bound.  The
JSON library is a parameter: what it parses, and what it makes of a value that is
asked for as an integer or as a text.  Values of other kinds do not occur in HELLO.
-/

structure JsonLibrary where
  parse : List UInt8 → Option Json.Members
  toInteger : Json.Value → Option Int32
  toText : Json.Value → Option (List UInt8)

namespace JsonLibrary

/-- A long number is narrowed to an integer, and what a writer wrote is parsed. -/
structure Conforms (json : JsonLibrary) : Prop where
  parse : ∀ members : Json.Members, members.Plain → json.parse (Json.Value.object members).write = some members
  integer : ∀ number : Int, -2 ^ 63 ≤ number → number < 2 ^ 63 →
    json.toInteger (.number number) = some (Int32.ofInt number)
  text : ∀ octets, json.toText (.text octets) = some octets

variable (json : JsonLibrary) (object : Json.Members) (name : List UInt8)

def getInt : Option Int32 := (object.lookup name).bind json.toInteger

def optInt (fallback : Int32) : Int32 := (json.getInt object name).getD fallback

def getString : Option (List UInt8) := (object.lookup name).bind json.toText

def getJSONObject : Option Json.Members :=
  match object.lookup name with
  | some (.object members) => some members
  | _ => none

def has : Bool := (object.lookup name).isSome

variable {json object name}

theorem Conforms.getInt (conforms : json.Conforms) (number : Int) (low : -2 ^ 63 ≤ number) (high : number < 2 ^ 63)
    (found : object.lookup name = some (.number number)) : json.getInt object name = some (Int32.ofInt number) := by
  rw [JsonLibrary.getInt, found]
  exact conforms.integer number low high

theorem Conforms.optInt (conforms : json.Conforms) (number : Int) (low : -2 ^ 63 ≤ number) (high : number < 2 ^ 63)
    (found : object.lookup name = some (.number number)) (fallback : Int32) :
    json.optInt object name fallback = Int32.ofInt number := by
  rw [JsonLibrary.optInt, conforms.getInt number low high found]
  rfl

theorem Conforms.getString (conforms : json.Conforms) (octets : List UInt8)
    (found : object.lookup name = some (.text octets)) : json.getString object name = some octets := by
  rw [JsonLibrary.getString, found]
  exact conforms.text octets

end JsonLibrary

namespace StreamSession

open RtpServer Rtp

/-! ## HELLO -/

structure AudioParameters where
  aSsrc : Int32
  aPt : Int32
  aClock : Int32
  aRate : Int32
  aChannels : Int32
  deriving DecidableEq

/-- The parameters of the stream.  Without audio there are none for it. -/
structure Parameters where
  vCodec : List UInt8
  vWidth : Int32
  vHeight : Int32
  vSsrc : Int32
  vPt : Int32
  vClock : Int32
  audio : Option AudioParameters
  deriving DecidableEq

def readAudio (json : JsonLibrary) (hello : Json.Members) : Option AudioParameters := do
  let audio ← JsonLibrary.getJSONObject hello (octetsOf ['a', 'u', 'd', 'i', 'o'])
  let aSsrc ← json.getInt audio (octetsOf ['s', 's', 'r', 'c'])
  let aPt ← json.getInt audio (octetsOf ['p', 't'])
  return {
    aSsrc := aSsrc
    aPt := aPt
    aClock := json.optInt audio (octetsOf ['c', 'l', 'o', 'c', 'k']) 48000
    aRate := json.optInt audio (octetsOf ['r', 'a', 't', 'e']) 48000
    aChannels := json.optInt audio (octetsOf ['c', 'h', 'a', 'n', 'n', 'e', 'l', 's']) 2 }

/-- The parameters in a line, unless it throws. -/
def readHello (json : JsonLibrary) (line : List UInt8) : Option Parameters := do
  let body ← (octetsOf ['H', 'E', 'L', 'L', 'O', ' ']).isPrefixOf? line
  let hello ← json.parse body
  let video ← JsonLibrary.getJSONObject hello (octetsOf ['v', 'i', 'd', 'e', 'o'])
  let vCodec ← json.getString video (octetsOf ['c', 'o', 'd', 'e', 'c'])
  let vWidth ← json.getInt video (octetsOf ['w', 'i', 'd', 't', 'h'])
  let vHeight ← json.getInt video (octetsOf ['h', 'e', 'i', 'g', 'h', 't'])
  let vSsrc ← json.getInt video (octetsOf ['s', 's', 'r', 'c'])
  let vPt ← json.getInt video (octetsOf ['p', 't'])
  let vClock := json.optInt video (octetsOf ['c', 'l', 'o', 'c', 'k']) 90000
  let audio ← if JsonLibrary.has hello (octetsOf ['a', 'u', 'd', 'i', 'o']) then (readAudio json hello).map some
    else some none
  return ⟨vCodec, vWidth, vHeight, vSsrc, vPt, vClock, audio⟩

/-- `equalsIgnoreCase`, for ASCII texts. -/
def equalsIgnoreCase (first second : List UInt8) : Bool :=
  let lower := fun octet : UInt8 => if 65 ≤ octet ∧ octet ≤ 90 then octet + 32 else octet
  first.map lower == second.map lower

/-- What the receiver is configured with. -/
def Parameters.hello (parameters : Parameters) : RtpReceiver.Hello where
  ssrc := parameters.vSsrc.toUInt32
  pt := parameters.vPt.toInt
  codecIsH265 := equalsIgnoreCase (octetsOf ['h', '2', '6', '5']) parameters.vCodec
  clock := parameters.vClock.toInt
  audio := parameters.audio.map (fun audio => ⟨audio.aSsrc.toUInt32, audio.aPt.toInt, audio.aClock.toInt⟩)

/-- The parameters that a server advertises. -/
def advertised (config : Config) : Parameters where
  vCodec := codecName config.h265
  vWidth := Int32.ofInt config.width
  vHeight := Int32.ofInt config.height
  vSsrc := Int32.ofInt config.videoSsrc.toNat
  vPt := Int32.ofInt kVideoPayloadType.toNat
  vClock := Int32.ofInt kVideoClockRate.toNat
  audio := some {
    aSsrc := Int32.ofInt config.audioSsrc.toNat
    aPt := Int32.ofInt kOpusPayloadType.toNat
    aClock := Int32.ofInt kOpusClockRate.toNat
    aRate := Int32.ofInt config.audioRate
    aChannels := Int32.ofInt config.audioChannels }

theorem isPrefixOf?_serialize (body : List UInt8) :
    (octetsOf ['H', 'E', 'L', 'L', 'O', ' ']).isPrefixOf? (Signal.serialize ⟨.hello, body⟩) = some body := rfl

/-- The client reads what the server advertises. -/
theorem readHello_hello {json : JsonLibrary} (conforms : json.Conforms) {config : Config}
    (advertisable : Advertisable config) :
    readHello json (Signal.serialize (hello config)) = some (advertised config) := by
  have parsed := conforms.parse _ (plain_helloMembers advertisable)
  obtain ⟨⟨_, _⟩, ⟨_, _⟩, ⟨_, _⟩, ⟨_, _⟩, ⟨_, _⟩⟩ := advertisable
  have video := config.videoSsrc.toNat_lt
  have audio := config.audioSsrc.toNat_lt
  have line : (octetsOf ['H', 'E', 'L', 'L', 'O', ' ']).isPrefixOf? (Signal.serialize (hello config)) =
      some (Json.Value.object (helloMembers config)).write := by
    rw [hello, isPrefixOf?_serialize, helloBody_eq]
  have audioRead : readAudio json (helloMembers config) = (advertised config).audio := by
    rw [readAudio, show JsonLibrary.getJSONObject (helloMembers config) _ = some (audioMembers config) from rfl]
    simp only [Option.bind_eq_bind, Option.bind_some]
    rw [conforms.getInt (config.audioSsrc.toNat) (by omega) (by omega) rfl,
      conforms.getInt (kOpusPayloadType.toNat) (by decide) (by decide) rfl,
      conforms.optInt (kOpusClockRate.toNat) (by decide) (by decide) rfl,
      conforms.optInt config.audioRate (by omega) (by omega) rfl,
      conforms.optInt config.audioChannels (by omega) (by omega) rfl]
    rfl
  rw [readHello, line]
  simp only [Option.bind_eq_bind, Option.bind_some, parsed]
  rw [show JsonLibrary.getJSONObject (helloMembers config) _ = some (videoMembers config) from rfl]
  simp only [Option.bind_some]
  rw [conforms.getString (codecName config.h265) rfl,
    conforms.getInt config.width (by omega) (by omega) rfl,
    conforms.getInt config.height (by omega) (by omega) rfl,
    conforms.getInt (config.videoSsrc.toNat) (by omega) (by omega) rfl,
    conforms.getInt (kVideoPayloadType.toNat) (by decide) (by decide) rfl,
    conforms.optInt (kVideoClockRate.toNat) (by decide) (by decide) rfl, audioRead]
  rfl

/-- The bits of an unsigned number survive the way through a signed one. -/
theorem toUInt32_ofInt (number : UInt32) : (Int32.ofInt number.toNat).toUInt32 = number := by
  rw [Int32.ofInt_eq_ofNat, ← UInt32.toBitVec_inj]
  exact BitVec.ofNat_toNat 32 number.toBitVec

theorem toInt_ofInt {number : Int} (fits : Decimal.FitsInt number) : (Int32.ofInt number).toInt = number :=
  Int32.toInt_ofInt_of_le fits.1 fits.2

/-! ## READY -/

def ready (udpPort : UInt16) : Signal.Message := (ClientLine.ready udpPort).message

theorem sendable_ready (udpPort : UInt16) : (ready udpPort).Sendable :=
  Signal.sendable_of_printable (printable_readyBody udpPort)

theorem decimal_eq (digits : List UInt8) : decimal digits = Decimal.value digits := by
  rw [decimal, Decimal.value]
  congr 1
  funext sofar digit
  rw [Nat.mul_comm]

/-- The server reads the port of the client. -/
theorem parseReadyPort_readyBody {udpPort : UInt16} (bound : udpPort ≠ 0) :
    parseReadyPort (readyBody udpPort) = some udpPort := by
  have digits : ∀ digit ∈ Decimal.ofNat udpPort.toNat, isDigit digit = true :=
    fun _ => Decimal.isDigit_of_mem_ofNat
  have field : PortField (readyBody udpPort) (Decimal.ofNat udpPort.toNat) := by
    refine ⟨octetsOf ['{'], [], [], octetsOf ['}'], rfl, ?_, List.not_mem_nil, ?_, digits, ?_⟩
    · intro early late same
      cases early with
      | nil => exact absurd (List.cons.inj same).1 (by decide)
      | cons octet rest => exact Nat.succ_le_succ (Nat.zero_le _)
    · exact List.forall_mem_nil _
    · intro next isNext
      cases isNext
      exact ⟨rfl, fun _ => rfl⟩
  have small := udpPort.toNat_lt
  have positive : udpPort.toNat ≠ 0 := fun zero => bound (UInt16.toNat_inj.mp zero)
  have number : digitsValue (Decimal.ofNat udpPort.toNat) = udpPort.toNat := by
    rw [digitsValue_eq, decimal_eq, Decimal.value_ofNat]
    omega
  rw [parseReadyPort_eq field, if_neg (Decimal.ofNat_ne_nil _), number, if_neg (by omega), UInt16.ofNat_toNat]

end StreamSession
end MetaShare
