import MetaShare.Session.Discovery

namespace MetaShare

open Options (Setting parseArgs)
open Discovery (Lan Offers targetPort)

/-!
# From the panel to the client

The panel turns its knobs into a command line, the streamer reads it, and a client
that finds the streamer dials its monitors.
-/

namespace MainWindow

/-- The values of the settings list, within the ranges of its spin buttons. -/
structure Knobs where
  monitors : Int
  fps : Int
  bitrate : Int
  h264 : Bool
  monitorsRange : 1 ≤ monitors ∧ monitors ≤ 3
  fpsRange : 1 ≤ fps ∧ fps ≤ 240
  bitrateRange : 200 ≤ bitrate ∧ bitrate ≤ 200000

namespace Knobs

/-- The arguments behind the path of the streamer. -/
def buildArgv (knobs : Knobs) : List String :=
  ["--source", "portal", "--monitors", toString knobs.monitors, "--fps", toString knobs.fps,
    "--bitrate", toString knobs.bitrate, "--codec", if knobs.h264 then "h264" else "hevc"]

def settings (knobs : Knobs) : List Setting :=
  [.source "portal", .number .monitors (toString knobs.monitors), .number .fps (toString knobs.fps),
    .number .bitrate (toString knobs.bitrate), .codec (if knobs.h264 then "h264" else "hevc")]

/-- What the streamer makes of the knobs. -/
def options (build : Build) (knobs : Knobs) : Options :=
  { Options.initial build with
    source := "portal"
    monitors := knobs.monitors
    fps := knobs.fps
    bitrateKbps := knobs.bitrate
    codec := if knobs.h264 then "h264" else "hevc"
    audio := "system,mic" }

theorem atoi_toString {number : Int} (fits : Decimal.FitsInt number) : Options.atoi (toString number) = number :=
  Decimal.atoi_ofInt fits

variable {build : Build} (knobs : Knobs)

theorem buildArgv_eq : knobs.buildArgv = knobs.settings.flatMap Setting.words := by
  simp [buildArgv, settings, Setting.words, Options.Number.name]

theorem applyAll_settings (portal : build.portal = true) :
    (Setting.applyAll knobs.settings (Options.initial build)).complete build = knobs.options build := by
  obtain ⟨monitors, fps, bitrate, h264, ⟨least, most⟩, ⟨slow, fast⟩, ⟨low, high⟩⟩ := knobs
  have isMonitors : Options.atoi monitors.repr = monitors := atoi_toString ⟨by omega, by omega⟩
  have isFps : Options.atoi fps.repr = fps := atoi_toString ⟨by omega, by omega⟩
  have isBitrate : Options.atoi bitrate.repr = bitrate := atoi_toString ⟨by omega, by omega⟩
  have clamped : min 8 (max 1 monitors) = monitors := by omega
  simp [settings, Setting.applyAll, Setting.apply, Options.Number.set, Options.complete, options, isMonitors, isFps,
    isBitrate, clamped, portal, Options.initial]

theorem codec_known (build : Build) :
    (knobs.options build).codec = "hevc" ∨ (knobs.options build).codec = "h264" := by
  cases codec : knobs.h264 <;> simp [options, codec]

theorem valid_settings (portal : build.portal = true) : ∀ setting ∈ knobs.settings, setting.Valid build := by
  simp only [settings, List.forall_mem_cons, Setting.Valid, Options.offers, portal]
  refine ⟨by simp, trivial, trivial, trivial, knobs.codec_known build, List.forall_mem_nil _⟩

theorem wellFormed_options (portal : build.portal = true) : (knobs.options build).WellFormed build where
  monitors := ⟨knobs.monitorsRange.1, knobs.monitorsRange.2.trans (by decide)⟩
  source := by simp [options, Options.offers, portal]
  codec := knobs.codec_known build
  audio := by simp [options]

theorem dialled {lan : Lan} {host : Discovery.Host} {address : UInt32} {port : UInt16} {available : Nat}
    (same : host.options = knobs.options build) (offers : Offers lan host address port available) :
    (available : Int) = knobs.monitors ∧ ∀ i, i < available →
      targetPort port i = some (host.options.serverPort i) ∧ (host.options.serverPort i).toNat = 7778 + i := by
  have count := offers.monitors
  have range := knobs.monitorsRange
  have base : host.options.port = 7778 := by rw [same]; rfl
  rw [same] at count
  refine ⟨count, ?_⟩
  intro i below
  have few : (i : Int) < knobs.monitors := (Int.ofNat_lt.mpr below).trans_eq count
  have small : host.options.port.toNat + i < 65536 := by
    rw [base]
    change 7778 + i < 65536
    omega
  constructor
  · rw [offers.target i, if_pos small]
  · rw [Options.serverPort, UInt16.toNat_ofNat', Nat.mod_eq_of_lt small, base]
    rfl

/-- The streamer takes every command line of the panel, if it is built with the
portal, and a client that finds it dials the servers of as many monitors. -/
theorem launched (build : Build) (knobs : Knobs) :
    (build.portal = false → parseArgs build knobs.buildArgv = .rejected) ∧
      (build.portal = true → parseArgs build knobs.buildArgv = .accepted (knobs.options build) ∧
        (knobs.options build).WellFormed build ∧
        ∀ (lan : Lan) (host : Discovery.Host) address port available, host.options = knobs.options build →
          Offers lan host address port available → (available : Int) = knobs.monitors ∧
            ∀ i, i < available → targetPort port i = some (host.options.serverPort i) ∧
              (host.options.serverPort i).toNat = 7778 + i) := by
  constructor
  · intro missing
    simp [buildArgv, parseArgs, Options.parse, Options.read, Options.offers, missing]
  · intro portal
    have accepted : parseArgs build knobs.buildArgv = .accepted (knobs.options build) := by
      rw [parseArgs, Setting.parse_accepted_iff]
      exact ⟨knobs.settings, knobs.valid_settings portal, knobs.buildArgv_eq, (knobs.applyAll_settings portal).symm⟩
    exact ⟨accepted, knobs.wellFormed_options portal, fun _ _ _ _ _ same offers => knobs.dialled same offers⟩

/-- The knobs as the panel shows them first. -/
def sampleKnobs : Knobs := ⟨3, 60, 8000, false, by decide, by decide, by decide⟩

/-- The only host of a network, as it has been started by the panel. -/
def sampleLaunched : Discovery.Host where
  addresses := Discovery.sampleHost.addresses
  build := ⟨true, true⟩
  options := sampleKnobs.options ⟨true, true⟩
  wellFormed := sampleKnobs.wellFormed_options rfl
  hostName := Discovery.sampleHost.hostName

theorem launched_sample :
    parseArgs ⟨true, true⟩ sampleKnobs.buildArgv = .accepted (sampleKnobs.options ⟨true, true⟩) ∧
      ∀ i, i < 3 → ∃ port, targetPort 7778 i = some port ∧ port.toNat = 7778 + i := by
  obtain ⟨accepted, _, dials⟩ := (launched ⟨true, true⟩ sampleKnobs).2 rfl
  refine ⟨accepted, ?_⟩
  have offers : Offers ⟨[sampleLaunched], [0xFFFFFFFF]⟩ sampleLaunched 0xC0A80002 7778 3 :=
    Discovery.Host.offers List.mem_cons_self rfl List.mem_cons_self
  intro i below
  obtain ⟨target, port⟩ := (dials _ sampleLaunched _ _ _ rfl offers).2 i below
  exact ⟨_, target, port⟩

end Knobs
end MainWindow
end MetaShare
