import MetaShare.Foundation.Decimal
import Mathlib.Data.List.Basic

namespace MetaShare

/-!
# The command line

The streamer reads its arguments from left to right.  Most flags take the next
argument as their value, whatever it is.
-/

/-- What the streamer is built with. -/
structure Build where
  mutter : Bool
  portal : Bool
  deriving DecidableEq

structure Options where
  source : String
  width : Int
  height : Int
  fps : Int
  bitrateKbps : Int
  codec : String
  hardware : Bool
  port : UInt16
  discovery : Bool
  monitors : Int
  audio : String
  audioBitrateKbps : Int
  input : Bool
  deriving DecidableEq

namespace Options

def kDefaultSignalingPort : UInt16 := 7778

def initial (build : Build) : Options where
  source := if build.mutter then "mutter" else if build.portal then "portal" else "test"
  width := 1920
  height := 1080
  fps := 72
  bitrateKbps := 8000
  codec := "hevc"
  hardware := true
  port := kDefaultSignalingPort
  discovery := true
  monitors := 1
  audio := ""
  audioBitrateKbps := 96
  input := true

/-- A character stands for the octet of its number. -/
def atoi (text : String) : Int := Decimal.atoi (Decimal.octets text.toList)

/-- The sources that the build has. -/
def offers (build : Build) (source : String) : Bool :=
  source == "test" || source == "portal" && build.portal || source == "mutter" && build.mutter

/-- One round of the loop: the new options, and whether the next argument was taken
as a value.  A flag without its value is unknown. -/
def read (build : Build) (o : Options) (a : String) (next : Option String) : Option (Options × Bool) :=
  let val (set : Int → Options) := next.map (fun text => (set (atoi text), true))
  if a = "--source" then
    next.bind (fun source => if offers build source then some ({ o with source := source }, true) else none)
  else if a = "--monitors" then val (fun number => { o with monitors := number })
  else if a = "--width" then val (fun number => { o with width := number })
  else if a = "--height" then val (fun number => { o with height := number })
  else if a = "--fps" then val (fun number => { o with fps := number })
  else if a = "--bitrate" then val (fun number => { o with bitrateKbps := number })
  else if a = "--codec" then
    next.bind (fun codec =>
      if codec = "hevc" ∨ codec = "h264" then some ({ o with codec := codec }, true) else none)
  else if a = "--no-hw" then some ({ o with hardware := false }, false)
  else if a = "--port" then val (fun number => { o with port := UInt16.ofInt number })
  else if a = "--no-discovery" then some ({ o with discovery := false }, false)
  else if a = "--audio" then next.map (fun audio => ({ o with audio := audio }, true))
  else if a = "--audio-bitrate" then val (fun number => { o with audioBitrateKbps := number })
  else if a = "--no-input" then some ({ o with input := false }, false)
  else none

/-- What is done when all arguments are read. -/
def complete (build : Build) (o : Options) : Options :=
  { o with
    monitors := min 8 (max 1 o.monitors)
    audio :=
      if o.audio = "" then
        if build.portal || build.mutter then if o.source = "test" then "test" else "system,mic" else "none"
      else o.audio }

inductive Outcome where
  | accepted (options : Options)
  | help
  | rejected
  deriving DecidableEq

/-- The loop over the arguments.  One that was taken as a value is passed over. -/
def parse (build : Build) : List String → Options → (taken : Bool) → Outcome
  | [], o, _ => .accepted (o.complete build)
  | _ :: rest, o, true => parse build rest o false
  | a :: rest, o, false =>
      if a = "-h" ∨ a = "--help" then .help
      else
        match o.read build a rest.head? with
        | some (o, taken) => parse build rest o taken
        | none => .rejected

/-- The arguments behind the name of the program. -/
def parseArgs (build : Build) (args : List String) : Outcome := parse build args (initial build) false

/-! ## Settings -/

/-- The flags that take a number. -/
inductive Number where
  | monitors
  | width
  | height
  | fps
  | bitrate
  | port
  | audioBitrate
  deriving DecidableEq

/-- The flags that take no value. -/
inductive Switch where
  | noHw
  | noDiscovery
  | noInput
  deriving DecidableEq

/-- What one flag says, with its value. -/
inductive Setting where
  | source (name : String)
  | number (flag : Number) (text : String)
  | codec (name : String)
  | audio (list : String)
  | switch (flag : Switch)
  deriving DecidableEq

def Number.name : Number → String
  | .monitors => "--monitors"
  | .width => "--width"
  | .height => "--height"
  | .fps => "--fps"
  | .bitrate => "--bitrate"
  | .port => "--port"
  | .audioBitrate => "--audio-bitrate"

def Number.set (o : Options) (value : Int) : Number → Options
  | .monitors => { o with monitors := value }
  | .width => { o with width := value }
  | .height => { o with height := value }
  | .fps => { o with fps := value }
  | .bitrate => { o with bitrateKbps := value }
  | .port => { o with port := UInt16.ofInt value }
  | .audioBitrate => { o with audioBitrateKbps := value }

def Switch.name : Switch → String
  | .noHw => "--no-hw"
  | .noDiscovery => "--no-discovery"
  | .noInput => "--no-input"

def Switch.set (o : Options) : Switch → Options
  | .noHw => { o with hardware := false }
  | .noDiscovery => { o with discovery := false }
  | .noInput => { o with input := false }

namespace Setting

/-- The arguments that say it. -/
def words : Setting → List String
  | .source name => ["--source", name]
  | .number flag text => [flag.name, text]
  | .codec name => ["--codec", name]
  | .audio list => ["--audio", list]
  | .switch flag => [flag.name]

def apply (o : Options) : Setting → Options
  | .source name => { o with source := name }
  | .number flag text => flag.set o (atoi text)
  | .codec name => { o with codec := name }
  | .audio list => { o with audio := list }
  | .switch flag => flag.set o

def Valid (build : Build) : Setting → Prop
  | .source name => offers build name = true
  | .codec name => name = "hevc" ∨ name = "h264"
  | _ => True

/-- Settings of one kind say the same thing in different ways. -/
inductive Kind where
  | source
  | number (flag : Number)
  | codec
  | audio
  | switch (flag : Switch)
  deriving DecidableEq

def kind : Setting → Kind
  | .source _ => .source
  | .number flag _ => .number flag
  | .codec _ => .codec
  | .audio _ => .audio
  | .switch flag => .switch flag

variable {build : Build}

theorem apply_apply (setting : Setting) (o : Options) : setting.apply (setting.apply o) = setting.apply o := by
  cases setting with
  | number flag text => cases flag <;> rfl
  | switch flag => cases flag <;> rfl
  | _ => rfl

theorem set_comm {flag other : Number} (different : flag ≠ other) (o : Options) (value more : Int) :
    flag.set (other.set o more) value = other.set (flag.set o value) more := by
  cases flag <;> cases other <;> first | exact absurd rfl different | rfl

theorem apply_number (flag : Number) (text : String) (o : Options) :
    (Setting.number flag text).apply o = flag.set o (atoi text) := rfl

/-- Settings of different kinds can be said in any order. -/
theorem apply_comm {setting other : Setting} (different : setting.kind ≠ other.kind) (o : Options) :
    setting.apply (other.apply o) = other.apply (setting.apply o) := by
  cases setting with
  | number flag text =>
      rw [apply_number, apply_number]
      generalize atoi text = value
      cases other with
      | number other text =>
          have distinct : flag ≠ other := fun same => different (congrArg Kind.number same)
          exact set_comm distinct o value (atoi text)
      | switch other => cases flag <;> cases other <;> rfl
      | _ => cases flag <;> rfl
  | switch flag =>
      cases other with
      | number other text =>
          rw [apply_number, apply_number]
          generalize atoi text = value
          cases flag <;> cases other <;> rfl
      | switch other => cases flag <;> cases other <;> first | exact absurd rfl different | rfl
      | _ => cases flag <;> rfl
  | _ =>
      cases other with
      | number other text =>
          rw [apply_number, apply_number]
          generalize atoi text = value
          cases other <;> rfl
      | switch other => cases other <;> rfl
      | _ => first | exact absurd rfl different | rfl

/-- All settings, from left to right. -/
def applyAll (settings : List Setting) (o : Options) : Options :=
  settings.foldl (fun o setting => setting.apply o) o

theorem applyAll_append (early late : List Setting) (o : Options) :
    applyAll (early ++ late) o = applyAll late (applyAll early o) := List.foldl_append

/-- Settings of other kinds leave a setting in force. -/
theorem applyAll_comm {setting : Setting} {late : List Setting} (last : ∀ other ∈ late, setting.kind ≠ other.kind)
    (o : Options) : setting.apply (applyAll late o) = applyAll late (setting.apply o) := by
  induction late generalizing o with
  | nil => rfl
  | cons other late inductionHypothesis =>
      obtain ⟨first, rest⟩ := List.forall_mem_cons.mp last
      change setting.apply (applyAll late (other.apply o)) = applyAll late (other.apply (setting.apply o))
      rw [inductionHypothesis rest, apply_comm first]

/-- The last setting of its kind is in force: to say it once more changes nothing. -/
theorem apply_applyAll {setting : Setting} {early late : List Setting}
    (last : ∀ other ∈ late, setting.kind ≠ other.kind) (o : Options) :
    setting.apply (applyAll (early ++ setting :: late) o) = applyAll (early ++ setting :: late) o := by
  rw [applyAll_append]
  change setting.apply (applyAll late (setting.apply _)) = applyAll late (setting.apply _)
  rw [applyAll_comm last, apply_apply]

/-! ## Reading the settings back -/

theorem parse_words {setting : Setting} (valid : setting.Valid build) (o : Options) (rest : List String) :
    parse build (setting.words ++ rest) o false = parse build rest (setting.apply o) false := by
  cases setting with
  | source name =>
      simp only [Valid] at valid
      simp [words, apply, parse, read, valid]
  | codec name =>
      simp only [Valid] at valid
      simp [words, apply, parse, read, valid]
  | number flag text => cases flag <;> simp [words, apply, parse, read, Number.name, Number.set]
  | switch flag => cases flag <;> simp [words, apply, parse, read, Switch.name, Switch.set]
  | audio list => simp [words, apply, parse, read]

theorem parse_flatMap_words {settings : List Setting} (valid : ∀ setting ∈ settings, setting.Valid build)
    (o : Options) (rest : List String) :
    parse build (settings.flatMap words ++ rest) o false = parse build rest (applyAll settings o) false := by
  induction settings generalizing o with
  | nil => rfl
  | cons setting settings inductionHypothesis =>
      obtain ⟨first, others⟩ := List.forall_mem_cons.mp valid
      rw [List.flatMap_cons, List.append_assoc, parse_words first, inductionHypothesis others]
      rfl

theorem eq_of_ite {α : Type} {condition : Prop} [Decidable condition] {first second result : α}
    (found : (if condition then first else second) = result) :
    (condition ∧ first = result) ∨ (¬condition ∧ second = result) := by
  by_cases holds : condition
  · exact .inl ⟨holds, (if_pos holds).symm.trans found⟩
  · exact .inr ⟨holds, (if_neg holds).symm.trans found⟩

/-- What one round of the loop takes is a setting. -/
theorem setting_of_read {o after : Options} {a : String} {next : Option String} {taken : Bool}
    (found : o.read build a next = some (after, taken)) :
    ∃ setting : Setting, setting.Valid build ∧ after = setting.apply o ∧
      setting.words = a :: (if taken then next.toList else []) ∧ (taken = true → next.isSome = true) := by
  have number : ∀ flag : Number, ∀ {set : Int → Options}, (∀ value, set value = flag.set o value) → flag.name = a →
      next.map (fun text => (set (atoi text), true)) = some (after, taken) →
      ∃ setting : Setting, setting.Valid build ∧ after = setting.apply o ∧
        setting.words = a :: (if taken then next.toList else []) ∧ (taken = true → next.isSome = true) := by
    intro flag set isSet name found
    obtain ⟨text, rfl, same⟩ := Option.map_eq_some_iff.mp found
    cases same
    exact ⟨.number flag text, trivial, isSet _, by rw [words, name]; rfl, fun _ => rfl⟩
  have switch : ∀ flag : Switch, flag.name = a → some (flag.set o, false) = some (after, taken) →
      ∃ setting : Setting, setting.Valid build ∧ after = setting.apply o ∧
        setting.words = a :: (if taken then next.toList else []) ∧ (taken = true → next.isSome = true) := by
    intro flag name found
    cases found
    exact ⟨.switch flag, trivial, rfl, by rw [words, name]; rfl, Bool.noConfusion⟩
  rw [read] at found
  rcases eq_of_ite found with ⟨same, found⟩ | ⟨_, found⟩
  · obtain ⟨name, rfl, offered⟩ := Option.bind_eq_some_iff.mp found
    obtain ⟨valid, isAfter⟩ := Option.ite_none_right_eq_some.mp offered
    cases isAfter
    exact ⟨.source name, valid, rfl, by rw [words, same]; rfl, fun _ => rfl⟩
  rcases eq_of_ite found with ⟨same, found⟩ | ⟨_, found⟩
  · exact number .monitors (fun _ => rfl) same.symm found
  rcases eq_of_ite found with ⟨same, found⟩ | ⟨_, found⟩
  · exact number .width (fun _ => rfl) same.symm found
  rcases eq_of_ite found with ⟨same, found⟩ | ⟨_, found⟩
  · exact number .height (fun _ => rfl) same.symm found
  rcases eq_of_ite found with ⟨same, found⟩ | ⟨_, found⟩
  · exact number .fps (fun _ => rfl) same.symm found
  rcases eq_of_ite found with ⟨same, found⟩ | ⟨_, found⟩
  · exact number .bitrate (fun _ => rfl) same.symm found
  rcases eq_of_ite found with ⟨same, found⟩ | ⟨_, found⟩
  · obtain ⟨name, rfl, known⟩ := Option.bind_eq_some_iff.mp found
    obtain ⟨valid, isAfter⟩ := Option.ite_none_right_eq_some.mp known
    cases isAfter
    exact ⟨.codec name, valid, rfl, by rw [words, same]; rfl, fun _ => rfl⟩
  rcases eq_of_ite found with ⟨same, found⟩ | ⟨_, found⟩
  · exact switch .noHw same.symm found
  rcases eq_of_ite found with ⟨same, found⟩ | ⟨_, found⟩
  · exact number .port (fun _ => rfl) same.symm found
  rcases eq_of_ite found with ⟨same, found⟩ | ⟨_, found⟩
  · exact switch .noDiscovery same.symm found
  rcases eq_of_ite found with ⟨same, found⟩ | ⟨_, found⟩
  · obtain ⟨list, rfl, isAfter⟩ := Option.map_eq_some_iff.mp found
    cases isAfter
    exact ⟨.audio list, trivial, rfl, by rw [words, same]; rfl, fun _ => rfl⟩
  rcases eq_of_ite found with ⟨same, found⟩ | ⟨_, found⟩
  · exact number .audioBitrate (fun _ => rfl) same.symm found
  rcases eq_of_ite found with ⟨same, found⟩ | ⟨_, found⟩
  · exact switch .noInput same.symm found
  · cases found

/-- The loop reads settings as long as there are any, and stops at anything else. -/
theorem parse_cases : ∀ (args : List String) (o : Options),
    ∃ settings rest, (∀ setting ∈ settings, setting.Valid build) ∧ args = settings.flatMap words ++ rest ∧
      ((rest = [] ∧ parse build args o false = .accepted ((applyAll settings o).complete build)) ∨
        (∃ a late, rest = a :: late ∧ (a = "-h" ∨ a = "--help") ∧ parse build args o false = .help) ∨
        parse build args o false = .rejected)
  | [], o => ⟨[], [], List.forall_mem_nil _, rfl, .inl ⟨rfl, rfl⟩⟩
  | a :: rest, o => by
      by_cases help : a = "-h" ∨ a = "--help"
      · refine ⟨[], a :: rest, List.forall_mem_nil _, rfl, .inr (.inl ⟨a, rest, rfl, help, ?_⟩)⟩
        rw [parse, if_pos help]
      cases found : o.read build a rest.head? with
      | none =>
          refine ⟨[], a :: rest, List.forall_mem_nil _, rfl, .inr (.inr ?_)⟩
          rw [parse, if_neg help, found]
      | some read =>
          obtain ⟨after, taken⟩ := read
          obtain ⟨setting, valid, rfl, isWords, isTaken⟩ := setting_of_read found
          have goes : parse build (a :: rest) o false = parse build rest (setting.apply o) taken := by
            rw [parse, if_neg help, found]
          cases taken with
          | false =>
              obtain ⟨settings, more, others, rfl, outcome⟩ := parse_cases rest (setting.apply o)
              refine ⟨setting :: settings, more, List.forall_mem_cons.mpr ⟨valid, others⟩, ?_, goes ▸ outcome⟩
              rw [List.flatMap_cons, isWords, List.append_assoc]
              rfl
          | true =>
              obtain ⟨value, isValue⟩ := Option.isSome_iff_exists.mp (isTaken rfl)
              obtain ⟨late, rfl⟩ := List.head?_eq_some_iff.mp isValue
              obtain ⟨settings, more, others, rfl, outcome⟩ := parse_cases late (setting.apply o)
              refine ⟨setting :: settings, more, List.forall_mem_cons.mpr ⟨valid, others⟩, ?_, ?_⟩
              · rw [List.flatMap_cons, isWords, List.append_assoc]
                rfl
              · rw [goes]
                exact outcome
  termination_by args => args.length

theorem parse_accepted_iff {args : List String} {o final : Options} :
    parse build args o false = .accepted final ↔ ∃ settings : List Setting,
      (∀ setting ∈ settings, setting.Valid build) ∧ args = settings.flatMap words ∧
        final = (applyAll settings o).complete build := by
  constructor
  · intro accepted
    obtain ⟨settings, rest, valid, split, ⟨rfl, outcome⟩ | ⟨_, _, _, _, outcome⟩ | outcome⟩ := parse_cases args o
    · rw [List.append_nil] at split
      exact ⟨settings, valid, split, Outcome.accepted.inj (accepted.symm.trans outcome)⟩
    · exact Outcome.noConfusion (accepted.symm.trans outcome)
    · exact Outcome.noConfusion (accepted.symm.trans outcome)
  · rintro ⟨settings, valid, rfl, rfl⟩
    have read := parse_flatMap_words valid o []
    rw [List.append_nil] at read
    rw [read, parse]

theorem parse_help_iff {args : List String} {o : Options} :
    parse build args o false = .help ↔ ∃ (settings : List Setting) (a : String) (late : List String),
      (∀ setting ∈ settings, setting.Valid build) ∧ (a = "-h" ∨ a = "--help") ∧
        args = settings.flatMap words ++ a :: late := by
  constructor
  · intro helped
    obtain ⟨settings, rest, valid, split, ⟨_, outcome⟩ | ⟨a, late, rfl, help, _⟩ | outcome⟩ := parse_cases args o
    · exact Outcome.noConfusion (helped.symm.trans outcome)
    · exact ⟨settings, a, late, valid, help, split⟩
    · exact Outcome.noConfusion (helped.symm.trans outcome)
  · rintro ⟨settings, a, late, valid, help, rfl⟩
    rw [parse_flatMap_words valid, parse, if_pos help]

end Setting

/-! ## Accepted options -/

/-- What the rest of the program relies on. -/
structure WellFormed (build : Build) (o : Options) : Prop where
  monitors : 1 ≤ o.monitors ∧ o.monitors ≤ 8
  source : offers build o.source = true
  codec : o.codec = "hevc" ∨ o.codec = "h264"
  audio : o.audio ≠ ""

section WellFormed

variable {build : Build}

theorem offered_applyAll {settings : List Setting} (valid : ∀ setting ∈ settings, setting.Valid build) {o : Options}
    (source : offers build o.source = true) (codec : o.codec = "hevc" ∨ o.codec = "h264") :
    offers build (Setting.applyAll settings o).source = true ∧
      ((Setting.applyAll settings o).codec = "hevc" ∨ (Setting.applyAll settings o).codec = "h264") := by
  induction settings generalizing o with
  | nil => exact ⟨source, codec⟩
  | cons setting settings inductionHypothesis =>
      obtain ⟨first, others⟩ := List.forall_mem_cons.mp valid
      apply inductionHypothesis others
      · cases setting with
        | source name => exact first
        | number flag text => cases flag <;> exact source
        | switch flag => cases flag <;> exact source
        | _ => exact source
      · cases setting with
        | codec name => exact first
        | number flag text => cases flag <;> exact codec
        | switch flag => cases flag <;> exact codec
        | _ => exact codec

theorem wellFormed_complete {o : Options} (source : offers build o.source = true)
    (codec : o.codec = "hevc" ∨ o.codec = "h264") : (o.complete build).WellFormed build where
  monitors := ⟨le_min (by decide) (le_max_left _ _), min_le_left _ _⟩
  source := source
  codec := codec
  audio := by
    rw [complete]
    dsimp only
    split
    · split
      · split <;> decide
      · decide
    · assumption

theorem offers_initial (build : Build) : offers build (initial build).source = true := by
  obtain ⟨mutter, portal⟩ := build
  cases mutter <;> cases portal <;> decide

end WellFormed

/-- The command line is accepted if and only if it is made of valid settings, which
it then says, the last of each kind being in force. -/
theorem parsed (build : Build) (args : List String) :
    (∀ o, parseArgs build args = .accepted o ↔ ∃ settings : List Setting,
      (∀ setting ∈ settings, setting.Valid build) ∧ args = settings.flatMap Setting.words ∧
        o = (Setting.applyAll settings (initial build)).complete build) ∧
      (parseArgs build args = .help ↔ ∃ (settings : List Setting) (a : String) (late : List String),
        (∀ setting ∈ settings, setting.Valid build) ∧ (a = "-h" ∨ a = "--help") ∧
          args = settings.flatMap Setting.words ++ a :: late) ∧
      (∀ o, parseArgs build args = .accepted o → o.WellFormed build) ∧
      ∀ early setting late, (∀ other ∈ early ++ setting :: late, other.Valid build) →
        (∀ other ∈ late, setting.kind ≠ other.kind) →
        args = (early ++ setting :: late).flatMap Setting.words →
        ∃ o, parseArgs build args = .accepted (o.complete build) ∧ setting.apply o = o := by
  refine ⟨fun o => Setting.parse_accepted_iff, Setting.parse_help_iff, ?_, ?_⟩
  · intro o accepted
    obtain ⟨settings, valid, _, rfl⟩ := Setting.parse_accepted_iff.mp accepted
    obtain ⟨source, codec⟩ := offered_applyAll valid (offers_initial build) (.inl rfl)
    exact wellFormed_complete source codec
  · intro early setting late valid last said
    exact ⟨_, Setting.parse_accepted_iff.mpr ⟨_, valid, said, rfl⟩, Setting.apply_applyAll last _⟩

theorem parsed_sample : ∃ o : Options, parseArgs ⟨false, true⟩ ["--port", "8000", "--port", "-h", "--no-hw"] =
    .accepted (o.complete ⟨false, true⟩) ∧ (Setting.number .port "-h").apply o = o :=
  (parsed ⟨false, true⟩ _).2.2.2 [.number .port "8000"] (.number .port "-h") [.switch .noHw]
    (by simp [Setting.Valid]) (by simp [Setting.kind]) rfl

end Options
end MetaShare
