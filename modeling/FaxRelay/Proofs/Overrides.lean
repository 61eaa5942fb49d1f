import FaxRelay.CommandLine
import FaxRelay.Proofs.ValidSettings

/-!
# Overrides of settings

A command line names a document, or none, and gives values for some of the
settings. It asks for what the document says, or else the defaults, with these
values in the place of those found there (`Arguments.Merges`).

The settings of a document are checked when they are loaded, before anything is
overridden, and what comes of the overrides is checked again
(`Arguments.settings_eq_ok_iff`). So no value repairs a document that is not
valid by itself (`Arguments.settings_unrepaired`), and values break valid
settings in one way only, by leaving too little room for sessions
(`Arguments.validate_override_iff`). All this holds however the text of a document
is read.
-/

set_option autoImplicit false

namespace FaxRelay.CommandLine

open FaxRelay.Files FaxRelay.Net

namespace Arguments

variable {arguments : Arguments} {reader : String → Except Failure Settings}
  {document : String → Except FileFault String} {base merged : Settings}

/-! ## What is asked for -/

/-- A value that was given takes the place of another one. -/
def Prevails {α : Type} (given : Option α) (other value : α) : Prop :=
  (∀ chosen, given = some chosen → value = chosen) ∧ (given = none → value = other)

/-- The values on the command line take the place of those in the settings, and everything else is
as it was there. -/
structure Merges (arguments : Arguments) (base merged : Settings) : Prop where
  controlIp : Prevails arguments.controlIp base.controlIp merged.controlIp
  controlPort : Prevails arguments.controlPort base.controlPort merged.controlPort
  mediaIp : Prevails arguments.mediaIp base.mediaIp merged.mediaIp
  interface : Prevails (arguments.interface.map some) base.interface merged.interface
  maxSessions : Prevails arguments.maxSessions base.maxSessions merged.maxSessions
  idPoolSize : merged.idPoolSize = base.idPoolSize
  portBase : merged.portBase = base.portBase
  portCount : merged.portCount = base.portCount
  pollTimeoutMs : merged.pollTimeoutMs = base.pollTimeoutMs
  bridgeIntervalMs : merged.bridgeIntervalMs = base.bridgeIntervalMs
  bufferSize : merged.bufferSize = base.bufferSize
  engine : merged.engine = base.engine

/-- The settings to which the command line refers, valid or not: those of the document that it
names, or else the defaults. -/
def Names (arguments : Arguments) (reader : String → Except Failure Settings)
    (document : String → Except FileFault String) (base : Settings) : Prop :=
  match arguments.config with
  | none => base = {}
  | some path => Settings.load reader path (document path) = .ok base

theorem ok_of_toOption {ε α : Type} {outcome : Except ε α} {value : α}
    (same : outcome.toOption = some value) : outcome = .ok value := by
  cases outcome with
  | error fault => cases same
  | ok found => exact congrArg _ (Option.some.inj same)

instance (arguments : Arguments) (reader : String → Except Failure Settings)
    (document : String → Except FileFault String) (base : Settings) :
    Decidable (arguments.Names reader document base) :=
  match config : arguments.config with
  | none => decidable_of_iff (base = {}) (by rw [Names, config])
  | some path =>
    decidable_of_iff ((Settings.load reader path (document path)).toOption = some base) <| by
      rw [Names, config]
      exact ⟨ok_of_toOption, fun loaded => by rw [loaded]; rfl⟩

theorem prevails_iff {α : Type} {given : Option α} {other value : α} :
    Prevails given other value ↔ value = given.getD other := by
  cases given with
  | none => exact ⟨fun prevails => prevails.2 rfl, fun same => ⟨nofun, fun _ => same⟩⟩
  | some chosen =>
    refine ⟨fun prevails => prevails.1 chosen rfl, fun same => ⟨fun _ found => ?_, nofun⟩⟩
    rw [same]
    exact Option.some.inj found

/-- There is one way to merge the values with settings. -/
theorem merges_iff : arguments.Merges base merged ↔ merged = arguments.override base := by
  have named : (arguments.interface.map some).getD base.interface =
      arguments.interface.or base.interface := by
    cases arguments.interface <;> rfl
  constructor
  · intro merges
    obtain ⟨controlIp, controlPort, mediaIp, interface, maxSessions, _, _, _, _, _, _, _⟩ := merges
    rw [prevails_iff] at controlIp controlPort mediaIp interface maxSessions
    rw [named] at interface
    cases merged
    simp_all [override]
  · rintro rfl
    exact ⟨prevails_iff.mpr rfl, prevails_iff.mpr rfl, prevails_iff.mpr rfl,
      prevails_iff.mpr named.symm, prevails_iff.mpr rfl, rfl, rfl, rfl, rfl, rfl, rfl, rfl⟩

/-! ## What comes of it -/

/-- The defaults are valid. -/
theorem validate_default : Settings.validate {} = .ok () := rfl

/-- What the command line asks for is checked twice: before overrides and after them. -/
theorem settings_of_names (named : arguments.Names reader document base) :
    arguments.settings reader document =
      base.validate.bind fun _ =>
        (arguments.override base).validate.map fun _ => arguments.override base := by
  have checked : arguments.baseSettings reader document = base.validate.map fun _ => base := by
    rw [Names] at named
    rw [baseSettings]
    cases from? : arguments.config with
    | none =>
      rw [from?] at named
      obtain rfl : base = {} := named
      rfl
    | some path =>
      rw [from?] at named
      have loaded : Settings.load reader path (document path) = .ok base := named
      simp only [Settings.loadValid, loaded]
      cases base.validate <;> rfl
  rw [settings, checked]
  cases base.validate with
  | error fault => rfl
  | ok =>
    dsimp only [Except.map, Except.bind]
    cases (arguments.override base).validate <;> rfl

/-- Two checks accept a value when both do. -/
theorem checks_eq_ok_iff {first second : Except Fault Unit} {value asked : Settings} :
    (first.bind fun _ => second.map fun _ => value) = .ok asked ↔
      first = .ok () ∧ second = .ok () ∧ asked = value := by
  cases first <;> cases second <;> simp [Except.bind, Except.map, eq_comm]

/-- They report the fault that the first one finds, or else the second one. -/
theorem checks_eq_error_iff {first second : Except Fault Unit} {value : Settings} {fault : Fault} :
    (first.bind fun _ => second.map fun _ => value) = .error fault ↔
      first = .error fault ∨ first = .ok () ∧ second = .error fault := by
  cases first <;> cases second <;> simp [Except.bind, Except.map]

/-- **Which values break valid settings:** a number of sessions that is too small, and no other. -/
theorem validate_override_iff (valid : base.validate = .ok ()) :
    (arguments.override base).validate = .ok () ↔
      ∀ sessions, arguments.maxSessions = some sessions → 3 ≤ sessions := by
  obtain ⟨room, others⟩ := Settings.validate_eq_ok_iff.mp valid
  rw [Settings.validate_eq_ok_iff]
  refine (and_iff_left others).trans ?_
  show 3 ≤ arguments.maxSessions.getD base.maxSessions ↔ _
  cases arguments.maxSessions with
  | none => exact ⟨fun _ => nofun, fun _ => room⟩
  | some sessions =>
    refine ⟨fun enough other same => ?_, fun enough => enough sessions rfl⟩
    rw [← Option.some.inj same]
    exact enough

/-- **The command line has its way with valid settings.** What it refers to has to be valid, which
the defaults are, and what comes of its values has to be valid, too; then that is what it asks for:
its own values where it gives any, and the settings to which it refers everywhere else. Otherwise
the fault of the settings to which it refers is reported, or if there is none, that of what comes of
its values. -/
theorem settings_eq_ok_iff (named : arguments.Names reader document base) :
    (arguments.config = none → base.validate = .ok ()) ∧
      (∀ merged, arguments.settings reader document = .ok merged ↔
        base.validate = .ok () ∧ merged.validate = .ok () ∧ arguments.Merges base merged) ∧
      ∀ fault, arguments.settings reader document = .error fault ↔
        base.validate = .error fault ∨
          base.validate = .ok () ∧ (arguments.override base).validate = .error fault := by
  rw [settings_of_names named]
  refine ⟨fun without => ?_, fun merged => ?_, fun fault => checks_eq_error_iff⟩
  · rw [Names, without] at named
    obtain rfl : base = {} := named
    exact validate_default
  · rw [merges_iff, checks_eq_ok_iff]
    constructor
    · rintro ⟨valid, outcome, rfl⟩
      exact ⟨valid, outcome, rfl⟩
    · rintro ⟨valid, outcome, rfl⟩
      exact ⟨valid, outcome, rfl⟩

/-- A document sets two fields, and the command line gives another value for one of them. -/
theorem settings_twice :
    Names { config := some "faxgw.toml", controlPort := some 25000 } Settings.ofDocument
        (fun _ => .ok "control_port = 24000\nmax_sessions = 4\n")
        { controlPort := 24000, maxSessions := 4 } ∧
      Arguments.settings { config := some "faxgw.toml", controlPort := some 25000 }
        Settings.ofDocument (fun _ => .ok "control_port = 24000\nmax_sessions = 4\n") =
        .ok { controlPort := 25000, maxSessions := 4 } := by
  have named : Names { config := some "faxgw.toml", controlPort := some 25000 }
      Settings.ofDocument (fun _ => .ok "control_port = 24000\nmax_sessions = 4\n")
      { controlPort := 24000, maxSessions := 4 } := by decide +kernel
  obtain ⟨_, asked, _⟩ := settings_eq_ok_iff named
  exact ⟨named, (asked _).mpr ⟨rfl, rfl, merges_iff.mpr rfl⟩⟩

/-- **A value that would be in order does not save a document that is not.** The document makes room
for two sessions only, and the command line for twenty. -/
theorem settings_unrepaired :
    Arguments.ofList ["-c", "faxgw.toml", "--max-sessions", "20"] =
        .ok { config := some "faxgw.toml", maxSessions := some 20 } ∧
      Names { config := some "faxgw.toml", maxSessions := some 20 } Settings.ofDocument
        (fun _ => .ok "max_sessions = 2\n") { maxSessions := 2 } ∧
      Merges { config := some "faxgw.toml", maxSessions := some 20 } { maxSessions := 2 }
        { maxSessions := 20 } ∧
      Settings.validate { maxSessions := 20 } = .ok () ∧
      Arguments.settings { config := some "faxgw.toml", maxSessions := some 20 }
        Settings.ofDocument (fun _ => .ok "max_sessions = 2\n") =
        .error (.settings (.tooFewSessions 2)) := by
  have named : Names { config := some "faxgw.toml", maxSessions := some 20 }
      Settings.ofDocument (fun _ => .ok "max_sessions = 2\n") { maxSessions := 2 } := by
    decide +kernel
  refine ⟨ok_of_toOption (by decide +kernel), named, merges_iff.mpr rfl, rfl, ?_⟩
  rw [settings_of_names named]
  rfl

end Arguments

end FaxRelay.CommandLine
