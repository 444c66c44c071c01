import Understudy.CommandLine
import Understudy.Configuration.File

/-!
# Loaded configurations

Which configuration comes out of a file and the arguments that are laid over it.  What comes out is
the configuration of the file with the values of the arguments in place of its own, and it keeps
every rule.  But the file has to keep the rules by itself as well: a port or an address that breaks
one is refused even where an argument takes its place.
-/

namespace Understudy

/-! ## Valid configurations -/

namespace Configuration

/-- The settings keep all rules. -/
structure IsSound (configuration : Configuration) : Prop where
  adminPathPrefix : configuration.matching.adminPathPrefix.toList.head? = some '/'
  ports : configuration.metrics.enabled = true →
    configuration.metrics.port ≠ configuration.listen.port
  scheme : ∀ url, configuration.recording.url = some url → hasWebScheme url = true
  replacement : ∀ rule, configuration.recording.urlReplacement = some rule → rule.old ≠ ""

variable {configuration : Configuration}

/-- There is no problem exactly if all rules are kept. -/
theorem problem?_eq_none_iff : configuration.problem? = none ↔ configuration.IsSound := by
  have ports : (configuration.metrics.enabled &&
      configuration.metrics.port == configuration.listen.port) = true ↔
        ¬(configuration.metrics.enabled = true →
          configuration.metrics.port ≠ configuration.listen.port) := by
    simp
  have scheme : (configuration.recording.url.filter fun url => !hasWebScheme url) = none ↔
      ∀ url, configuration.recording.url = some url → hasWebScheme url = true := by
    simp [Option.filter_eq_none_iff]
  have replacement : (configuration.recording.urlReplacement.any fun rule => rule.old.isEmpty) =
      false ↔ ∀ rule, configuration.recording.urlReplacement = some rule → rule.old ≠ "" := by
    simp [Option.any_eq_false]
  unfold problem?
  dsimp only
  constructor
  · intro noProblem
    split at noProblem
    · cases noProblem
    next prefixed =>
      split at noProblem
      · cases noProblem
      next distinct =>
        split at noProblem
        · cases noProblem
        next withScheme =>
          split at noProblem
          · cases noProblem
          next nonempty =>
            exact
              { adminPathPrefix := Classical.not_not.mp prefixed
                ports := Classical.not_not.mp ((not_congr ports).mp distinct)
                scheme := scheme.mp withScheme
                replacement := replacement.mp (Bool.eq_false_iff.mpr nonempty) }
  · intro sound
    rw [if_neg (Classical.not_not.mpr sound.adminPathPrefix),
      if_neg ((not_congr ports).mpr (Classical.not_not.mpr sound.ports)),
      scheme.mpr sound.scheme]
    exact if_neg (Bool.eq_false_iff.mp (replacement.mpr sound.replacement))

/-- Validation accepts sound settings, with their warnings, and no others. -/
theorem validate_eq_ok_iff {warnings : List LogLine} :
    configuration.validate = .ok warnings ↔
      configuration.IsSound ∧ warnings = configuration.warnings := by
  rw [← problem?_eq_none_iff, validate]
  cases configuration.problem? with
  | none => simp [eq_comm]
  | some problem => simp

theorem exists_validate_eq_ok_iff :
    (∃ warnings, configuration.validate = .ok warnings) ↔ configuration.IsSound := by
  simp [validate_eq_ok_iff]

/-- The default settings keep all rules. -/
theorem isSound_default : (default : Configuration).IsSound :=
  problem?_eq_none_iff.mp (by decide)

/-- An address with a scheme is not blank. -/
theorem isBlankText_eq_false_of_hasWebScheme {url : String} (scheme : hasWebScheme url = true) :
    Text.isBlankText url = false := by
  have starts : ∃ rest, url.toList = 'h' :: rest := by
    rw [hasWebScheme, Bool.or_eq_true, List.isPrefixOf_iff_prefix, List.isPrefixOf_iff_prefix]
      at scheme
    rcases scheme with ⟨rest, urlEq⟩ | ⟨rest, urlEq⟩
    · exact ⟨_, urlEq.symm⟩
    · exact ⟨_, urlEq.symm⟩
  obtain ⟨rest, urlEq⟩ := starts
  rw [Text.isBlankText, urlEq, List.all_cons]
  exact Bool.and_eq_false_imp.mpr fun blank => absurd blank (by decide)

/-- Under sound settings requests are forwarded exactly if there is an address. -/
theorem IsSound.isEnabled_eq (sound : configuration.IsSound) :
    configuration.recording.isEnabled = configuration.recording.url.isSome := by
  rw [RecordingSettings.isEnabled]
  cases present : configuration.recording.url with
  | none => rfl
  | some url =>
      have visible := isBlankText_eq_false_of_hasWebScheme (sound.scheme url present)
      rw [Option.any_some, visible]
      rfl

end Configuration

/-! ## Arguments -/

namespace CommandLine.Arguments

/-- What the arguments are laid over: the settings in the text of the file that they name, or else
the default ones. -/
def LaidOver (arguments : Arguments) (content : String → Option ByteArray) (base : Configuration) :
    Prop :=
  match arguments.configPath with
  | some path => ∃ text, content path = some (Text.encode text) ∧
      Configuration.ofText? text = some base
  | none => base = default

/-- The configuration has the port and the address that the arguments give, answers with partial
matches if they ask for it and records if they give an address; for all else it goes by the base. -/
structure Overrides (arguments : Arguments) (base configuration : Configuration) : Prop where
  port : ∀ port, arguments.port = some port → configuration.listen.port = port
  portKept : arguments.port = none → configuration.listen.port = base.listen.port
  host : configuration.listen.host = base.listen.host
  metrics : configuration.metrics = base.metrics
  allowPartial : arguments.allowPartial = true → configuration.matching.allowPartial = true
  allowPartialKept : arguments.allowPartial = false →
    configuration.matching.allowPartial = base.matching.allowPartial
  adminPathPrefix : configuration.matching.adminPathPrefix = base.matching.adminPathPrefix
  recording : ∀ url, arguments.proxyUrl = some url →
    configuration.recording = { base.recording with url := some url, save := true }
  recordingKept : arguments.proxyUrl = none → configuration.recording = base.recording

variable {arguments : Arguments} {content : String → Option ByteArray}
variable {base configuration : Configuration}

theorem overrides_override (arguments : Arguments) (base : Configuration) :
    arguments.Overrides base (arguments.override base) where
  port port given := by rw [override, given, Option.getD_some]
  portKept missing := by rw [override, missing, Option.getD_none]
  host := rfl
  metrics := rfl
  allowPartial raised := by rw [override, raised, Bool.or_true]
  allowPartialKept lowered := by rw [override, lowered, Bool.or_false]
  adminPathPrefix := rfl
  recording url given := by simp [override, given]
  recordingKept missing := by simp [override, missing]

/-- Nothing is left open by what the arguments replace and keep. -/
theorem Overrides.eq_override (overrides : arguments.Overrides base configuration) :
    configuration = arguments.override base := by
  rcases configuration with ⟨⟨host, port⟩, metrics, ⟨allowPartial, adminPathPrefix⟩, recording⟩
  have hostEq : host = base.listen.host := overrides.host
  have metricsEq : metrics = base.metrics := overrides.metrics
  have prefixEq : adminPathPrefix = base.matching.adminPathPrefix := overrides.adminPathPrefix
  have portEq : port = arguments.port.getD base.listen.port := by
    cases given : arguments.port with
    | none => exact overrides.portKept given
    | some value => exact overrides.port value given
  have allowPartialEq : allowPartial = (base.matching.allowPartial || arguments.allowPartial) := by
    cases raised : arguments.allowPartial with
    | false => exact (overrides.allowPartialKept raised).trans (Bool.or_false _).symm
    | true => exact (overrides.allowPartial raised).trans (Bool.or_true _).symm
  have recordingEq : recording = (arguments.override base).recording := by
    have laidOver := overrides_override arguments base
    cases given : arguments.proxyUrl with
    | none => exact (overrides.recordingKept given).trans (laidOver.recordingKept given).symm
    | some url => exact (overrides.recording url given).trans (laidOver.recording url given).symm
  rw [hostEq, metricsEq, prefixEq, portEq, allowPartialEq, recordingEq]
  rfl

/-- Validation comes before the arguments are laid over and again behind that. -/
theorem configuration_eq (laidOver : arguments.LaidOver content base) :
    arguments.configuration (fun path => Configuration.ofFile path (content path)) =
      (do
        let early ← base.validate
        let late ← (arguments.override base).validate
        return (arguments.override base, early ++ late)) := by
  unfold LaidOver at laidOver
  unfold configuration
  cases named : arguments.configPath with
  | none =>
      rw [named] at laidOver
      obtain rfl : base = default := laidOver
      rfl
  | some path =>
      rw [named] at laidOver
      obtain ⟨text, read, parsed⟩ := laidOver
      have decoded : String.fromUTF8? (Text.encode text) = some text := Text.decode?_encode text
      simp only [Configuration.ofFile, read, Option.bind_some, decoded, parsed, bind_assoc]
      rfl

/-- The configuration is loaded exactly if it is sound and so is the base. -/
theorem configuration_eq_ok_iff (laidOver : arguments.LaidOver content base)
    {result : Configuration} {warnings : List LogLine} :
    arguments.configuration (fun path => Configuration.ofFile path (content path)) =
        .ok (result, warnings) ↔
      base.IsSound ∧ (arguments.override base).IsSound ∧ result = arguments.override base ∧
        warnings = base.warnings ++ (arguments.override base).warnings := by
  rw [configuration_eq laidOver]
  constructor
  · intro loaded
    cases early : base.validate with
    | error problem =>
        rw [early] at loaded
        cases loaded
    | ok warned =>
        cases late : (arguments.override base).validate with
        | error problem =>
            rw [early, late] at loaded
            cases loaded
        | ok warnedAgain =>
            rw [early, late] at loaded
            cases loaded
            obtain ⟨baseSound, rfl⟩ := Configuration.validate_eq_ok_iff.mp early
            obtain ⟨sound, rfl⟩ := Configuration.validate_eq_ok_iff.mp late
            exact ⟨baseSound, sound, rfl, rfl⟩
  · rintro ⟨baseSound, sound, rfl, rfl⟩
    rw [Configuration.validate_eq_ok_iff.mpr ⟨baseSound, rfl⟩,
      Configuration.validate_eq_ok_iff.mpr ⟨sound, rfl⟩]
    rfl

/-- Where the configuration is sound, the base can break no rule but those on the port and the
address, which the arguments may replace. -/
theorem isSound_base_iff (sound : (arguments.override base).IsSound) :
    base.IsSound ↔
      (base.metrics.enabled = true → base.metrics.port ≠ base.listen.port) ∧
        ∀ url, base.recording.url = some url → Configuration.hasWebScheme url = true := by
  constructor
  · intro baseSound
    exact ⟨baseSound.ports, baseSound.scheme⟩
  · rintro ⟨ports, scheme⟩
    exact
      { adminPathPrefix := sound.adminPathPrefix
        ports := ports
        scheme := scheme
        replacement := sound.replacement }

end CommandLine.Arguments

/-- Let the arguments be laid over the settings of a file, or over the default ones.  Something is
loaded exactly if the configuration with the values of the arguments is valid and the settings
themselves have a port and an address that keep the rules, also where an argument takes their place.
What is loaded is that configuration: its prefix of administration starts with a slash, its two
ports differ if both are in use, its replacement rule looks for something, and requests are
forwarded exactly if there is an address.  With no file, or with neither a port nor an address among
the arguments, the validity of that configuration alone decides. -/
theorem configuration_is_loaded_iff_valid_before_and_after_overriding
    {arguments : CommandLine.Arguments} {content : String → Option ByteArray}
    {base configuration : Configuration} (laidOver : arguments.LaidOver content base)
    (overrides : arguments.Overrides base configuration) :
    let loaded := arguments.configuration fun path => Configuration.ofFile path (content path)
    ((∃ result, loaded = .ok result) ↔
      (∃ warnings, configuration.validate = .ok warnings) ∧
      (base.metrics.enabled = true → base.metrics.port ≠ base.listen.port) ∧
      ∀ url, base.recording.url = some url → Configuration.hasWebScheme url = true) ∧
    (∀ result warnings, loaded = .ok (result, warnings) →
      result = configuration ∧
      result.matching.adminPathPrefix.toList.head? = some '/' ∧
      (result.metrics.enabled = true → result.metrics.port ≠ result.listen.port) ∧
      (∀ rule, result.recording.urlReplacement = some rule → rule.old ≠ "") ∧
      result.recording.isEnabled = result.recording.url.isSome) ∧
    (arguments.configPath = none ∨ arguments.port = none ∧ arguments.proxyUrl = none →
      ((∃ result, loaded = .ok result) ↔ ∃ warnings, configuration.validate = .ok warnings)) := by
  intro loaded
  obtain rfl := overrides.eq_override
  rw [Configuration.exists_validate_eq_ok_iff]
  have loads : (∃ result, loaded = .ok result) ↔
      base.IsSound ∧ (arguments.override base).IsSound := by
    constructor
    · rintro ⟨⟨result, warnings⟩, isLoaded⟩
      obtain ⟨baseSound, sound, -, -⟩ :=
        (CommandLine.Arguments.configuration_eq_ok_iff laidOver).mp isLoaded
      exact ⟨baseSound, sound⟩
    · rintro ⟨baseSound, sound⟩
      exact ⟨_, (CommandLine.Arguments.configuration_eq_ok_iff laidOver).mpr
        ⟨baseSound, sound, rfl, rfl⟩⟩
  refine ⟨?exactly, ?result, ?alone⟩
  case exactly =>
    rw [loads, and_comm]
    exact and_congr_right CommandLine.Arguments.isSound_base_iff
  case result =>
    intro result warnings isLoaded
    obtain ⟨-, sound, rfl, -⟩ :=
      (CommandLine.Arguments.configuration_eq_ok_iff laidOver).mp isLoaded
    exact ⟨rfl, sound.adminPathPrefix, sound.ports, sound.replacement, sound.isEnabled_eq⟩
  case alone =>
    intro kept
    rw [loads, and_iff_right_iff_imp]
    intro sound
    rcases kept with noFile | ⟨noPort, noUrl⟩
    · rw [CommandLine.Arguments.LaidOver, noFile] at laidOver
      obtain rfl : base = default := laidOver
      exact Configuration.isSound_default
    · have overridden := CommandLine.Arguments.overrides_override arguments base
      refine (CommandLine.Arguments.isSound_base_iff sound).mpr ⟨?_, ?_⟩
      · rw [← overridden.portKept noPort]
        exact sound.ports
      · rw [← overridden.recordingKept noUrl]
        exact sound.scheme

/-- A port and an address among the arguments take the place of those in the file. -/
theorem port_and_address_take_place_of_those_in_file :
    let arguments : CommandLine.Arguments :=
      { (default : CommandLine.Arguments) with
        configPath := some "settings", port := some 9999, proxyUrl := some "http://new" }
    let content := fun _ : String =>
      some (Text.encode "listen: \x7bport: 8081\x7d\nproxy: \x7burl: http://old\x7d\n")
    ∃ result warnings,
      arguments.configuration (fun path => Configuration.ofFile path (content path)) =
        .ok (result, warnings) ∧
      result.listen.port = 9999 ∧ result.recording.url = some "http://new" ∧
      result.recording.isEnabled = true := by
  intro arguments content
  let base : Configuration :=
    { (default : Configuration) with
      listen := ⟨"0.0.0.0", 8081⟩
      recording := { RecordingSettings.off with url := some "http://old" } }
  have parsed : Configuration.ofText?
      "listen: \x7bport: 8081\x7d\nproxy: \x7burl: http://old\x7d\n" = some base := by
    decide +kernel
  have laidOver : arguments.LaidOver content base := ⟨_, rfl, parsed⟩
  have overridden := CommandLine.Arguments.overrides_override arguments base
  have sound : (arguments.override base).IsSound :=
    Configuration.problem?_eq_none_iff.mp (by decide)
  obtain ⟨loads, result, -⟩ :=
    configuration_is_loaded_iff_valid_before_and_after_overriding laidOver overridden
  obtain ⟨⟨configuration, warnings⟩, loaded⟩ := loads.mpr
    ⟨Configuration.exists_validate_eq_ok_iff.mpr sound, by decide, by decide⟩
  obtain ⟨rfl, -, -, -, enabled⟩ := result configuration warnings loaded
  exact ⟨_, warnings, loaded, rfl, rfl, enabled⟩

/-- A file whose port of metrics is that of its listener is refused, although an argument moves the
listener to another port and the configuration with that port is valid. -/
theorem overridden_port_is_refused :
    let arguments : CommandLine.Arguments :=
      { (default : CommandLine.Arguments) with configPath := some "settings", port := some 8081 }
    let content := fun _ : String =>
      some (Text.encode "metrics:\n  enabled: true\n  port: 8080\n")
    ∃ base configuration, arguments.LaidOver content base ∧
      arguments.Overrides base configuration ∧ configuration.validate = .ok [] ∧
      arguments.configuration (fun path => Configuration.ofFile path (content path)) =
        .error (.metricsPortTaken 8080) := by
  intro arguments content
  let base : Configuration := { (default : Configuration) with metrics := ⟨true, 8080⟩ }
  have parsed : Configuration.ofText? "metrics:\n  enabled: true\n  port: 8080\n" = some base := by
    decide +kernel
  have laidOver : arguments.LaidOver content base := ⟨_, rfl, parsed⟩
  have sound : (arguments.override base).IsSound :=
    Configuration.problem?_eq_none_iff.mp (by decide)
  have refused : base.validate = .error (.metricsPortTaken 8080) := by
    have problem : base.problem? = some (.metricsPortTaken 8080) := by decide
    rw [Configuration.validate, problem]
  refine ⟨base, arguments.override base, laidOver,
    CommandLine.Arguments.overrides_override arguments base,
    Configuration.validate_eq_ok_iff.mpr ⟨sound, rfl⟩, ?_⟩
  rw [CommandLine.Arguments.configuration_eq laidOver, refused]
  rfl

end Understudy
