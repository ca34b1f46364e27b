import CodeAtlas.Proofs.Entity.Intake
import CodeAtlas.Service

/-!
# Settings that are accepted

The bounds of settings are checked when they are taken in, and once more by each part that is made
from them. The checks agree: settings that are accepted launch the service, and what a part would
refuse is found before anything is made: `Service.launch_settles`.
-/
namespace CodeAtlas

open Intake

namespace Intake

variable {α β : Type}

/-! ## Findings -/

/-- Everything that is wrong with what was taken in. -/
def Checked.findings : Checked α → List Finding
  | .ok _ => []
  | .error findings => findings

/-- What has findings is refused with them. -/
theorem Checked.eq_error_findings {checked : Checked α} {finding : Finding}
    (found : finding ∈ checked.findings) : checked = .error checked.findings := by
  cases checked with
  | ok value => exact absurd found List.not_mem_nil
  | error findings => rfl

/-- Nothing that is wrong with one of two values is lost. -/
theorem Checked.findings_and (first : Checked α) (second : Checked β) :
    (first.and second).findings = first.findings ++ second.findings := by
  cases first <;> cases second <;> simp [Checked.and, findings]

/-- A place is noted down in front of the place of each finding. -/
theorem Checked.mem_findings_within {checked : Checked α} {step : Step} {place : List Step}
    {issue : Issue} (found : ⟨place, issue⟩ ∈ checked.findings) :
    ⟨step :: place, issue⟩ ∈ (checked.within step).findings := by
  cases checked with
  | ok value => exact absurd found List.not_mem_nil
  | error findings => exact List.mem_map.mpr ⟨_, found, rfl⟩

/-- What is no integer has one finding, at the value itself. -/
theorem exists_of_integer_eq_error {json : Json} {findings : List Finding}
    (refused : integer json = .error findings) : ∃ issue, findings = [⟨[], issue⟩] := by
  have failed (issue : Issue) (same : (Checked.fail issue : Checked Int) = .error findings) :
      ∃ issue, findings = [⟨[], issue⟩] := ⟨issue, (Except.error.inj same).symm⟩
  unfold integer at refused
  split at refused
  · contradiction
  · contradiction
  · unfold integerOfDouble at refused
    repeat' split at refused
    all_goals first
      | contradiction
      | exact failed _ refused
  · -- the characters of a setting are always had
    rename_i given
    change integerOfCharacters given = .error findings at refused
    unfold integerOfCharacters at refused
    split at refused
    all_goals first
      | contradiction
      | exact failed _ refused
  · exact failed _ refused

end Intake

/-! ## Levels -/

namespace Level

/-- A level that was read has the text in capitals as its name. -/
theorem name_of_ofText? {text : String} {level : Level} (found : ofText? text = some level) :
    level.name = Text.toUpper text := by
  have same := List.find?_some found
  exact beq_iff_eq.mp same

/-- A text is no level if it is the name of none in capitals. -/
theorem ofText?_eq_none {text : String} (unknown : Text.toUpper text ∉ all.map name) :
    ofText? text = none := by
  refine List.find?_eq_none.mpr fun level member same => unknown ?_
  exact List.mem_map.mpr ⟨level, member, beq_iff_eq.mp same⟩

/-- Every level is listed. -/
theorem mem_all (level : Level) : level ∈ all := by cases level <;> decide

/-- Reports know how serious each level is. -/
theorem exists_severity (level : Level) :
    ∃ severity, Reports.severity level.name = .ok severity := by
  cases level <;> exact ⟨_, rfl⟩

end Level

namespace Settings

variable {sources : Sources}

/-! ## What is given -/

/-- Variables settle the value of a setting: it is the value of the last one of its name, in letters
of any case. -/
def Settled (among : EnvFile.Surroundings) (name value : String) : Prop :=
  ∃ before spelling after, among = before ++ (spelling, some value) :: after ∧
    Text.toLower spelling = Text.toLower (family ++ name) ∧
    ∀ other ∈ after, Text.toLower other.1 ≠ Text.toLower (family ++ name)

/-- The value that is looked up is the one that variables settle. -/
theorem lookupLast?_eq_some_iff {among : EnvFile.Surroundings} {name value : String} :
    lookupLast? among name = some value ↔ Settled among name value := by
  unfold lookupLast? Settled
  constructor
  · intro found
    obtain ⟨⟨spelling, _⟩, last, rfl⟩ := Option.bind_eq_some_iff.mp found
    obtain ⟨others, split⟩ := List.getLast?_eq_some_iff.mp last
    obtain ⟨before, rest, rfl, _, kept⟩ := List.filter_eq_append_iff.mp split
    obtain ⟨passed, after, rfl, skipped, named, none⟩ := List.filter_eq_cons_iff.mp kept
    refine ⟨before ++ passed, spelling, after, by simp, beq_iff_eq.mp named, ?_⟩
    intro other member same
    have dropped := List.filter_eq_nil_iff.mp none other member
    exact dropped (beq_iff_eq.mpr same)
  · rintro ⟨before, spelling, after, rfl, named, others⟩
    have none : after.filter (fun other =>
        Text.toLower other.1 == Text.toLower (family ++ name)) = [] :=
      List.filter_eq_nil_iff.mpr fun other member same => others other member (beq_iff_eq.mp same)
    simp [List.filter_append, named, none]

/-- What is given for a setting: what the caller gives for it, or what the environment settles, or
what the text of the file settles if the environment settles nothing. -/
theorem Sources.find?_eq_some_iff {name : String} {given : Json} :
    sources.find? name = some given ↔
      Json.lookup sources.given name = some given ∨
      Json.lookup sources.given name = none ∧ ∃ value, given = .string value ∧
        (Settled sources.surroundings name value ∨
          (∀ other, ¬Settled sources.surroundings name other) ∧
          Settled (EnvFile.resolved sources.surroundings sources.file) name value) := by
  simp only [← lookupLast?_eq_some_iff]
  unfold Sources.find?
  cases Json.lookup sources.given name with
  | some other => simp
  | none =>
    cases lookupLast? sources.surroundings name with
    | some value => simp [eq_comm]
    | none =>
      cases lookupLast? (EnvFile.resolved sources.surroundings sources.file) name <;>
        simp [eq_comm]

/-! ## Single settings -/

/-- A setting that was read is one that was given, or the usual one. -/
theorem setting_eq_ok {α : Type} {name : String} {default value : α} {read : Json → Checked α}
    (taken : setting sources name default read = .ok value) :
    value = default ∨ ∃ given, read given = .ok value := by
  unfold setting at taken
  split at taken
  · rename_i given _
    exact .inr ⟨given, Checked.within_eq_ok.mp taken⟩
  · exact .inl (Except.ok.inj taken).symm

/-- What is wrong with a given value is wrong with the setting. -/
theorem mem_findings_setting {α : Type} {name : String} {default : α} {read : Json → Checked α}
    {given : Json} {issue : Issue} (found : sources.find? name = some given)
    (wrong : ⟨[], issue⟩ ∈ (read given).findings) :
    ⟨[.field name], issue⟩ ∈ (setting sources name default read).findings := by
  rw [setting, found]
  exact Checked.mem_findings_within wrong

/-- A positive integer that was read is positive. -/
theorem one_le_of_readPositive {json : Json} {value : Int} (taken : readPositive json = .ok value) :
    1 ≤ value := by
  obtain ⟨read, _, checked⟩ := Checked.bind_eq_ok.mp taken
  split at checked
  · contradiction
  · cases checked
    omega

/-- A size or a number of workers that was read is positive. -/
theorem one_le_of_setting {name : String} {default value : Int} (usual : 1 ≤ default)
    (taken : setting sources name default readPositive = .ok value) : 1 ≤ value := by
  obtain rfl | ⟨given, read⟩ := setting_eq_ok taken
  · exact usual
  · exact one_le_of_readPositive read

/-- No integer of at least one is made from a value. -/
def Low (json : Json) : Prop := ∀ value, integer json = .ok value → value < 1

/-- What is wrong with a low value: the integer that it is, if it is one. -/
theorem Low.exists_finding {json : Json} (low : Low json) :
    ∃ issue, ⟨[], issue⟩ ∈ (readPositive json).findings ∧
      ∀ value, integer json = .ok value → issue = .refused (.notPositive value) := by
  unfold readPositive
  cases read : integer json with
  | ok value =>
    have small := low value read
    refine ⟨.refused (.notPositive value), ?_, ?_⟩
    · simp [bind, Except.bind, small, Checked.fail, Checked.findings]
    · rintro other ⟨⟩
      rfl
  | error findings =>
    obtain ⟨issue, rfl⟩ := exists_of_integer_eq_error read
    refine ⟨issue, ?_, fun value same => absurd same (by simp)⟩
    simp [bind, Except.bind, Checked.findings]

/-! ## All settings -/

/-- The settings without bounds. -/
def unbounded (sources : Sources) : Checked (String × String × Double × Option Int) :=
  (setting sources "ollama_base_url" standard.address text).and <|
    (setting sources "ollama_model" standard.model text).and <|
      (setting sources "temperature" standard.temperature double).and <|
        setting sources "seed" standard.seed (nullable integer)

/-- The settings with bounds and the others. -/
def parts (level : Checked Level) (sources : Sources) :
    Checked (Level × Int × Int × String × String × Double × Option Int) :=
  level.and <|
    (setting sources "max_chunk_size" standard.maxChunkSize readPositive).and <|
      (setting sources "max_concurrency" standard.maxConcurrency readPositive).and <|
        unbounded sources

/-- The settings of their parts. -/
def ofParts : Level × Int × Int × String × String × Double × Option Int → Settings
  | (level, maxChunkSize, maxConcurrency, address, model, temperature, seed) =>
    ⟨level, maxChunkSize, maxConcurrency, address, model, temperature, seed⟩

/-- Settings are made of their parts. -/
theorem ofSources_eq_parts {level : Checked Level} (read : levelOf sources = .ok level) :
    ofSources sources = ((parts level sources).map ofParts).mapError .invalid := by
  unfold ofSources
  rw [read]
  change Except.mapError _ (parts level sources >>= _) = _
  cases parts level sources <;> rfl

/-- Settings that are accepted have their level and their bounds from single settings. -/
theorem ofSources_eq_ok {settings : Settings} (accepted : ofSources sources = .ok settings) :
    levelOf sources = .ok (.ok settings.level) ∧
      setting sources "max_chunk_size" standard.maxChunkSize readPositive =
        .ok settings.maxChunkSize ∧
      setting sources "max_concurrency" standard.maxConcurrency readPositive =
        .ok settings.maxConcurrency := by
  cases read : levelOf sources with
  | error fault =>
    rw [ofSources, read] at accepted
    contradiction
  | ok level =>
    rw [ofSources_eq_parts read] at accepted
    cases taken : parts level sources with
    | error findings =>
      rw [taken] at accepted
      contradiction
    | ok values =>
      rw [taken] at accepted
      cases accepted
      simp only [parts, Checked.and_eq_ok] at taken
      obtain ⟨found, size, workers, _⟩ := taken
      exact ⟨congrArg _ found, size, workers⟩

/-- What is wrong with the level or with a bound is found. -/
theorem ofSources_eq_error {level : Checked Level} (read : levelOf sources = .ok level)
    {finding : Finding}
    (found : finding ∈ level.findings ∨
      finding ∈ (setting sources "max_chunk_size" standard.maxChunkSize readPositive).findings ∨
      finding ∈ (setting sources "max_concurrency" standard.maxConcurrency readPositive).findings) :
    ∃ findings, ofSources sources = .error (.invalid findings) ∧ finding ∈ findings := by
  have collected : finding ∈ (parts level sources).findings := by
    simp only [parts, Checked.findings_and, List.mem_append]
    exact found.imp_right fun bound => bound.imp_right .inl
  refine ⟨_, ?_, collected⟩
  rw [ofSources_eq_parts read, Checked.eq_error_findings collected]
  rfl

/-! ## Launching -/

/-- What a launch from sources of settings comes to. -/
structure Settles (limits : Limits) (sources : Sources) : Prop where
  /-- The level of settings that are accepted is one of the five, the one whose name was given in
  letters of any case if one was; a chunk holds at least one unit, and there is a worker. -/
  sound : ∀ settings, ofSources sources = .ok settings →
    settings.level.name ∈ ["DEBUG", "INFO", "WARNING", "ERROR", "CRITICAL"] ∧
      (∀ text, sources.find? "log_level" = some (.string text) →
        settings.level.name = Text.toUpper text) ∧
      1 ≤ settings.maxChunkSize ∧ 1 ≤ settings.maxConcurrency
  /-- Each part accepts what it is made from, and the service launches. -/
  launched : ∀ settings, ofSources sources = .ok settings →
    (∃ severity, Reports.severity settings.level.name = .ok severity) ∧
      ∃ workers budget service, Workers.ofInt settings.maxConcurrency = .ok workers ∧
        Chunk.Budget.ofInt settings.maxChunkSize = .ok budget ∧
        Service.launch limits sources = .ok service ∧ service.settings = settings ∧
        service.workers = workers ∧ service.chunker.budget = budget
  /-- If a level is given as a text, a bound that is no integer of at least one is found. -/
  low : (∀ given, sources.find? "log_level" = some given → ∃ text, given = .string text) →
    ∀ name ∈ ["max_chunk_size", "max_concurrency"], ∀ given, sources.find? name = some given →
      Low given → ∃ findings issue,
        Service.launch limits sources = .error (.settings (.invalid findings)) ∧
          ⟨[.field name], issue⟩ ∈ findings ∧
          ∀ value, integer given = .ok value → issue = .refused (.notPositive value)
  /-- An unknown level is found. -/
  unknown : ∀ text, sources.find? "log_level" = some (.string text) →
    Text.toUpper text ∉ ["DEBUG", "INFO", "WARNING", "ERROR", "CRITICAL"] →
      ∃ findings, Service.launch limits sources = .error (.settings (.invalid findings)) ∧
        ⟨[.field "log_level"], .refused (.unknownLevel text)⟩ ∈ findings

/-- A level that is accepted was given, or is the usual one. -/
theorem name_of_levelOf {level : Level} (read : levelOf sources = .ok (.ok level)) {text : String}
    (given : sources.find? "log_level" = some (.string text)) :
    level.name = Text.toUpper text := by
  rw [levelOf, given, Except.ok.injEq, Checked.within_eq_ok] at read
  unfold readLevel at read
  split at read
  · cases read
    exact Level.name_of_ofText? ‹_›
  · contradiction

/-- An unknown level is refused. -/
theorem readLevel_eq_fail {text : String} (unknown : Text.toUpper text ∉ Level.all.map Level.name) :
    readLevel text = Checked.fail (.refused (.unknownLevel text)) := by
  rw [readLevel, Level.ofText?_eq_none unknown]

/-- A level that is a text, or missing, is read, if only to be refused. -/
theorem exists_levelOf
    (textual : ∀ given, sources.find? "log_level" = some given → ∃ text, given = .string text) :
    ∃ level, levelOf sources = .ok level := by
  unfold levelOf
  cases found : sources.find? "log_level" with
  | none => exact ⟨_, rfl⟩
  | some given =>
    obtain ⟨text, rfl⟩ := textual given found
    exact ⟨_, rfl⟩

end Settings

namespace Service

open Settings

variable {limits : Limits} {sources : Sources} {settings : Settings}

/-- There are workers of every positive number. -/
theorem exists_workers (positive : 1 ≤ settings.maxConcurrency) :
    ∃ workers, Workers.ofInt settings.maxConcurrency = .ok workers :=
  ⟨_, dif_pos (by omega)⟩

/-- There is a budget of every positive size. -/
theorem exists_budget (positive : 1 ≤ settings.maxChunkSize) :
    ∃ budget, Chunk.Budget.ofInt settings.maxChunkSize = .ok budget :=
  ⟨_, dif_pos (by omega)⟩

/-- The service starts if each part accepts what it is made from. -/
theorem exists_start {severity : Nat} {workers : Workers} {budget : Chunk.Budget}
    (level : Reports.severity settings.level.name = .ok severity)
    (count : Workers.ofInt settings.maxConcurrency = .ok workers)
    (size : Chunk.Budget.ofInt settings.maxChunkSize = .ok budget) :
    ∃ service, start limits settings = .ok service ∧ service.settings = settings ∧
      service.workers = workers ∧ service.chunker.budget = budget := by
  rw [start, level, count, size]
  exact ⟨_, rfl, rfl, rfl, rfl⟩

/-- Nothing is made of settings that are refused. -/
theorem launch_eq_error {fault : Fault} (refused : ofSources sources = .error fault) :
    launch limits sources = .error (.settings fault) := by
  rw [launch, refused]
  rfl

/-- Settings that are accepted launch the service; settings with a bound that is too low or with an
unknown level are refused before anything is made. -/
theorem launch_settles (limits : Limits) (sources : Sources) : Settles limits sources where
  sound := by
    intro settings accepted
    obtain ⟨level, size, workers⟩ := ofSources_eq_ok accepted
    exact ⟨List.mem_map_of_mem (f := Level.name) settings.level.mem_all,
      fun text given => name_of_levelOf level given, one_le_of_setting (by decide) size,
      one_le_of_setting (by decide) workers⟩
  launched := by
    intro settings accepted
    obtain ⟨_, size, count⟩ := ofSources_eq_ok accepted
    obtain ⟨severity, known⟩ := settings.level.exists_severity
    obtain ⟨workers, manned⟩ := exists_workers (one_le_of_setting (by decide) count)
    obtain ⟨budget, sized⟩ := exists_budget (one_le_of_setting (by decide) size)
    obtain ⟨service, started, same⟩ := exists_start known manned sized
    refine ⟨⟨severity, known⟩, workers, budget, service, manned, sized, ?_, same⟩
    rw [launch, accepted]
    change Except.mapError _ (start limits settings) = _
    rw [started]
    rfl
  low := by
    intro textual name bounded given found low
    obtain ⟨level, read⟩ := exists_levelOf textual
    obtain ⟨issue, wrong, named⟩ := low.exists_finding
    have either : ∃ findings, ofSources sources = .error (.invalid findings) ∧
        ⟨[.field name], issue⟩ ∈ findings := by
      simp only [List.mem_cons, List.not_mem_nil, or_false] at bounded
      rcases bounded with rfl | rfl
      · exact ofSources_eq_error read (.inr (.inl (mem_findings_setting found wrong)))
      · exact ofSources_eq_error read (.inr (.inr (mem_findings_setting found wrong)))
    obtain ⟨findings, refused, member⟩ := either
    exact ⟨findings, issue, launch_eq_error refused, member, named⟩
  unknown := by
    intro text given unknown
    have read : levelOf sources =
        .ok ((Checked.fail (.refused (.unknownLevel text))).within (.field "log_level")) := by
      rw [levelOf, given, ← readLevel_eq_fail unknown]
    obtain ⟨findings, refused, member⟩ :=
      ofSources_eq_error read (.inl (List.mem_singleton.mpr rfl))
    exact ⟨findings, launch_eq_error refused, member⟩

/-- A size of nothing in the environment, and a level in the text of the file. -/
def sizeZero : Sources where
  given := []
  environment := [("code_explainer_MAX_CHUNK_SIZE", "0")]
  file := "CODE_EXPLAINER_LOG_LEVEL=debug\n"

/-- The level of the file is taken, and the size from the environment is found to be too low. -/
theorem launch_settles_sizeZero :
    sizeZero.find? "log_level" = some (.string "debug") ∧
      sizeZero.find? "max_chunk_size" = some (.string "0") ∧
      ∃ findings, launch .least sizeZero = .error (.settings (.invalid findings)) ∧
        ⟨[.field "max_chunk_size"], .refused (.notPositive 0)⟩ ∈ findings := by
  have level : sizeZero.find? "log_level" = some (.string "debug") := rfl
  have size : sizeZero.find? "max_chunk_size" = some (.string "0") := rfl
  have zero : integer (.string "0") = .ok 0 := rfl
  have low : Low (.string "0") := by
    intro value read
    rw [zero] at read
    cases read
    decide
  have textual : ∀ given, sizeZero.find? "log_level" = some given →
      ∃ text, given = .string text := by
    intro given found
    rw [level] at found
    exact ⟨_, (Option.some.inj found).symm⟩
  obtain ⟨findings, issue, refused, member, named⟩ :=
    (launch_settles .least sizeZero).low textual "max_chunk_size" (by decide) _ size low
  rw [named 0 zero] at member
  exact ⟨level, size, findings, refused, member⟩

end Service

end CodeAtlas
