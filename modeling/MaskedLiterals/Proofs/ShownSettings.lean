import MaskedLiterals.Proofs.CommandOptions
import MaskedLiterals.Proofs.EditCommand
import MaskedLiterals.Proofs.NumeralGrammar
import MaskedLiterals.Proofs.RangeOutcome
import MaskedLiterals.Proofs.SettingsFiles

/-!
# The settings that are shown and those that are in use

What `config` shows are the settings of the files with the marker of the options, and with these
settings every command works (`Program.action_withMarker`).  Any other command makes a dialect of
them, behind nothing but its numerals, and once it has the dialect no marker is refused any more
(`Command.BuildsDialect`).

The files are checked as they are read, but a marker of the options is checked only where a dialect
is made of it, and `config` makes none.  So the settings that it shows are those in use, and they
are accepted if and only if the marker of the options is, when there is one
(`Program.shownSettings_inUse`).
-/

namespace MaskedLiterals

open CommandLine (GlobalOptions NumeralText Invocation)

/-! ### What a failure is for -/

namespace Failure

variable {failure : Failure}

def IsForMarker (failure : Failure) : Prop := ∃ marker, failure = .refused (.invalidMarker marker)

def IsForNumeral (failure : Failure) : Prop :=
  ∃ input base, failure = .refused (.invalidNumeral input base)

theorem IsForNumeral.not_isForMarker (h : failure.IsForNumeral) : ¬ failure.IsForMarker := by
  obtain ⟨input, base, rfl⟩ := h
  rintro ⟨marker, hmarker⟩
  cases hmarker

end Failure

section Spares

variable {α : Type}

def SparesMarkers (outcome : Except Failure α) : Prop :=
  ∀ failure, outcome = .error failure → ¬ failure.IsForMarker

theorem sparesMarkers_ok (a : α) : SparesMarkers (.ok a) := by
  intro failure h
  cases h

theorem sparesMarkers_refused {outcome : Except Refusal α}
    (h : ∀ marker, outcome ≠ .error (.invalidMarker marker)) :
    SparesMarkers (outcome.mapError .refused) := by
  rintro failure hfails ⟨marker, rfl⟩
  obtain ⟨refusal, hrefused, hsame⟩ := mapError_eq_error_iff.1 hfails
  cases hsame
  exact h marker hrefused

theorem sparesMarkers_file {outcome : Except FileFailure α}
    (h : ∀ marker, outcome ≠ .error (.refused (.invalidMarker marker))) :
    SparesMarkers (outcome.mapError .file) := by
  rintro failure hfails ⟨marker, rfl⟩
  obtain ⟨cause, hcause, hsame⟩ := mapError_eq_error_iff.1 hfails
  cases hsame
  exact h marker hcause

end Spares

/-! ### What refuses no marker -/

section Refusals

variable {dialect : Dialect} {marker : Char}

theorem Dialect.parse_ne_invalidMarker (text : String) :
    dialect.parse text ≠ .error (.invalidMarker marker) := by
  unfold parse
  split <;> simp

theorem Token.value_ne_invalidMarker (token : Token) :
    token.value dialect ≠ .error (.invalidMarker marker) := by
  intro h
  cases value_eq_error h

theorem Dialect.splice_ne_invalidMarker (text : String) (tokens : List Token) :
    dialect.splice text tokens ≠ .error (.invalidMarker marker) := by
  intro h
  rcases splice_eq_error_iff.1 h with ⟨-, hcount⟩ | ⟨-, _, token, _, -, -, hvalue⟩
  · cases hcount
  · exact Token.value_ne_invalidMarker token hvalue

namespace Session

variable {session : Session} {disk : Disk}

theorem decode_ne_invalidMarker (start stop : Nat) (key : Key) :
    session.decode start stop key ≠ .error (.invalidMarker marker) := by
  intro h
  obtain ⟨i, -, hfails, -⟩ := ArrayRange.decode_eq_error_iff_failsAt.1 h
  cases hfails

theorem edit_ne_invalidMarker (start : Nat) (text : String) (key : Key) :
    session.edit start text key ≠ .error (.invalidMarker marker) := by
  unfold edit
  split <;> simp

theorem ofFile_ne_invalidMarker (path : String) (limit : Nat) :
    ofFile disk dialect path limit ≠ .error (.refused (.invalidMarker marker)) := by
  intro h
  rcases bind_eq_error_iff.1 h with hsize | ⟨_, -, h⟩
  · unfold checkSize at hsize
    repeat' split at hsize
    all_goals cases hsize
  rcases bind_eq_error_iff.1 h with hread | ⟨source, -, h⟩
  · obtain ⟨cause, -, hcause⟩ := mapError_eq_error_iff.1 hread
    cases hcause
  rcases bind_eq_error_iff.1 h with htext | ⟨_, -, h⟩
  · obtain ⟨refusal, hrefused, hsame⟩ := mapError_eq_error_iff.1 htext
    cases hsame
    exact Dialect.parse_ne_invalidMarker source
      (map_eq_error_iff.1 (map_eq_error_iff.1 hrefused))
  · cases h

theorem save_ne_invalidMarker (suffix : String) :
    (session.save disk suffix).2 ≠ .error (.refused (.invalidMarker marker)) := by
  unfold save
  cases hspliced : session.spliced disk with
  | error failure =>
    rintro ⟨⟩
    rcases spliced_eq_error_iff.1 hspliced with
      ⟨-, hnone⟩ | ⟨_, -, ⟨_, -, hdisk⟩ | ⟨source, refusal, -, hsplice, hsame⟩⟩
    · cases hnone
    · cases hdisk
    · cases hsame
      exact Dialect.splice_ne_invalidMarker source session.store.tokens hsplice
  | ok spliced =>
    dsimp only
    unfold commit
    cases hfile : session.backingFile with
    | error failure =>
      unfold backingFile at hfile
      split at hfile
      · cases hfile
      · cases hfile
        simp
    | ok path =>
      dsimp only
      split
      · simp
      · split <;> simp

end Session

theorem Command.maskedWords_ne_invalidMarker (session : Session) (start stop : Nat) (key : Key) :
    maskedWords session start stop key ≠ .error (.invalidMarker marker) := by
  intro h
  obtain ⟨value, hmem, hvalue⟩ := exists_of_mapM_eq_error h
  obtain ⟨place, -, hplace⟩ := List.mem_filterMap.1 hmem
  obtain ⟨token, -, rfl⟩ := Option.map_eq_some_iff.1 hplace
  exact Token.value_ne_invalidMarker token (map_eq_error_iff.1 hvalue)

end Refusals

/-! ### Actions that refuse no marker -/

namespace Action

variable {α β : Type} {act : Action α} {next : α → Action β} {disk after : Disk}
variable {result : Except Failure α} {printed : String}

def Spares (act : Action α) (disk : Disk) : Prop :=
  ∃ result after printed, act.Ends disk result after printed ∧ SparesMarkers result

theorem Ends.spares (h : act.Ends disk result after printed) (hresult : SparesMarkers result) :
    act.Spares disk := ⟨result, after, printed, h, hresult⟩

theorem Prints.spares {act : Action Unit} (h : act.Prints printed) : act.Spares disk :=
  (h disk).spares (sparesMarkers_ok ())

theorem Looks.bind_spares (h : act.Looks disk result) (hresult : SparesMarkers result)
    (hnext : ∀ a, result = .ok a → (next a).Spares disk) : (act >>= next).Spares disk := by
  cases result with
  | error failure =>
    refine (Ends.bind_error h).spares ?_
    rintro _ ⟨⟩
    exact hresult failure rfl
  | ok a =>
    obtain ⟨result, after, printed, hends, hspares⟩ := hnext a rfl
    exact (h.bind_ends hends).spares hspares

/-- A step that only looks and cannot fail makes no difference. -/
theorem Looks.bind_spares_of_ok {a : α} (h : act.Looks disk (.ok a))
    (hnext : (next a).Spares disk) : (act >>= next).Spares disk :=
  h.bind_spares (sparesMarkers_ok a) fun other hsame => by
    cases hsame
    exact hnext

end Action

namespace Command

variable {settings : Config} {options : GlobalOptions} {disk : Disk} {file text : String}
variable {session : Session} {start keyText : NumeralText} {act : Action Unit} {failure : Failure}

/-! ### Numerals -/

theorem isForNumeral_of_parse {size : Nat} {base : NumeralBase} {input : String} {refusal : Refusal}
    (h : Numeral.parse size base input = .error refusal) :
    (Failure.refused refusal).IsForNumeral := by
  obtain ⟨rfl, -⟩ := Numeral.parse_eq_error_iff.1 h
  exact ⟨input, base, rfl⟩

theorem isForNumeral_of_indexOf (numeral : NumeralText) (h : indexOf numeral = .error failure) :
    failure.IsForNumeral := by
  obtain ⟨refusal, hrefused, rfl⟩ := mapError_eq_error_iff.1 h
  exact isForNumeral_of_parse hrefused

theorem isForNumeral_of_keyOf (numeral : NumeralText) (h : keyOf numeral = .error failure) :
    failure.IsForNumeral := by
  obtain ⟨refusal, hrefused, rfl⟩ := mapError_eq_error_iff.1 h
  exact isForNumeral_of_parse (map_eq_error_iff.1 hrefused)

theorem isForNumeral_of_mapM_indexOf {stop : Option NumeralText}
    (h : stop.mapM indexOf = .error failure) : failure.IsForNumeral := by
  cases stop with
  | none => cases h
  | some stop =>
    rw [Option.mapM_some] at h
    exact isForNumeral_of_indexOf stop (map_eq_error_iff.1 h)

/-! ### The dialect of a command -/

theorem looks_dialect (settings : Config) (options : GlobalOptions) :
    (dialect settings options).Looks disk
      ((settings.withMarker options.marker).dialect.mapError .refused) := Action.looks_accept _

/-- Without a dialect no file is opened. -/
theorem opened_of_dialect_eq_error {refusal : Refusal}
    (h : (settings.withMarker options.marker).dialect = .error refusal) :
    opened settings options file disk = .error (.refused refusal) := by
  unfold opened
  rw [h]
  rfl

theorem sparesMarkers_opened {chosen : Dialect}
    (h : (settings.withMarker options.marker).dialect = .ok chosen) :
    SparesMarkers (opened settings options file disk) := by
  rintro failure hopened hmarker
  unfold opened at hopened
  rw [h] at hopened
  rcases bind_eq_error_iff.1 hopened with hdialect | ⟨_, hdialect, hopened⟩
  · cases hdialect
  rcases bind_eq_error_iff.1 hopened with hsize | ⟨_, -, hfile⟩
  · obtain ⟨marker, rfl⟩ := hmarker
    unfold sizeAsked at hsize
    repeat' split at hsize
    all_goals cases hsize
  · exact sparesMarkers_file (fun _ => Session.ofFile_ne_invalidMarker file options.sizeLimit)
      failure hfile hmarker

/-- The command makes a dialect of its settings and options, by itself or to open a file.  Before
    this it only reads numerals, and behind it no marker is refused. -/
inductive BuildsDialect (settings : Config) (options : GlobalOptions) (disk : Disk) :
    Action Unit → Prop
  | dialect {next : Dialect → Action Unit} (hnext : ∀ chosen, (next chosen).Spares disk) :
      BuildsDialect settings options disk (dialect settings options >>= next)
  | openFile (file : String) {next : Session → Action Unit}
      (hnext : ∀ session, (next session).Spares disk) :
      BuildsDialect settings options disk (openFile settings options file >>= next)
  | numeral {α : Type} {act : Action α} {result : Except Failure α} {next : α → Action Unit}
      (hact : act.Looks disk result)
      (hfails : ∀ failure, result = .error failure → failure.IsForNumeral)
      (hnext : ∀ a, BuildsDialect settings options disk (next a)) :
      BuildsDialect settings options disk (act >>= next)

theorem BuildsDialect.index (numeral : NumeralText) {next : Nat → Action Unit}
    (hnext : ∀ n, BuildsDialect settings options disk (next n)) :
    BuildsDialect settings options disk (index numeral >>= next) :=
  .numeral (looks_index numeral) (fun _ => isForNumeral_of_indexOf numeral) hnext

theorem BuildsDialect.key (numeral : NumeralText) {next : Key → Action Unit}
    (hnext : ∀ key, BuildsDialect settings options disk (next key)) :
    BuildsDialect settings options disk (key numeral >>= next) :=
  .numeral (looks_key numeral) (fun _ => isForNumeral_of_keyOf numeral) hnext

/-- With settings that are accepted, a command refuses no marker. -/
theorem BuildsDialect.spares (h : BuildsDialect settings options disk act) {chosen : Dialect}
    (hdialect : (settings.withMarker options.marker).dialect = .ok chosen) : act.Spares disk := by
  induction h with
  | dialect hnext =>
    have hlooks := @looks_dialect disk settings options
    rw [hdialect] at hlooks
    exact Action.Looks.bind_spares_of_ok hlooks (hnext chosen)
  | openFile file hnext =>
    exact (looks_openFile settings options file).bind_spares (sparesMarkers_opened hdialect)
      fun session _ => hnext session
  | numeral hact hfails hnext ih =>
    exact hact.bind_spares (fun failure herror => (hfails failure herror).not_isForMarker)
      fun a _ => ih a

/-- With settings that are refused, a command fails for them or for a numeral before. -/
theorem BuildsDialect.exists_looks_error (h : BuildsDialect settings options disk act)
    {refusal : Refusal} (hdialect : (settings.withMarker options.marker).dialect = .error refusal) :
    ∃ failure, act.Looks disk (.error failure)
      ∧ (failure = .refused refusal ∨ failure.IsForNumeral) := by
  induction h with
  | dialect hnext =>
    have hlooks := @looks_dialect disk settings options
    rw [hdialect] at hlooks
    exact ⟨.refused refusal, Action.Ends.bind_error hlooks, Or.inl rfl⟩
  | openFile file hnext =>
    have hlooks := @looks_openFile disk settings options file
    rw [opened_of_dialect_eq_error hdialect] at hlooks
    exact ⟨.refused refusal, Action.Ends.bind_error hlooks, Or.inl rfl⟩
  | @numeral _ _ result _ hact hfails hnext ih =>
    cases result with
    | error failure =>
      exact ⟨failure, Action.Ends.bind_error hact, Or.inr (hfails failure rfl)⟩
    | ok a =>
      obtain ⟨failure, hlooks, hfor⟩ := ih a
      exact ⟨failure, hact.bind_ends hlooks, hfor⟩

/-! ### Every command -/

theorem buildsDialect_extract (json : Bool) :
    BuildsDialect settings options disk (extract settings options file json) := by
  unfold extract
  refine .openFile file fun session => ?_
  dsimp only
  split
  · exact (Action.prints_printLine _).spares
  · exact ((Action.prints_printLine _).bind
      ((Action.prints_printLine _).bind (Action.prints_printLine _))).spares

theorem buildsDialect_decode (stop : NumeralText) (verbose : Bool) :
    BuildsDialect settings options disk
      (decode settings options file start stop keyText verbose) := by
  unfold decode
  refine .index start fun start => .index stop fun stop => .key keyText fun key =>
    .openFile file fun session => ?_
  refine (looks_decodeRange session start stop key).bind_spares_of_ok ?_
  refine (Action.looks_accept _).bind_spares
    (sparesMarkers_refused fun _ => Session.decode_ne_invalidMarker start stop key)
    fun decoded _ => ?_
  dsimp only
  split
  · refine (Action.looks_accept _).bind_spares (sparesMarkers_refused fun _ =>
      maskedWords_ne_invalidMarker session start _ key) fun words _ => ?_
    exact ((Action.prints_printLine _).bind ((Action.prints_printLine _).bind
      ((Action.prints_printLine _).bind (Action.prints_note _)))).spares
  · exact ((Action.prints_printLine _).bind (Action.prints_note _)).spares

theorem buildsDialect_encode (preview : Bool) :
    BuildsDialect settings options disk (encode settings options text keyText preview) := by
  unfold encode
  refine .key keyText fun key => .dialect fun chosen => ?_
  split
  · exact (Action.prints_printLine _).spares
  · exact (Action.prints_print _).spares

theorem spares_finishEdit (suffix : String) (planned : PlannedEdit) (dryRun : Bool) :
    (finishEdit suffix planned dryRun).Spares disk := by
  cases dryRun with
  | true => exact (prints_dryRun suffix planned).spares
  | false =>
    rcases hsave : planned.session.save disk suffix with ⟨after, result⟩
    cases result with
    | error failure =>
      refine (ends_finishEdit_of_error hsave).spares ?_
      rintro _ ⟨⟩ ⟨marker, hmarker⟩
      cases hmarker
      exact Session.save_ne_invalidMarker suffix (congrArg Prod.snd hsave)
    | ok saved => exact (ends_finishEdit_of_ok hsave).spares (sparesMarkers_ok ())

theorem buildsDialect_edit (stop : Option NumeralText) (dryRun : Bool) :
    BuildsDialect settings options disk
      (edit settings options file start stop keyText text dryRun) := by
  unfold edit
  refine .index start fun start => .numeral (Action.looks_mapM_option looks_index stop)
    (fun _ => isForNumeral_of_mapM_indexOf) fun stop =>
    .key keyText fun key => .openFile file fun session => ?_
  have hrest : Action.Spares (do
      Action.notice ("Preview: " ++ session.preview text key)
      let edited ← editSession session start text key
      finishEdit settings.backup.suffix ⟨start, edited.1, edited.2⟩ dryRun) disk := by
    refine (Action.looks_notice _).bind_spares_of_ok ?_
    refine (looks_editSession session start text key).bind_spares
      (sparesMarkers_refused fun _ => Session.edit_ne_invalidMarker start text key) ?_
    intro edited _
    exact spares_finishEdit settings.backup.suffix ⟨start, edited.1, edited.2⟩ dryRun
  cases stop with
  | none => cases dryRun <;> exact hrest
  | some stop =>
    refine (looks_showCurrent session start stop key).bind_spares_of_ok ?_
    cases dryRun <;> exact hrest

theorem buildsDialect_inspect (keyTexts : Option (List NumeralText)) (json : Bool) :
    BuildsDialect settings options disk (inspect settings options file keyTexts json) := by
  unfold inspect
  have hrest (keys : List Key) : BuildsDialect settings options disk (do
      let session ← openFile settings options file
      let rows := sampleTable session.dialect session.store.tokens keys
      if json then
        Action.printLine <| Json.pretty <| .object [
          ("keys", .array (keys.map fun key => .number key.toNat)),
          ("rows", .array (rows.map rowJson))]
      else
        Action.print (shownTable keys rows)) := by
    refine .openFile file fun session => ?_
    dsimp only
    split
    · exact (Action.prints_printLine _).spares
    · exact (Action.prints_print _).spares
  cases keyTexts with
  | none => exact hrest _
  | some texts =>
    refine .numeral (Action.looks_mapM looks_key texts) (fun failure hfails => ?_) hrest
    obtain ⟨numeral, -, hnumeral⟩ := exists_of_mapM_eq_error hfails
    exact isForNumeral_of_keyOf numeral hnumeral

theorem buildsDialect_writeListing (output : String) :
    BuildsDialect settings options disk (writeListing settings options file output) := by
  unfold writeListing
  refine .openFile file fun session => ?_
  refine Action.looks_disk.bind_spares_of_ok ?_
  refine (Action.looks_attempt _).bind_spares (sparesMarkers_file fun marker hfails => ?_)
    fun after _ => ?_
  · obtain ⟨cause, -, hcause⟩ := mapError_eq_error_iff.1 hfails
    cases hcause
  · exact ⟨.ok (), after, "", (Action.ends_setDisk disk after).bind_silent
      ((Action.looks_log _ _ _).bind_ends (Action.looks_notice _)), sparesMarkers_ok ()⟩

/-- Every command makes a dialect but the one that shows the settings. -/
theorem buildsDialect_action {command : CommandLine.Command} (h : ∀ json, command ≠ .config json) :
    BuildsDialect settings options disk (Program.action settings options command) := by
  cases command with
  | extract file json => exact buildsDialect_extract json
  | decode file start stop key verbose => exact buildsDialect_decode stop verbose
  | encode text key preview => exact buildsDialect_encode preview
  | edit file start stop key text dryRun => exact buildsDialect_edit stop dryRun
  | inspect file keys json => exact buildsDialect_inspect keys json
  | writeListing file output => exact buildsDialect_writeListing output
  | config json => exact absurd rfl (h json)

end Command

/-! ### The settings in use -/

def CommandLine.GlobalOptions.withoutMarker (options : GlobalOptions) : GlobalOptions :=
  { options with marker := none }

namespace Config

variable {config : Config} {marker : Option Char}

/-- The settings in use: those of the files, with the marker of the options. -/
def inUse (disk : Disk) (userDirectory : Option String) (options : GlobalOptions) : Config :=
  (load disk userDirectory).1.withMarker options.marker

def shown (config : Config) (json : Bool) : String :=
  if json then config.toJson.pretty ++ "\n" else config.toToml

theorem hasMarker_load (disk : Disk) (userDirectory : Option String) :
    (load disk userDirectory).1.HasMarker := by
  unfold load
  rw [adoptFiles_fst]
  exact hasMarker_behindAll hasMarker_builtIn _

/-- Settings that have a dialect lose it only to another marker. -/
theorem hasMarker_withMarker_iff (h : config.HasMarker) :
    (config.withMarker marker).HasMarker ↔ ∀ c ∈ marker, IsMarker c := by
  cases marker with
  | none => exact iff_of_true h nofun
  | some c =>
    constructor
    · rintro hc _ ⟨⟩
      exact hc
    · intro hall
      exact hall c rfl

theorem dialect_withMarker_eq_error {c : Char} (hmarker : marker = some c) (h : ¬ IsMarker c) :
    (config.withMarker marker).dialect = .error (.invalidMarker c) := by
  subst hmarker
  exact dif_neg h

end Config

namespace Program

variable {surroundings : Surroundings} {settings : Config} {options : GlobalOptions}
variable {command : CommandLine.Command} {disk after : Disk} {printed : String}

/-- A command works with the settings that are in use. -/
theorem action_withMarker (settings : Config) (options : GlobalOptions)
    (command : CommandLine.Command) :
    action (settings.withMarker options.marker) options.withoutMarker command
      = action settings options command := by
  cases command <;> rfl

/-- The settings are always shown. -/
theorem ends_config (settings : Config) (options : GlobalOptions) (json : Bool) (disk : Disk) :
    (action settings options (.config json)).Ends disk (.ok ()) disk
      ((settings.withMarker options.marker).shown json) := by
  show (Command.config settings options json).Ends _ _ _ _
  unfold Command.config Config.shown
  cases json with
  | true => exact Action.prints_printLine _ disk
  | false => exact Action.prints_print _ disk

theorem runCommand_fst_of_ends {result : Except Failure Unit}
    (h : (action (Config.load disk surroundings.userDirectory).1 options command).Ends disk result
      after printed) :
    (runCommand surroundings options command disk).1 = result := by
  rw [runCommand_eq]
  obtain ⟨noted, hrun⟩ := h "" ((Config.load disk surroundings.userDirectory).2.map .entry)
  rw [hrun]

theorem sparesMarkers_runCommand {chosen : Dialect}
    (hdialect : (Config.inUse disk surroundings.userDirectory options).dialect = .ok chosen)
    (command : CommandLine.Command) :
    SparesMarkers (runCommand surroundings options command disk).1 := by
  by_cases hconfig : ∃ json, command = .config json
  · obtain ⟨json, rfl⟩ := hconfig
    rw [runCommand_fst_of_ends (ends_config _ options json disk)]
    exact sparesMarkers_ok ()
  · obtain ⟨result, after, printed, hends, hspares⟩ :=
      (Command.buildsDialect_action (not_exists.1 hconfig)).spares hdialect
    rwa [runCommand_fst_of_ends hends]

/-- A marker that is refused keeps a command from opening its file. -/
theorem runCommand_extract_of_dialect_eq_error {refusal : Refusal}
    (hdialect : (Config.inUse disk surroundings.userDirectory options).dialect = .error refusal) :
    (runCommand surroundings options (.extract "" false) disk).1 = .error (.refused refusal) := by
  have hlooks :=
    @Command.looks_openFile disk (Config.load disk surroundings.userDirectory).1 options ""
  rw [Command.opened_of_dialect_eq_error hdialect] at hlooks
  exact runCommand_fst_of_ends (Action.Ends.bind_error hlooks)

/-- **The settings that are shown are those in use, and they are accepted exactly if the marker of
    the options is.**  They are always shown, and every other command makes its dialect of them.
    They have a dialect if and only if a marker of the options can end a literal, and if and only if
    no command refuses a marker.  A marker that cannot end a literal is shown all the same, and
    every other command fails for it or for a numeral before it. -/
theorem shownSettings_inUse (surroundings : Surroundings) (options : GlobalOptions) (disk : Disk) :
    let loaded := (Config.load disk surroundings.userDirectory).1
    let inUse := Config.inUse disk surroundings.userDirectory options
    (∀ arguments json, Invocation.ofArguments arguments = some (.run options (.config json)) →
      (run surroundings arguments disk).code = 0
        ∧ (run surroundings arguments disk).output = inUse.shown json)
    ∧ (∀ command, (∀ json, command ≠ .config json) →
      action loaded options command = action inUse options.withoutMarker command
        ∧ Command.BuildsDialect inUse options.withoutMarker disk (action loaded options command))
    ∧ ((∃ dialect, inUse.dialect = .ok dialect) ↔ ∀ marker ∈ options.marker, IsMarker marker)
    ∧ ((∀ marker ∈ options.marker, IsMarker marker)
      ↔ ∀ command, SparesMarkers (runCommand surroundings options command disk).1)
    ∧ ∀ marker ∈ options.marker, ¬ IsMarker marker → ∀ command, (∀ json, command ≠ .config json) →
      ∃ failure, (runCommand surroundings options command disk).1 = .error failure
        ∧ (failure = .refused (.invalidMarker marker) ∨ failure.IsForNumeral) := by
  intro loaded inUse
  have haccepted : (∃ dialect, inUse.dialect = .ok dialect)
      ↔ ∀ marker ∈ options.marker, IsMarker marker :=
    Config.exists_dialect_iff.trans (Config.hasMarker_withMarker_iff (Config.hasMarker_load disk _))
  refine ⟨fun arguments json hasked => ?_, fun command hother => ⟨?_, ?_⟩, haccepted,
    ⟨fun hmarkers command => ?_, fun hspares marker hmem => ?_⟩,
    fun marker hmem hrefused command hother => ?_⟩
  · obtain ⟨hcode, houtput, -⟩ := run_of_ends hasked (ends_config loaded options json disk)
    exact ⟨hcode, houtput⟩
  · exact (action_withMarker loaded options command).symm
  · rw [← action_withMarker]
    exact Command.buildsDialect_action hother
  · obtain ⟨chosen, hdialect⟩ := haccepted.2 hmarkers
    exact sparesMarkers_runCommand hdialect command
  · by_contra hrefused
    have hdialect : inUse.dialect = .error (.invalidMarker marker) :=
      Config.dialect_withMarker_eq_error hmem hrefused
    exact hspares (.extract "" false) _ (runCommand_extract_of_dialect_eq_error hdialect)
      ⟨marker, rfl⟩
  · obtain ⟨failure, hlooks, hfor⟩ := (Command.buildsDialect_action hother).exists_looks_error
      (Config.dialect_withMarker_eq_error hmem hrefused)
    exact ⟨failure, runCommand_fst_of_ends hlooks, hfor⟩

/-- A file of settings asks for the marker `t` and six digits.  The marker `u` of the options is
    shown with these six digits, and no command refuses it; for the marker `a` a listing fails. -/
theorem shownSettings_inUse_over_file :
    ∃ (disk : Disk) (override : Override),
      SettingsFile.Counts ⟨disk, "smali-xor.toml"⟩ override ∧ override.literal = some ⟨'t', 6⟩
      ∧ (run ⟨none, none⟩ ["--marker", "u", "config"] disk).code = 0
      ∧ (run ⟨none, none⟩ ["--marker", "u", "config"] disk).output
        = Config.shown ⟨⟨'u', 6⟩, ⟨".backup"⟩, ⟨[0x174a, 0x5072, 0x0000]⟩⟩ false
      ∧ (∀ command,
        SparesMarkers (runCommand ⟨none, none⟩ ⟨false, some 'u', 104857600, false⟩ command disk).1)
      ∧ ∃ failure, (runCommand ⟨none, none⟩ ⟨false, some 'a', 104857600, false⟩ (.extract "b" true)
          disk).1 = .error failure
        ∧ (failure = .refused (.invalidMarker 'a') ∨ failure.IsForNumeral) := by
  let text : String := "[literal]\nmarker = \"t\"\npad_width = 6\n"
  let disk : Disk := ⟨[(["smali-xor.toml"], .file text.toUTF8)], []⟩
  let override : Override := ⟨some ⟨'t', 6⟩, none, none⟩
  let options : GlobalOptions := ⟨false, some 'u', 104857600, false⟩
  let refused : GlobalOptions := ⟨false, some 'a', 104857600, false⟩
  have hread : disk.readText "smali-xor.toml" = .ok text := by
    simp only [disk, text]
    rfl
  have hof : Override.ofText? text = some override := by decide +kernel
  have hcounts : SettingsFile.Counts ⟨disk, "smali-xor.toml"⟩ override :=
    ⟨⟨text, hread, hof⟩, by rintro _ ⟨⟩; decide⟩
  have hload : (Config.load disk none).1 = Config.builtIn.merge override :=
    (Config.adoptFiles_fst _ _ _).trans (Config.behind_of_counts Config.hasMarker_builtIn hcounts)
  have hasked : Invocation.ofArguments ["--marker", "u", "config"]
      = some (.run options (.config false)) := by cbv
  obtain ⟨hshown, -, -, hspares, -⟩ := shownSettings_inUse ⟨none, none⟩ options disk
  obtain ⟨hcode, houtput⟩ := hshown _ _ hasked
  obtain ⟨-, -, -, -, hfails⟩ := shownSettings_inUse ⟨none, none⟩ refused disk
  have hmarker : ∀ c ∈ options.marker, IsMarker c := by
    rintro _ ⟨⟩
    decide
  have hother : ∀ json, CommandLine.Command.extract "b" true ≠ .config json := by
    rintro json ⟨⟩
  refine ⟨disk, override, hcounts, rfl, hcode, houtput.trans ?_, hspares.1 hmarker,
    hfails 'a' rfl (by decide) _ hother⟩
  rw [Config.inUse, hload]
  rfl

/-- Without any file of settings the marker `a` is shown, while no dialect has it and no other
    command takes it. -/
theorem shownSettings_refused_marker :
    run ⟨none, none⟩ ["--marker", "a", "config"] ⟨[], []⟩
      = ⟨0, "[literal]\nmarker = \"a\"\npad_width = 4\n\n[backup]\nsuffix = \".backup\"\n\n"
        ++ "[inspect]\ncandidate_keys = [\n    5962,\n    20594,\n    0,\n]\n", "", ⟨[], []⟩⟩
    ∧ Dialect.ofMarker 'a' 4 = .error (.invalidMarker 'a')
    ∧ run ⟨none, none⟩ ["--marker", "a", "encode", "A", "--key", "0"] ⟨[], []⟩
      = ⟨1, "", "error: 'a' cannot be used as a literal marker\n", ⟨[], []⟩⟩ := by
  refine ⟨?_, ?_, ?_⟩
  · rfl
  · exact dif_neg (by decide)
  · rfl

end Program

end MaskedLiterals
