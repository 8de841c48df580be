import MaskedLiterals.Proofs.CommandOptions
import MaskedLiterals.Proofs.DryRun
import MaskedLiterals.Proofs.LeadingFlags

/-!
# Options that change no result

What is shown of the log and of the notices, and how the size of a file is held against its limit,
makes no difference to what a run comes to (`run_alike`).

A command has its options for a marker or for one file (`Command.HeedsOptions`), so two runs can
part only where the file is opened.  There a file of unknown size is refused by one run for its size
and by the other for its text, and this is all: a file that is read has a size.
-/

namespace MaskedLiterals

open CommandLine (GlobalOptions NumeralText Invocation)

/-! ### Actions that end alike -/

namespace Action

variable {α : Type} {act other : Action Unit} {first : Action α} {next nextOther : α → Action Unit}
variable {disk after : Disk} {result : Except Failure α}

/-- On this disk both actions succeed or both fail, they leave the same disk and print the same. -/
def EndsAlike (act other : Action Unit) (disk : Disk) : Prop :=
  ∃ result otherResult after printed, act.Ends disk result after printed
    ∧ other.Ends disk otherResult after printed ∧ result.isOk = otherResult.isOk

theorem run_bind_of_run {β : Type} {next : α → Action β} {a : α} {scene later : Scene}
    (h : first.run.run scene = (.ok a, later)) :
    (first >>= next).run.run scene = (next a).run.run later := by
  rw [run_bind, h]

theorem Settles.endsAlike (h : act.Settles disk) : act.EndsAlike act disk := by
  obtain ⟨result, after, printed, hends⟩ := h
  exact ⟨result, result, after, printed, hends, hends, rfl⟩

theorem Looks.endsAlike_of_error {failure otherFailure : Failure}
    (h : act.Looks disk (.error failure)) (hother : other.Looks disk (.error otherFailure)) :
    act.EndsAlike other disk :=
  ⟨.error failure, .error otherFailure, disk, "", h, hother, rfl⟩

/-- Behind steps that find the same, it is the rest that counts. -/
theorem Looks.bind_endsAlike {second : Action α} (h : first.Looks disk result)
    (hsecond : second.Looks disk result) (hnext : ∀ a, (next a).EndsAlike (nextOther a) disk) :
    (first >>= next).EndsAlike (second >>= nextOther) disk := by
  cases result with
  | error failure => exact Looks.endsAlike_of_error (Ends.bind_error h) (Ends.bind_error hsecond)
  | ok a =>
    obtain ⟨result, otherResult, after, printed, hends, hother, hsame⟩ := hnext a
    exact ⟨result, otherResult, after, printed, h.bind_ends hends, hsecond.bind_ends hother, hsame⟩

end Action

/-! ### Options -/

def CommandLine.GlobalOptions.withQuiet (quiet : Bool) (options : GlobalOptions) : GlobalOptions :=
  { options with quiet }

def CommandLine.GlobalOptions.forced (options : GlobalOptions) : GlobalOptions :=
  { options with force := true }

def CommandLine.GlobalOptions.unlimited (options : GlobalOptions) : GlobalOptions :=
  { options with force := false, maxSize := 0 }

def CommandLine.Invocation.mapOptions (change : GlobalOptions → GlobalOptions) :
    Invocation → Invocation
  | .run options command => .run (change options) command
  | .help => .help
  | .version => .version

theorem Session.not_large_of_checkSize {disk : Disk} {path : String} {limit size : Nat}
    (hsize : disk.size path = .ok size) (h : checkSize disk path limit = .ok ()) :
    ¬ (0 < limit ∧ limit < size) := by
  rintro ⟨hpos, hlarge⟩
  rcases checkSize_eq_ok_iff.1 h with hzero | ⟨other, hother, hle⟩
  · exact absurd hzero hpos.ne'
  · obtain rfl := Except.ok.inj (hsize.symm.trans hother)
    exact absurd hlarge (Nat.not_lt_of_le hle)

namespace Command

variable {settings : Config} {options other : GlobalOptions} {file : String} {disk : Disk}
variable {session : Session} {act : GlobalOptions → Action Unit}

/-! ### One file -/

/-- Whether a file is opened is for the marker and the limit to say. -/
theorem opened_eq_ok_iff : opened settings options file disk = .ok session
    ↔ ∃ dialect, (settings.withMarker options.marker).dialect = .ok dialect
      ∧ Session.ofFile disk dialect file options.sizeLimit = .ok session := by
  unfold opened
  rw [bind_eq_ok_iff]
  constructor
  · rintro ⟨dialect, hdialect, hrest⟩
    obtain ⟨_, -, hfile⟩ := bind_eq_ok_iff.1 hrest
    exact ⟨dialect, mapError_eq_ok_iff.1 hdialect, mapError_eq_ok_iff.1 hfile⟩
  · rintro ⟨dialect, hdialect, hfile⟩
    obtain ⟨-, source, -, hread, -⟩ := Session.ofFile_eq_ok_iff.1 hfile
    have hsize : sizeAsked options file disk = .ok () := by
      unfold sizeAsked
      rw [Disk.size_of_readText hread]
      split <;> rfl
    exact ⟨dialect, mapError_eq_ok_iff.2 hdialect,
      bind_eq_ok_iff.2 ⟨(), hsize, mapError_eq_ok_iff.2 hfile⟩⟩

theorem opened_eq_ok_of_alike (hmarker : options.marker = other.marker)
    (hlimit : options.sizeLimit = other.sizeLimit)
    (h : opened settings options file disk = .ok session) :
    opened settings other file disk = .ok session := by
  rw [opened_eq_ok_iff, ← hmarker, ← hlimit]
  exact opened_eq_ok_iff.1 h

/-- A file that is opened is within the limit, so nobody is warned of it when it is opened by
    force. -/
theorem run_warnOfSize_forced {scene : Scene}
    (h : opened settings options file scene.disk = .ok session) (hforce : options.force = false) :
    (warnOfSize options.forced file).run.run scene = (.ok (), scene) := by
  obtain ⟨dialect, -, hfile⟩ := opened_eq_ok_iff.1 h
  obtain ⟨hlimit, source, -, hread, -⟩ := Session.ofFile_eq_ok_iff.1 hfile
  have hsize := Disk.size_of_readText hread
  have hmax : options.sizeLimit = options.maxSize := by
    unfold GlobalOptions.sizeLimit
    rw [hforce]
    rfl
  have hwithin : ¬ (0 < options.forced.maxSize ∧ options.forced.maxSize < source.toUTF8.size) :=
    Session.not_large_of_checkSize hsize (hmax ▸ hlimit)
  have hlook : Action.disk.run.run scene = (.ok scene.disk, scene) := rfl
  unfold warnOfSize
  split
  · rw [Action.run_bind_of_run hlook, hsize]
    dsimp only
    rw [if_neg hwithin]
    rfl
  · rfl

/-- A file that is opened is opened in the same way by force, and the same is noted of it. -/
theorem run_openFile_forced {scene : Scene}
    (h : opened settings options file scene.disk = .ok session) :
    (openFile settings options.forced file).run.run scene
      = (openFile settings options file).run.run scene := by
  cases hforce : options.force with
  | true =>
    have hsame : options.forced = options := by
      cases options
      cases hforce
      rfl
    rw [hsame]
  | false =>
    obtain ⟨chosen, hdialect, hfile⟩ := opened_eq_ok_iff.1 h
    have hwarned := run_warnOfSize_forced h hforce
    have hfileForced : Session.ofFile scene.disk chosen file options.forced.sizeLimit
        = .ok session := by
      obtain ⟨-, source, tokens, hread, hparse, rfl⟩ := Session.ofFile_eq_ok_iff.1 hfile
      exact Session.ofFile_eq_ok_iff.2 ⟨rfl, source, tokens, hread, hparse, rfl⟩
    have hsilent : (warnOfSize options file).run.run scene = (.ok (), scene) := by
      unfold warnOfSize
      rw [hforce]
      rfl
    have hmade : (dialect settings options).run.run scene = (.ok chosen, scene) := by
      rw [dialect, hdialect]
      rfl
    have hmadeForced : (dialect settings options.forced).run.run scene = (.ok chosen, scene) :=
      hmade
    have hlook : Action.disk.run.run scene = (.ok scene.disk, scene) := rfl
    unfold openFile
    rw [Action.run_bind_of_run hmade, Action.run_bind_of_run hmadeForced,
      Action.run_bind_of_run hwarned, Action.run_bind_of_run hsilent, Action.run_bind_of_run hlook,
      Action.run_bind_of_run hlook, hfile, hfileForced]

/-! ### What a command makes of its options -/

/-- The induction is on the steps up to the file, which are the same for all options. -/
theorem HeedsOptions.endsAlike (h : HeedsOptions settings disk (Action.Settles · disk) act)
    (hmarker : options.marker = other.marker) (hlimit : options.sizeLimit = other.sizeLimit) :
    (act options).EndsAlike (act other) disk := by
  induction h with
  | marker hsame hact =>
    rw [hsame options other hmarker]
    exact (hact other).endsAlike
  | openFile file hnext =>
    have hlooks := @looks_openFile disk settings options file
    have hlooksOther := @looks_openFile disk settings other file
    -- the causes of a failure may differ, so only success is carried from one side to the other
    cases hopened : opened settings options file disk with
    | ok session =>
      rw [hopened] at hlooks
      rw [opened_eq_ok_of_alike hmarker hlimit hopened] at hlooksOther
      exact hlooks.bind_endsAlike hlooksOther fun session => (hnext session).endsAlike
    | error failure =>
      cases hother : opened settings other file disk with
      | ok session =>
        rw [opened_eq_ok_of_alike hmarker.symm hlimit.symm hother] at hopened
        cases hopened
      | error otherFailure =>
        rw [hopened] at hlooks
        rw [hother] at hlooksOther
        exact Action.Looks.endsAlike_of_error (Action.Ends.bind_error hlooks)
          (Action.Ends.bind_error hlooksOther)
  | step hact hnext ih => exact hact.bind_endsAlike hact ih

/-- A command that succeeds does the same by force, and notes the same. -/
theorem HeedsOptions.run_forced (h : HeedsOptions settings disk (Action.Settles · disk) act)
    {output : String} {notes : List Note} {later : Scene}
    (hrun : (act options).run.run ⟨disk, output, notes⟩ = (.ok (), later)) :
    (act options.forced).run.run ⟨disk, output, notes⟩ = (.ok (), later) := by
  induction h generalizing output notes with
  | marker hsame hact => rwa [hsame options.forced options rfl]
  | openFile file hnext =>
    obtain ⟨noted, hopen⟩ := looks_openFile settings options file output notes
    cases hopened : opened settings options file disk with
    | error failure =>
      rw [Action.run_bind, hopen, hopened] at hrun
      cases hrun
    | ok session =>
      have hsame := @run_openFile_forced settings options file session ⟨disk, output, notes⟩ hopened
      rwa [Action.run_bind, hsame, ← Action.run_bind]
  | @step _ _ result _ hact hnext ih =>
    -- the look leaves its notes on both sides, and the rest goes on from there
    obtain ⟨noted, hlook⟩ := hact output notes
    rw [Action.run_bind, hlook] at hrun ⊢
    cases result with
    | error failure => cases hrun
    | ok a => exact ih a hrun

/-! ### Every command -/

variable {output text : String} {start keyText : NumeralText}

theorem heedsOptions_edit (stop : Option NumeralText) (dryRun : Bool) :
    HeedsOptions settings disk (Action.Settles · disk) fun options =>
      edit settings options file start stop keyText text dryRun := by
  unfold edit
  refine .step (looks_index start) fun start =>
    .step (Action.looks_mapM_option looks_index stop) fun stop =>
    .step (looks_key keyText) fun key => .openFile file fun session => ?_
  have hrest : Action.Settles (do
      Action.notice ("Preview: " ++ session.preview text key)
      let edited ← editSession session start text key
      finishEdit settings.backup.suffix ⟨start, edited.1, edited.2⟩ dryRun) disk :=
    Action.Looks.bind_settles (Action.looks_notice _) fun _ =>
      (looks_editSession session start text key).bind_settles fun edited =>
        exists_ends_finishEdit settings.backup.suffix ⟨start, edited.1, edited.2⟩ dryRun disk
  -- the end of the range is looked at before the rest, if there is one
  cases stop with
  | none => cases dryRun <;> exact hrest
  | some stop =>
    refine (looks_showCurrent session start stop key).bind_settles fun _ => ?_
    cases dryRun <;> exact hrest

theorem heedsOptions_writeListing :
    HeedsOptions settings disk (Action.Settles · disk)
      fun options => writeListing settings options file output := by
  unfold writeListing
  refine .openFile file fun session => Action.looks_disk.bind_settles fun found => ?_
  refine (Action.looks_attempt _).bind_settles fun after => ?_
  exact ⟨.ok (), after, "", (Action.ends_setDisk disk after).bind_silent
    ((Action.looks_log _ _ _).bind_ends (Action.looks_notice _))⟩

/-- Whatever the command is, its options are for its file or its marker. -/
theorem heedsOptions_action (command : CommandLine.Command) :
    HeedsOptions settings disk (Action.Settles · disk)
      fun options => Program.action settings options command := by
  have hshows {act : GlobalOptions → Action Unit}
      (h : HeedsOptions settings disk (Action.Shows · disk) act) :
      HeedsOptions settings disk (Action.Settles · disk) act := h.imp fun _ => Action.Shows.settles
  cases command with
  | extract file json => exact hshows (heedsOptions_extract json)
  | decode file start stop key verbose => exact hshows (heedsOptions_decode stop verbose)
  | encode text key preview => exact hshows (heedsOptions_encode preview)
  | edit file start stop key text dryRun => exact heedsOptions_edit stop dryRun
  | inspect file keys json => exact hshows (heedsOptions_inspect keys json)
  | writeListing file output => exact heedsOptions_writeListing
  | config json => exact hshows (heedsOptions_config json)

end Command

/-! ### Runs -/

structure Outcome.EndsAs (outcome other : Outcome) : Prop where
  code_eq : outcome.code = other.code
  output_eq : outcome.output = other.output
  disk_eq : outcome.disk = other.disk

namespace Program

variable {arguments other : List String} {disk : Disk}
variable {directory filter otherFilter : Option String}
variable {change otherChange : GlobalOptions → GlobalOptions} {asked : Option Invocation}

/-- Runs for the same command end alike if their options agree on the marker and on the limit. -/
theorem endsAs_of_options
    (hmarker : ∀ options, (change options).marker = (otherChange options).marker)
    (hlimit : ∀ options, (change options).sizeLimit = (otherChange options).sizeLimit)
    (hasked : Invocation.ofArguments arguments = asked.map (·.mapOptions change))
    (hother : Invocation.ofArguments other = asked.map (·.mapOptions otherChange)) :
    (run ⟨filter, directory⟩ arguments disk).EndsAs (run ⟨otherFilter, directory⟩ other disk) := by
  rcases asked with _ | _ | _ | _
  · unfold run
    rw [hasked, hother]
    exact ⟨rfl, rfl, rfl⟩
  · next options command =>
    have hheeds := @Command.heedsOptions_action (Config.load disk directory).1 disk command
    obtain ⟨result, otherResult, after, printed, hends, hendsOther, hsame⟩ :=
      hheeds.endsAlike (hmarker options) (hlimit options)
    obtain ⟨hcode, houtput, hdisk⟩ := @run_of_ends ⟨filter, directory⟩ _ _ _ _ _ _ _ hasked hends
    obtain ⟨hcodeOther, houtputOther, hdiskOther⟩ :=
      @run_of_ends ⟨otherFilter, directory⟩ _ _ _ _ _ _ _ hother hendsOther
    refine ⟨?_, houtput.trans houtputOther.symm, hdisk.trans hdiskOther.symm⟩
    rw [hcode, hcodeOther, hsame]
  · unfold run
    rw [hasked, hother]
    exact ⟨rfl, rfl, rfl⟩
  · unfold run
    rw [hasked, hother]
    exact ⟨rfl, rfl, rfl⟩

/-- A run that succeeds is the same by force, with all that is shown of it. -/
theorem run_eq_of_forced {surroundings : Surroundings}
    (hother : Invocation.ofArguments other
      = (Invocation.ofArguments arguments).map (·.mapOptions GlobalOptions.forced))
    (hcode : (run surroundings arguments disk).code = 0) :
    run surroundings other disk = run surroundings arguments disk := by
  rcases hasked : Invocation.ofArguments arguments with _ | ⟨options, command⟩ | _ | _
  all_goals rw [hasked] at hother
  all_goals unfold run at hcode ⊢
  all_goals rw [hasked] at hcode
  all_goals rw [hasked, hother]
  · rfl
  · rcases hrun : runCommand surroundings options command disk with ⟨_ | ⟨⟨⟩⟩, scene⟩
    · dsimp only at hcode
      rw [hrun] at hcode
      cases hcode
    · have hforced : runCommand surroundings options.forced command disk = (.ok (), scene) := by
        rw [runCommand_eq] at hrun ⊢
        exact (Command.heedsOptions_action command).run_forced hrun
      dsimp only [Option.map_some, Invocation.mapOptions]
      rw [hrun, hforced]
      rfl
  · rfl
  · rfl

/-- **Neither quiet, nor the filter for the log, nor force with any limit changes what a run comes
    to.**  Runs for the same command that differ in quiet and in the filter alone end alike; a run
    by force ends as one without a limit; and a run that succeeds is by force the same, to the last
    message.  So it is with `--quiet` or `--force` in front of the arguments. -/
theorem run_alike (directory : Option String) (disk : Disk) :
    (∀ (asked : Option Invocation) arguments other quiet otherQuiet filter otherFilter,
      Invocation.ofArguments arguments = asked.map (·.mapOptions (.withQuiet quiet)) →
      Invocation.ofArguments other = asked.map (·.mapOptions (.withQuiet otherQuiet)) →
      (run ⟨filter, directory⟩ arguments disk).EndsAs (run ⟨otherFilter, directory⟩ other disk))
    ∧ (∀ (asked : Option Invocation) arguments other filter,
      Invocation.ofArguments arguments = asked.map (·.mapOptions .forced) →
      Invocation.ofArguments other = asked.map (·.mapOptions .unlimited) →
      (run ⟨filter, directory⟩ arguments disk).EndsAs (run ⟨filter, directory⟩ other disk))
    ∧ (∀ arguments other filter,
      Invocation.ofArguments other = (Invocation.ofArguments arguments).map (·.mapOptions .forced) →
      (run ⟨filter, directory⟩ arguments disk).code = 0 →
      run ⟨filter, directory⟩ other disk = run ⟨filter, directory⟩ arguments disk)
    ∧ ∀ arguments options command filter otherFilter,
      Invocation.ofArguments arguments = some (.run options command) →
      (options.quiet = false → (run ⟨otherFilter, directory⟩ ("--quiet" :: arguments) disk).EndsAs
          (run ⟨filter, directory⟩ arguments disk))
      ∧ (options.force = false → (run ⟨filter, directory⟩ arguments disk).code = 0 →
        run ⟨filter, directory⟩ ("--force" :: arguments) disk
          = run ⟨filter, directory⟩ arguments disk) := by
  refine ⟨fun asked arguments other quiet otherQuiet filter otherFilter => ?_,
    fun asked arguments other filter => ?_,
    fun arguments other filter hother hcode => run_eq_of_forced hother hcode,
    fun arguments options command filter otherFilter hasked => ⟨fun hquiet => ?_,
      fun hforce hcode => ?_⟩⟩
  · exact endsAs_of_options (fun _ => rfl) fun _ => rfl
  · exact endsAs_of_options (fun _ => rfl) fun _ => rfl
  · have hcons := Invocation.ofArguments_quiet_cons hasked hquiet
    exact @endsAs_of_options _ _ disk directory _ _ (.withQuiet true) id
      (some (.run options command)) (fun _ => rfl) (fun _ => rfl) hcons hasked
  · refine run_eq_of_forced ?_ hcode
    rw [hasked]
    exact Invocation.ofArguments_force_cons hasked hforce

/-- A file of four octets, listed with a limit of one octet by force, with no limit, quietly, and as
    it is listed by itself. -/
theorem run_alike_four_octets :
    ∃ (disk : Disk) (outcome : Outcome),
      run ⟨none, none⟩ ["extract", "a"] disk = outcome ∧ outcome.code = 0
      ∧ run ⟨none, none⟩ ["extract", "a", "--force"] disk = outcome
      ∧ run ⟨none, none⟩ ["--force", "extract", "a"] disk = outcome
      ∧ (run ⟨some "trace", none⟩ ["extract", "a", "-q"] disk).EndsAs outcome
      ∧ (run ⟨some "trace", none⟩ ["--quiet", "extract", "a"] disk).EndsAs outcome
      ∧ (run ⟨none, none⟩ ["extract", "a", "--force", "--max-size", "1"] disk).EndsAs
        (run ⟨none, none⟩ ["extract", "a", "--max-size", "0"] disk) := by
  let disk : Disk := ⟨[(["a"], .file "0x5s".toUTF8)], []⟩
  let options : GlobalOptions := ⟨false, none, 104857600, false⟩
  let command : CommandLine.Command := .extract "a" false
  have hasked : Invocation.ofArguments ["extract", "a"] = some (.run options command) := by cbv
  have hquiet : Invocation.ofArguments ["extract", "a", "-q"]
      = some (.run (options.withQuiet true) command) := by cbv
  have hforced : Invocation.ofArguments ["extract", "a", "--force"]
      = some (.run options.forced command) := by cbv
  have hlimited : Invocation.ofArguments ["extract", "a", "--force", "--max-size", "1"]
      = some (.run ⟨false, none, 1, true⟩ command) := by cbv
  have hunlimited : Invocation.ofArguments ["extract", "a", "--max-size", "0"]
      = some (.run ⟨false, none, 0, false⟩ command) := by cbv
  have hnone : disk.hasPath "smali-xor.toml" = false := by
    simp only [disk]
    decide +kernel
  have hload : Config.load disk none = (.builtIn, []) :=
    Config.adoptFiles_of_hasPath_eq_false (by simpa [Config.paths] using hnone)
  have hopened : Command.opened .builtIn options "a" disk
      = .ok ⟨some "a", "0x5s", ⟨[⟨"0x5s"⟩]⟩, .smaliShort⟩ := by cbv
  have hlooks := @Command.looks_openFile disk .builtIn options "a"
  rw [hopened] at hlooks
  obtain ⟨printed, hends⟩ : ∃ printed,
      (action (Config.load disk none).1 options command).Ends disk (.ok ()) disk printed := by
    rw [hload]
    exact ⟨_, hlooks.bind_ends (((Action.prints_printLine _).bind
      ((Action.prints_printLine _).bind (Action.prints_printLine _))) disk)⟩
  have hcode := (@run_of_ends ⟨none, none⟩ _ _ _ _ _ _ _ hasked hends).1
  obtain ⟨hquietly, hfreely, hforcibly, hcons⟩ := run_alike none disk
  have hfront := hcons _ _ _ none (some "trace") hasked
  refine ⟨disk, _, rfl, hcode, ?_, hfront.2 rfl hcode, ?_, hfront.1 rfl, ?_⟩
  · exact hforcibly _ _ none (by rw [hasked, hforced]; rfl) hcode
  · exact hquietly (some (.run options command)) _ _ true false _ _ hquiet hasked
  · exact hfreely (some (.run ⟨false, none, 1, false⟩ command)) _ _ none hlimited hunlimited

end Program

end MaskedLiterals
