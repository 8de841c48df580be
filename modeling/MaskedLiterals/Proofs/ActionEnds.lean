import MaskedLiterals.Program
import MaskedLiterals.Proofs.Outcome

/-!
# How actions end

An action is known by what it comes to on a disk: its result, the disk that it leaves and the text
that it prints (`Action.Ends`).  What was printed and noted before makes no difference to any of
these, and what is noted on the way is left open.

Most steps of a command only look: they leave the disk and print nothing, whatever their result is.
Such steps follow one another as their results do (`Looks.bind`), so a part of a command that only
looks is told by a sequence of outcomes on the disk.
-/

namespace MaskedLiterals

namespace Action

variable {α β : Type} {act : Action α} {next : α → Action β}
variable {disk middle after : Disk} {printed shown : String} {a : α} {failure : Failure}

/-- On this disk the action gives the result, leaves the second disk and prints the text, whatever
    was printed and noted before. -/
def Ends (act : Action α) (disk : Disk) (result : Except Failure α) (after : Disk)
    (printed : String) : Prop :=
  ∀ output notes, ∃ noted,
    act.run.run ⟨disk, output, notes⟩ = (result, ⟨after, output ++ printed, noted⟩)

/-- The action leaves this disk as it is and prints nothing, and this is its result. -/
def Looks (act : Action α) (disk : Disk) (result : Except Failure α) : Prop :=
  act.Ends disk result disk ""

/-- The action prints the text and does nothing else. -/
def Prints (act : Action Unit) (printed : String) : Prop :=
  ∀ disk, act.Ends disk (.ok ()) disk printed

/-! ### One step after the other -/

theorem run_bind (act : Action α) (next : α → Action β) (scene : Scene) :
    (act >>= next).run.run scene
      = match act.run.run scene with
        | (.ok a, later) => (next a).run.run later
        | (.error failure, later) => (.error failure, later) := by
  rw [ExceptT.run_bind, StateT.run_bind]
  rcases hrun : act.run.run scene with ⟨_ | _, later⟩ <;> rfl

theorem Ends.bind {result : Except Failure β} (h : act.Ends disk (.ok a) middle printed)
    (hnext : (next a).Ends middle result after shown) :
    (act >>= next).Ends disk result after (printed ++ shown) := by
  intro output notes
  obtain ⟨noted, hact⟩ := h output notes
  obtain ⟨more, hrest⟩ := hnext (output ++ printed) noted
  exact ⟨more, by rw [run_bind, hact, ← String.append_assoc]; exact hrest⟩

theorem Ends.bind_error (h : act.Ends disk (.error failure) after printed) :
    (act >>= next).Ends disk (.error failure) after printed := by
  intro output notes
  obtain ⟨noted, hact⟩ := h output notes
  exact ⟨noted, by rw [run_bind, hact]⟩

theorem Ends.bind_silent {result : Except Failure β} (h : act.Ends disk (.ok a) middle "")
    (hnext : (next a).Ends middle result after printed) :
    (act >>= next).Ends disk result after printed := by
  rw [← @String.empty_append printed]
  exact h.bind hnext

/-- Behind a step that only looks the next one does all that is done. -/
theorem Looks.bind_ends {result : Except Failure β} (h : act.Looks disk (.ok a))
    (hnext : (next a).Ends disk result after printed) :
    (act >>= next).Ends disk result after printed := Ends.bind_silent h hnext

/-- Nothing is printed by a last step that only looks. -/
theorem Ends.bind_looks {result : Except Failure β} (h : act.Ends disk (.ok a) after printed)
    (hnext : (next a).Looks after result) : (act >>= next).Ends disk result after printed := by
  rw [← @String.append_empty printed]
  exact h.bind hnext

/-- **Steps that only look follow one another as their results do.** -/
theorem Looks.bind {result : Except Failure α} {results : α → Except Failure β}
    (h : act.Looks disk result) (hnext : ∀ a, (next a).Looks disk (results a)) :
    (act >>= next).Looks disk (result >>= results) := by
  cases result with
  | ok a => exact Looks.bind_ends h (hnext a)
  | error failure => exact Ends.bind_error h

/-- What only is noted behind a step leaves it its result. -/
theorem Looks.bind_same {next : α → Action α} {result : Except Failure α}
    (h : act.Looks disk result) (hnext : ∀ a, (next a).Looks disk (.ok a)) :
    (act >>= next).Looks disk result := by
  cases result with
  | ok a => exact Looks.bind_ends h (hnext a)
  | error failure => exact Ends.bind_error h

theorem Prints.bind {act : Action Unit} {next : Unit → Action Unit} (h : act.Prints printed)
    (hnext : (next ()).Prints shown) : (act >>= next).Prints (printed ++ shown) :=
  fun disk => (h disk).bind (hnext disk)

/-! ### Single steps -/

theorem looks_pure (a : α) : Looks (pure a) disk (.ok a) :=
  fun output notes => ⟨notes, by rw [String.append_empty]; rfl⟩

theorem looks_throw (failure : Failure) : Looks (throw failure : Action α) disk (.error failure) :=
  fun output notes => ⟨notes, by rw [String.append_empty]; rfl⟩

theorem looks_disk : Looks Action.disk disk (.ok disk) :=
  fun output notes => ⟨notes, by rw [String.append_empty]; rfl⟩

theorem looks_note (note : Note) : Looks (Action.note note) disk (.ok ()) :=
  fun output notes => ⟨notes ++ [note], by rw [String.append_empty]; rfl⟩

theorem looks_log (level : LogLevel) (topic : LogTopic) (text : String) :
    Looks (Action.log level topic text) disk (.ok ()) := looks_note _

theorem looks_notice (text : String) : Looks (Action.notice text) disk (.ok ()) := looks_note _

theorem looks_attempt (result : Except FileFailure α) :
    Looks (Action.attempt result) disk (result.mapError .file) := by
  cases result with
  | ok value => exact looks_pure value
  | error failure => exact looks_throw (.file failure)

theorem looks_accept (result : Except Refusal α) :
    Looks (Action.accept result) disk (result.mapError .refused) := by
  cases result with
  | ok value => exact looks_pure value
  | error refusal => exact looks_throw (.refused refusal)

theorem ends_setDisk (disk after : Disk) : (Action.setDisk after).Ends disk (.ok ()) after "" :=
  fun output notes => ⟨notes, by rw [String.append_empty]; rfl⟩

theorem prints_print (text : String) : (Action.print text).Prints text :=
  fun _ _ notes => ⟨notes, rfl⟩

theorem prints_printLine (text : String) : (Action.printLine text).Prints (text ++ "\n") :=
  prints_print _

theorem prints_note (note : Note) : (Action.note note).Prints "" := fun _ => looks_note note

theorem looks_mapM_option {γ : Type} {step : γ → Action α} {results : γ → Except Failure α}
    (h : ∀ c, (step c).Looks disk (results c)) (item : Option γ) :
    Looks (item.mapM step) disk (item.mapM results) := by
  cases item with
  | none => exact looks_pure none
  | some c =>
    rw [Option.mapM_some, Option.mapM_some, ← bind_pure_comp, ← bind_pure_comp]
    exact (h c).bind fun a => looks_pure (some a)

theorem looks_mapM {γ : Type} {step : γ → Action α} {results : γ → Except Failure α}
    (h : ∀ c, (step c).Looks disk (results c)) (items : List γ) :
    Looks (items.mapM step) disk (items.mapM results) := by
  induction items with
  | nil => exact looks_pure []
  | cons item items ih =>
    rw [List.mapM_cons, List.mapM_cons]
    exact (h item).bind fun a => ih.bind fun rest => looks_pure (a :: rest)

end Action

/-! ### What commands have in common -/

namespace Command

open CommandLine (GlobalOptions NumeralText)

variable {disk : Disk}

def indexOf (numeral : NumeralText) : Except Failure Nat :=
  (Numeral.parseIndex numeral.base numeral.text).mapError .refused

def keyOf (numeral : NumeralText) : Except Failure Key :=
  (Numeral.parseKey numeral.base numeral.text).mapError .refused

/-- The size of a file is asked for if it may be too large and somebody is to be warned. -/
def sizeAsked (options : GlobalOptions) (file : String) (disk : Disk) : Except Failure Unit :=
  if options.force && !options.quiet then
    match disk.size file with
    | .error cause => .error (.noSize cause)
    | .ok _ => .ok ()
  else .ok ()

def opened (config : Config) (options : GlobalOptions) (file : String) (disk : Disk) :
    Except Failure Session := do
  let dialect ← (config.withMarker options.marker).dialect.mapError .refused
  sizeAsked options file disk
  (Session.ofFile disk dialect file options.sizeLimit).mapError .file

theorem looks_index (numeral : NumeralText) : (index numeral).Looks disk (indexOf numeral) :=
  Action.looks_accept _

theorem looks_key (numeral : NumeralText) : (key numeral).Looks disk (keyOf numeral) :=
  Action.looks_accept _

theorem looks_warnOfSize (options : GlobalOptions) (file : String) :
    (warnOfSize options file).Looks disk (sizeAsked options file disk) := by
  unfold warnOfSize sizeAsked
  split
  · refine Action.looks_disk.bind_ends ?_
    cases disk.size file with
    | error cause => exact Action.looks_throw _
    | ok size =>
      dsimp only
      split
      · exact Action.looks_notice _
      · exact Action.looks_pure ()
  · exact Action.looks_pure ()

theorem looks_logArray (tokens : List Token) : (logArray tokens).Looks disk (.ok ()) := by
  unfold logArray
  refine (Action.looks_log _ _ _).bind_ends ?_
  split
  · exact Action.looks_log _ _ _
  · exact Action.looks_pure ()

/-- Opening a file changes nothing. -/
theorem looks_openFile (config : Config) (options : GlobalOptions) (file : String) :
    (openFile config options file).Looks disk (opened config options file disk) := by
  unfold openFile opened
  refine (Action.looks_accept _).bind fun dialect => ?_
  refine (looks_warnOfSize options file).bind fun _ => ?_
  refine Action.looks_disk.bind_ends ?_
  refine (Action.looks_attempt _).bind_same fun session => ?_
  exact (looks_logArray _).bind_ends
    ((Action.looks_log _ _ _).bind_ends (Action.looks_pure session))

/-- A range is cut back to the array before it is decoded, which makes no difference. -/
theorem decode_min_length (session : Session) (start stop : Nat) (key : Key) :
    session.decode start (min stop session.store.length) key = session.decode start stop key := by
  unfold Session.decode ArrayStore.decode ArrayRange.decode ArrayRange.window
  rw [ArrayStore.length, ← List.take_eq_take_min]

theorem looks_decodeRange (session : Session) (start stop : Nat) (key : Key) :
    (decodeRange session start stop key).Looks disk (.ok (session.decode start stop key)) := by
  rw [← decode_min_length]
  unfold decodeRange
  dsimp only
  split
  · exact (Action.looks_log _ _ _).bind_ends (Action.looks_pure _)
  · exact Action.looks_pure _

end Command

/-! ### Runs -/

/-- Where there is no file of settings, nothing changes them. -/
theorem Config.adoptFiles_of_hasPath_eq_false {config : Config} {disk : Disk} {paths : List String}
    (h : ∀ path ∈ paths, disk.hasPath path = false) :
    config.adoptFiles disk paths = (config, []) := by
  induction paths with
  | nil => rfl
  | cons path paths ih =>
    have hfirst : config.adoptFile disk path = (config, []) := by
      unfold adoptFile
      rw [h path List.mem_cons_self]
      rfl
    have hrest := ih fun other hother => h other (List.mem_cons_of_mem path hother)
    rw [adoptFiles, hfirst]
    dsimp only
    rw [hrest]
    rfl

namespace Program

variable {surroundings : Surroundings} {arguments : List String} {disk after : Disk}
variable {options : CommandLine.GlobalOptions} {command : CommandLine.Command}

theorem runCommand_eq : runCommand surroundings options command disk
    = (action (Config.load disk surroundings.userDirectory).1 options command).run.run
      ⟨disk, "", (Config.load disk surroundings.userDirectory).2.map .entry⟩ := rfl

/-- A run ends as the command does that the arguments ask for. -/
theorem run_of_ends {result : Except Failure Unit} {printed : String}
    (hasked : CommandLine.Invocation.ofArguments arguments = some (.run options command))
    (hends : (action (Config.load disk surroundings.userDirectory).1 options command).Ends disk
      result after printed) :
    (run surroundings arguments disk).code = (if result.isOk then 0 else 1)
      ∧ (run surroundings arguments disk).output = printed
      ∧ (run surroundings arguments disk).disk = after := by
  obtain ⟨noted, hrun⟩ := hends "" ((Config.load disk surroundings.userDirectory).2.map .entry)
  rw [← runCommand_eq, String.empty_append] at hrun
  unfold run
  rw [hasked]
  dsimp only
  rw [hrun]
  cases result <;> exact ⟨rfl, rfl, rfl⟩

end Program

end MaskedLiterals
