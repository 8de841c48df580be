import MaskedLiterals.Proofs.ActionEnds

/-!
# What a command makes of its options

Every command has its options for one of two reasons (`Command.HeedsOptions`): it looks at the
marker alone, or it opens one file for them, maybe behind other looks at the disk.  All that it does
to the session of the file it does whatever the options are, so a command that shows something is
known by what it does with any session.
-/

namespace MaskedLiterals

open CommandLine (GlobalOptions NumeralText)

/-! ### Actions that leave the disk -/

namespace Action

variable {α β : Type} {act : Action α} {next : α → Action β} {disk : Disk} {printed : String}
variable {allowed : Disk → Prop}

/-- On this disk the action fails with nothing changed or printed, or it leaves such a disk. -/
def Leaves (act : Action α) (disk : Disk) (allowed : Disk → Prop) : Prop :=
  ∃ result after printed, act.Ends disk result after printed
    ∧ match result with
      | .ok _ => allowed after
      | .error _ => after = disk ∧ printed = ""

/-- The action leaves the disk as it is. -/
def Shows (act : Action α) (disk : Disk) : Prop := act.Leaves disk (· = disk)

theorem Prints.shows {act : Action Unit} (h : act.Prints printed) : act.Shows disk :=
  ⟨.ok (), disk, printed, h disk, rfl⟩

theorem Leaves.imp {other : Disk → Prop} (h : act.Leaves disk allowed)
    (himp : ∀ after, allowed after → other after) : act.Leaves disk other := by
  obtain ⟨result, after, printed, hends, hleft⟩ := h
  refine ⟨result, after, printed, hends, ?_⟩
  cases result with
  | ok a => exact himp after hleft
  | error failure => exact hleft

/-- Behind steps that only look it is the rest that counts. -/
theorem Looks.bind_leaves {result : Except Failure α} (h : act.Looks disk result)
    (hnext : ∀ a, result = .ok a → (next a).Leaves disk allowed) :
    (act >>= next).Leaves disk allowed := by
  cases result with
  | error failure => exact ⟨.error failure, disk, "", Ends.bind_error h, rfl, rfl⟩
  | ok a =>
    obtain ⟨result, after, printed, hrest, hleft⟩ := hnext a rfl
    exact ⟨result, after, printed, h.bind_ends hrest, hleft⟩

theorem Looks.bind_shows {result : Except Failure α} (h : act.Looks disk result)
    (hnext : ∀ a, (next a).Shows disk) : (act >>= next).Shows disk :=
  h.bind_leaves fun a _ => hnext a

/-- What the action comes to on the disk does not depend on what was printed and noted before. -/
def Settles (act : Action α) (disk : Disk) : Prop :=
  ∃ result after printed, act.Ends disk result after printed

theorem Shows.settles (h : act.Shows disk) : act.Settles disk := by
  obtain ⟨result, after, printed, hends, -⟩ := h
  exact ⟨result, after, printed, hends⟩

theorem Looks.bind_settles {result : Except Failure α} (h : act.Looks disk result)
    (hnext : ∀ a, (next a).Settles disk) : (act >>= next).Settles disk := by
  cases result with
  | error failure => exact ⟨.error failure, disk, "", Ends.bind_error h⟩
  | ok a =>
    obtain ⟨result, after, printed, hends⟩ := hnext a
    exact ⟨result, after, printed, h.bind_ends hends⟩

end Action

namespace Command

variable {settings : Config} {disk : Disk} {act : GlobalOptions → Action Unit}
variable {allowed other : Action Unit → Prop}

/-- The ways in which a command takes notice of its options, with what is known of the rest. -/
inductive HeedsOptions (settings : Config) (disk : Disk) (allowed : Action Unit → Prop) :
    (GlobalOptions → Action Unit) → Prop
  /-- Of the options only the marker matters. -/
  | marker {act : GlobalOptions → Action Unit}
      (hsame : ∀ options other, options.marker = other.marker → act options = act other)
      (hact : ∀ options, allowed (act options)) : HeedsOptions settings disk allowed act
  /-- The options are for a file that is opened. -/
  | openFile (file : String) {next : Session → Action Unit}
      (hnext : ∀ session, allowed (next session)) :
      HeedsOptions settings disk allowed fun options => openFile settings options file >>= next
  | step {α : Type} {act : Action α} {result : Except Failure α}
      {next : α → GlobalOptions → Action Unit} (hact : act.Looks disk result)
      (hnext : ∀ a, HeedsOptions settings disk allowed (next a)) :
      HeedsOptions settings disk allowed fun options => act >>= fun a => next a options

theorem HeedsOptions.imp (himp : ∀ act, allowed act → other act)
    (h : HeedsOptions settings disk allowed act) : HeedsOptions settings disk other act := by
  induction h with
  | marker hsame hact => exact .marker hsame fun options => himp _ (hact options)
  | openFile file hnext => exact .openFile file fun session => himp _ (hnext session)
  | step hact hnext ih => exact .step hact ih

/-- A command shows something if it does so of each session. -/
theorem HeedsOptions.shows (h : HeedsOptions settings disk (Action.Shows · disk) act)
    (options : GlobalOptions) : (act options).Shows disk := by
  induction h with
  | marker hsame hact => exact hact options
  | openFile file hnext => exact (looks_openFile settings options file).bind_shows hnext
  | step hact hnext ih => exact hact.bind_shows ih

/-! ### Commands that only show -/

variable {file text : String} {start keyText : NumeralText}

theorem heedsOptions_extract (json : Bool) : HeedsOptions settings disk (Action.Shows · disk)
    fun options => extract settings options file json := by
  unfold extract
  refine .openFile file fun session => ?_
  dsimp only
  split
  · exact (Action.prints_printLine _).shows
  · exact ((Action.prints_printLine _).bind
      ((Action.prints_printLine _).bind (Action.prints_printLine _))).shows

theorem heedsOptions_decode (stop : NumeralText) (verbose : Bool) :
    HeedsOptions settings disk (Action.Shows · disk) fun options =>
      decode settings options file start stop keyText verbose := by
  unfold decode
  refine .step (looks_index start) fun start => .step (looks_index stop) fun stop =>
    .step (looks_key keyText) fun key => .openFile file fun session => ?_
  refine (looks_decodeRange session start stop key).bind_shows fun decoded => ?_
  refine (Action.looks_accept decoded).bind_shows fun shown => ?_
  dsimp only
  split
  · refine (Action.looks_accept _).bind_shows fun words => ?_
    exact ((Action.prints_printLine _).bind ((Action.prints_printLine _).bind
      ((Action.prints_printLine _).bind (Action.prints_note _)))).shows
  · exact ((Action.prints_printLine _).bind (Action.prints_note _)).shows

theorem heedsOptions_encode (preview : Bool) : HeedsOptions settings disk (Action.Shows · disk)
    fun options => encode settings options text keyText preview := by
  unfold encode
  refine .step (looks_key keyText) fun key => .marker (fun options other hmarker => ?_)
    fun options => ?_
  · unfold dialect
    rw [hmarker]
  · refine (Action.looks_accept _).bind_shows fun dialect => ?_
    split
    · exact (Action.prints_printLine _).shows
    · exact (Action.prints_print _).shows

theorem heedsOptions_inspect (keyTexts : Option (List NumeralText)) (json : Bool) :
    HeedsOptions settings disk (Action.Shows · disk)
      fun options => inspect settings options file keyTexts json := by
  have hrest (keys : List Key) : HeedsOptions settings disk (Action.Shows · disk)
      (fun options => do
        let session ← openFile settings options file
        let rows := sampleTable session.dialect session.store.tokens keys
        if json then
          Action.printLine <| Json.pretty <| .object [
            ("keys", .array (keys.map fun key => .number key.toNat)),
            ("rows", .array (rows.map rowJson))]
        else
          Action.print (shownTable keys rows)) := by
    refine .openFile file fun session => ?_
    dsimp only
    split
    · exact (Action.prints_printLine _).shows
    · exact (Action.prints_print _).shows
  unfold inspect
  cases keyTexts with
  | none => exact hrest _
  | some texts => exact .step (Action.looks_mapM looks_key texts) hrest

theorem heedsOptions_config (json : Bool) : HeedsOptions settings disk (Action.Shows · disk)
    fun options => config settings options json := by
  refine .marker (fun options other hmarker => ?_) fun options => ?_
  all_goals unfold config
  · rw [hmarker]
  · dsimp only
    split
    · exact (Action.prints_printLine _).shows
    · exact (Action.prints_print _).shows

end Command

end MaskedLiterals
