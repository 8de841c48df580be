import MaskedLiterals.CommandLine.Invocation
import MaskedLiterals.Proofs.Outcome

/-!
# Flags in front of a command line

A flag that concerns every command may be put in front of arguments in which it does not stand yet,
and then it is set and all else is read as before (`Invocation.ofArguments_quiet_cons`,
`Invocation.ofArguments_force_cons`).

Options are only ever added behind those that were given before, so an option that was not given by
the end was not given on the way.  A flag in front therefore is in nobody's way: each step of the
reading does behind it what it does without it (`Given.add_behind`).
-/

namespace MaskedLiterals.CommandLine

variable {flag opt : Opt} {given later : Given} {allowed : List Opt} {expected : Operand}
variable {waiting after : Option Opt}

namespace Given

def behind (flag : Opt) (given : Given) : Given :=
  { given with options := (flag, "") :: given.options }

theorem has_behind (h : flag ≠ opt) : (given.behind flag).has opt = given.has opt := by
  simp [has, behind, h]

theorem add_behind {value : String} (h : given.add opt value = .ok later)
    (hflag : later.has flag = false) :
    given.has flag = false ∧ (given.behind flag).add opt value = .ok (later.behind flag) := by
  unfold add at h
  split at h
  · cases h
  · split at h
    · cases h
    · split at h
      · cases h
      · next hhelp hversion hright =>
        cases h
        rw [has, List.any_append, Bool.or_eq_false_iff] at hflag
        obtain ⟨hgiven, hopt⟩ := hflag
        have hne : flag ≠ opt := by
          rintro rfl
          simp at hopt
        refine ⟨hgiven, ?_⟩
        rw [add, if_neg hhelp, if_neg hversion, has_behind hne, if_neg hright]
        rfl

theorem map_add_behind {value : String}
    (h : (given.add opt value).map (·, (none : Option Opt)) = .ok (later, after))
    (hflag : later.has flag = false) :
    given.has flag = false
      ∧ ((given.behind flag).add opt value).map (·, none) = .ok (later.behind flag, after) := by
  obtain ⟨added, hadd, hsame⟩ := map_eq_ok_iff.1 h
  cases hsame
  obtain ⟨hgiven, hbehind⟩ := add_behind hadd hflag
  exact ⟨hgiven, map_eq_ok_iff.2 ⟨_, hbehind, rfl⟩⟩

theorem addOperand_behind {value : String} (h : given.addOperand expected value = .ok later)
    (hflag : later.has flag = false) :
    given.has flag = false
      ∧ (given.behind flag).addOperand expected value = .ok (later.behind flag) := by
  unfold addOperand at h ⊢
  split at h
  · cases h
  · next hfree =>
    cases h
    exact ⟨hflag, if_neg hfree⟩

theorem foldlM_addOperand_behind {values : List String}
    (h : values.foldlM (fun (given : Given) => given.addOperand expected) given = .ok later)
    (hflag : later.has flag = false) :
    given.has flag = false
      ∧ values.foldlM (fun (given : Given) => given.addOperand expected) (given.behind flag)
        = .ok (later.behind flag) := by
  induction values generalizing given with
  | nil =>
    cases h
    exact ⟨hflag, rfl⟩
  | cons value values ih =>
    rw [List.foldlM_cons] at h ⊢
    obtain ⟨middle, hadd, hrest⟩ := bind_eq_ok_iff.1 h
    obtain ⟨hmiddle, hbehind⟩ := ih hrest
    obtain ⟨hgiven, hadded⟩ := addOperand_behind hadd hmiddle
    exact ⟨hgiven, bind_eq_ok_iff.2 ⟨_, hadded, hbehind⟩⟩

end Given

theorem readNamed_behind {name : String} {value : Option String}
    (h : readNamed allowed given name value = .ok (later, after)) (hflag : later.has flag = false) :
    given.has flag = false
      ∧ readNamed allowed (given.behind flag) name value = .ok (later.behind flag, after) := by
  unfold readNamed at h ⊢
  cases hopt : allowed.find? (·.name = name) with
  | none =>
    rw [hopt] at h
    cases h
  | some opt =>
    rw [hopt] at h
    dsimp only at h ⊢
    split at h
    · exact Given.map_add_behind h hflag
    · cases h
      exact ⟨hflag, rfl⟩
    · cases h
    · exact Given.map_add_behind h hflag

theorem readLetters_behind {characters : List Char}
    (h : readLetters allowed given characters = .ok (later, after))
    (hflag : later.has flag = false) :
    given.has flag = false
      ∧ readLetters allowed (given.behind flag) characters = .ok (later.behind flag, after) := by
  induction characters generalizing given with
  | nil =>
    cases h
    exact ⟨hflag, rfl⟩
  | cons c characters ih =>
    rw [readLetters] at h ⊢
    cases hopt : allowed.find? (·.letter? = some c) with
    | none =>
      rw [hopt] at h
      cases h
    | some opt =>
      rw [hopt] at h
      dsimp only at h ⊢
      split at h
      · next htakes =>
        rw [if_pos htakes]
        split at h
        · cases h
          exact ⟨hflag, rfl⟩
        · exact Given.map_add_behind h hflag
        · exact Given.map_add_behind h hflag
      · next htakes =>
        rw [if_neg htakes]
        obtain ⟨middle, hadd, hrest⟩ := bind_eq_ok_iff.1 h
        obtain ⟨hmiddle, hbehind⟩ := ih hrest
        obtain ⟨hgiven, hadded⟩ := Given.add_behind hadd hmiddle
        exact ⟨hgiven, bind_eq_ok_iff.2 ⟨_, hadded, hbehind⟩⟩

/-- **Arguments are read behind a flag as they are without it**, if it does not stand among them. -/
theorem readArguments_behind {arguments rest : List String}
    (h : readArguments allowed expected given waiting arguments = .ok (later, rest))
    (hflag : later.has flag = false) :
    given.has flag = false
      ∧ readArguments allowed expected (given.behind flag) waiting arguments
        = .ok (later.behind flag, rest) := by
  induction arguments generalizing given waiting with
  | nil =>
    unfold readArguments at h ⊢
    cases waiting with
    | some opt => cases h
    | none =>
      cases h
      exact ⟨hflag, rfl⟩
  | cons argument arguments ih =>
    unfold readArguments at h ⊢
    cases hform : Argument.ofText argument with
    | plain text =>
      rw [hform] at h
      cases waiting with
      | some opt =>
        obtain ⟨middle, hadd, hrest⟩ := bind_eq_ok_iff.1 h
        obtain ⟨hmiddle, hbehind⟩ := ih hrest
        obtain ⟨hgiven, hadded⟩ := Given.add_behind hadd hmiddle
        exact ⟨hgiven, bind_eq_ok_iff.2 ⟨_, hadded, hbehind⟩⟩
      | none =>
        obtain ⟨middle, hadd, hrest⟩ := bind_eq_ok_iff.1 h
        -- behind the name of a command nothing more is read here
        split at hrest
        · next hcommand =>
          cases hrest
          obtain ⟨hgiven, hadded⟩ := Given.addOperand_behind hadd hflag
          exact ⟨hgiven, bind_eq_ok_iff.2 ⟨_, hadded, if_pos hcommand⟩⟩
        · next hcommand =>
          obtain ⟨hmiddle, hbehind⟩ := ih hrest
          obtain ⟨hgiven, hadded⟩ := Given.addOperand_behind hadd hmiddle
          exact ⟨hgiven, bind_eq_ok_iff.2 ⟨_, hadded, (if_neg hcommand).trans hbehind⟩⟩
    | terminator =>
      rw [hform] at h
      cases waiting with
      | some opt => cases h
      | none =>
        dsimp only at h ⊢
        split at h
        · cases h
        · next hcommand =>
          rw [if_neg hcommand]
          obtain ⟨added, hadd, hsame⟩ := map_eq_ok_iff.1 h
          cases hsame
          obtain ⟨hgiven, hadded⟩ := Given.foldlM_addOperand_behind hadd hflag
          exact ⟨hgiven, map_eq_ok_iff.2 ⟨_, hadded, rfl⟩⟩
    | named name value =>
      rw [hform] at h
      cases waiting with
      | some opt => cases h
      | none =>
        obtain ⟨⟨middle, next⟩, hadd, hrest⟩ := bind_eq_ok_iff.1 h
        obtain ⟨hmiddle, hbehind⟩ := ih hrest
        obtain ⟨hgiven, hadded⟩ := readNamed_behind hadd hmiddle
        exact ⟨hgiven, bind_eq_ok_iff.2 ⟨_, hadded, hbehind⟩⟩
    | letters characters =>
      rw [hform] at h
      cases waiting with
      | some opt => cases h
      | none =>
        obtain ⟨⟨middle, next⟩, hadd, hrest⟩ := bind_eq_ok_iff.1 h
        obtain ⟨hmiddle, hbehind⟩ := ih hrest
        obtain ⟨hgiven, hadded⟩ := readLetters_behind hadd hmiddle
        exact ⟨hgiven, bind_eq_ok_iff.2 ⟨_, hadded, hbehind⟩⟩

namespace Invocation

variable {options : GlobalOptions} {command : Command} {arguments : List String}

def outerOptions : List Opt := globalOptions ++ [.help, .version]

/-- Arguments that ask for a command have its name, what stands before it and what stands behind. -/
theorem ofArguments_eq_run_iff : ofArguments arguments = some (.run options command)
    ↔ ∃ outer behind word name inner rest,
      readArguments outerOptions .command .empty none arguments = .ok (outer, behind)
      ∧ outer.operand = some word ∧ CommandName.ofWord? word = some name
      ∧ readArguments (globalOptions ++ [.help] ++ name.options) name.operand .empty none behind
        = .ok (inner, rest)
      ∧ command? inner name = some command ∧ globalsOf outer inner = options := by
  have hread : ofArguments arguments = some (.run options command)
      ↔ read arguments = .ok (.run options command) := by
    unfold ofArguments
    cases read arguments with
    | ok invocation => simp
    | error halt => cases halt <;> simp
  rw [hread, read, bind_eq_ok_iff]
  constructor
  · rintro ⟨⟨outer, behind⟩, houter, h⟩
    dsimp only at h
    split at h
    · cases h
    · next hhelp =>
      unfold ofHelp at h
      split at h <;> first | cases h | split at h <;> cases h
    · next word hword hoperand =>
      split at h
      · next name hname =>
        obtain ⟨⟨inner, rest⟩, hinner, h⟩ := bind_eq_ok_iff.1 h
        dsimp only at h
        split at h
        · next hcommand =>
          cases h
          exact ⟨outer, behind, word, name, inner, rest, houter, hoperand, hname, hinner, hcommand,
            rfl⟩
        · cases h
      · cases h
  · rintro ⟨outer, behind, word, name, inner, rest, houter, hoperand, hname, hinner, hcommand, rfl⟩
    refine ⟨(outer, behind), houter, ?_⟩
    have hof : ofCommand outer name behind = .ok (.run (globalsOf outer inner) command) := by
      refine bind_eq_ok_iff.2 ⟨(inner, rest), hinner, ?_⟩
      dsimp only
      rw [hcommand]
    -- the word for help names no command, so it is not the one that was read
    have hword : word ≠ "help" := by
      rintro rfl
      cases hname
    dsimp only
    split
    · next hnone => cases hoperand.symm.trans hnone
    · next hhelp => exact absurd (Option.some.inj (hoperand.symm.trans hhelp)) hword
    · next other _ hother =>
      obtain rfl := Option.some.inj (hoperand.symm.trans hother)
      rw [hname]
      exact hof

theorem readArguments_cons_flag {argument : String}
    (hform : Argument.ofText argument = .named flag.name none)
    (hnamed : readNamed outerOptions .empty flag.name none = .ok (Given.empty.behind flag, none))
    (arguments : List String) :
    readArguments outerOptions .command .empty none (argument :: arguments)
      = readArguments outerOptions .command (Given.empty.behind flag) none arguments := by
  rw [readArguments.eq_def]
  dsimp only
  rw [hform]
  dsimp only
  rw [hnamed]
  rfl

/-- A command is asked for with a flag in front as it is without it. -/
theorem exists_ofArguments_cons_flag {argument : String}
    (hform : Argument.ofText argument = .named flag.name none)
    (hnamed : readNamed outerOptions .empty flag.name none = .ok (Given.empty.behind flag, none))
    (hasked : ofArguments arguments = some (.run options command)) :
    ∃ outer inner, globalsOf outer inner = options
      ∧ (outer.has flag = false → ofArguments (argument :: arguments)
        = some (.run (globalsOf (outer.behind flag) inner) command)) := by
  obtain ⟨outer, behind, word, name, inner, rest, houter, hoperand, hname, hinner, hcommand,
    hsame⟩ := ofArguments_eq_run_iff.1 hasked
  refine ⟨outer, inner, hsame, fun hflag => ofArguments_eq_run_iff.2 ?_⟩
  refine ⟨outer.behind flag, behind, word, name, inner, rest, ?_, hoperand, hname, hinner, hcommand,
    rfl⟩
  rw [readArguments_cons_flag hform hnamed]
  exact (readArguments_behind houter hflag).2

/-- `--quiet` may be put in front of arguments that do not ask for quiet yet. -/
theorem ofArguments_quiet_cons (hasked : ofArguments arguments = some (.run options command))
    (hquiet : options.quiet = false) :
    ofArguments ("--quiet" :: arguments) = some (.run { options with quiet := true } command) := by
  have hform : Argument.ofText "--quiet" = .named Opt.quiet.name none := by cbv
  obtain ⟨outer, inner, rfl, hcons⟩ := exists_ofArguments_cons_flag hform rfl hasked
  rw [hcons (Bool.or_eq_false_iff.1 hquiet).1]
  rfl

/-- `--force` may be put in front of arguments that do not ask for it yet. -/
theorem ofArguments_force_cons (hasked : ofArguments arguments = some (.run options command))
    (hforce : options.force = false) :
    ofArguments ("--force" :: arguments) = some (.run { options with force := true } command) := by
  have hform : Argument.ofText "--force" = .named Opt.force.name none := by cbv
  obtain ⟨outer, inner, rfl, hcons⟩ := exists_ofArguments_cons_flag hform rfl hasked
  rw [hcons (Bool.or_eq_false_iff.1 hforce).1]
  rfl

end Invocation

end MaskedLiterals.CommandLine
