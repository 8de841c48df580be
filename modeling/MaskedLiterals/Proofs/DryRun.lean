import MaskedLiterals.Proofs.EditCommand
import MaskedLiterals.Proofs.ScanExactness

/-!
# A dry run and the edit it stands for

A dry run does what the edit does up to where the edit saves the file.  So what makes the dry run
fail makes the edit fail in the same way, and what the dry run lists is what an edit that succeeds
puts between the gaps of the text (`dryRun_agrees`).

The end of the range is no part of this: it is read, and then only what is noted depends on it
(`exists_ends_edit`).
-/

namespace MaskedLiterals

open CommandLine (GlobalOptions NumeralText Invocation)

/-! ### Literals written over -/

/-- The new text is the old one with the literals from the place on replaced, as many as there are
    new ones. -/
def Dialect.Replaces (dialect : Dialect) (text : String) (start : Nat) (new : List String)
    (newText : String) : Prop :=
  ∃ front middle back rest, text.toList
      = Cut.joinPieces front ++ Cut.joinPieces middle ++ Cut.joinPieces back ++ rest
    ∧ dialect.cut text = ⟨front ++ middle ++ back, rest⟩
    ∧ (front.length = start ∨ new = []) ∧ middle.length = new.length
    ∧ newText.toList = Cut.joinPieces front
      ++ Cut.joinPieces ((middle.map Prod.fst).zip (new.map String.toList))
      ++ Cut.joinPieces back ++ rest

/-- The literals that a text gets in the array of another one, as far as there is room. -/
def Dialect.literalsFor (dialect : Dialect) (source : String) (start : Nat) (text : String)
    (key : Key) : List String :=
  ((ArrayRange.encode dialect text key).take (dialect.countLiterals source - start)).map Token.raw

theorem Cut.joinPieces_append (front back : List (List Char × List Char)) :
    joinPieces (front ++ back) = joinPieces front ++ joinPieces back := List.flatMap_append

/-- Gaps keep their literals where none is put in their place. -/
theorem Cut.fill_middle {front middle back : List (List Char × List Char)} {rest : List Char}
    {new : List (List Char)} (hlength : middle.length = new.length) :
    Cut.fill ⟨front ++ middle ++ back, rest⟩ (front.map Prod.snd ++ new ++ back.map Prod.snd)
      = joinPieces front ++ joinPieces ((middle.map Prod.fst).zip new) ++ joinPieces back
        ++ rest := by
  have hsame (pieces : List (List Char × List Char)) :
      (pieces.map Prod.fst).zip (pieces.map Prod.snd) = pieces := by
    simp [List.zip_map']
  have hfill : Cut.fill ⟨front ++ middle ++ back, rest⟩
      (front.map Prod.snd ++ new ++ back.map Prod.snd)
        = joinPieces (((front ++ middle ++ back).map Prod.fst).zip
          (front.map Prod.snd ++ new ++ back.map Prod.snd)) ++ rest := rfl
  rw [hfill, List.map_append, List.map_append, List.zip_append (by simp [hlength]),
    List.zip_append (by simp), hsame, hsame, joinPieces_append, joinPieces_append]

namespace ArrayRange

variable {array new : List Token} {start : Nat}

theorem room_eq_zero_or (array : List Token) (start : Nat) (new : List Token) :
    start ≤ array.length ∨ room array start new = 0 := by
  unfold room
  omega

theorem take_room : new.take (room array start new) = new.take (array.length - start) := by
  rw [room, Nat.min_comm, ← List.take_eq_take_min]

/-- What was written is what is in the range. -/
theorem take_drop_overwrite :
    ((overwrite array start new).drop start).take (room array start new)
      = new.take (room array start new) := by
  rcases room_eq_zero_or array start new with hstart | hnone
  · have hfront : (array.take start).length = start := List.length_take_of_le hstart
    have hnew : (new.take (room array start new)).length = room array start new := by
      simp [room]
    rw [overwrite, List.append_assoc, List.drop_left' hfront, List.take_left' hnew]
  · rw [hnone, List.take_zero, List.take_zero]

end ArrayRange

theorem take_append_slice {α : Type} (items : List α) (start count : Nat) :
    items.take start ++ (items.drop start).take count ++ items.drop (start + count) = items := by
  rw [List.append_assoc, ← List.drop_drop, List.take_append_drop, List.take_append_drop]

variable {dialect : Dialect} {source newText : String} {start : Nat} {new : List Token}

/-- The literals of a cut with some written over: those before, the new ones, those behind. -/
theorem map_overwrite_literals (pieces : List (List Char × List Char)) (start : Nat)
    (new : List Token) {count : Nat}
    (hcount : count
      = ArrayRange.room (pieces.map fun piece => ⟨String.ofList piece.2⟩) start new) :
    (ArrayRange.overwrite (pieces.map fun piece => ⟨String.ofList piece.2⟩) start new).map
        (fun token => token.raw.toList)
      = (pieces.take start).map Prod.snd ++ (new.take count).map (fun token => token.raw.toList)
        ++ (pieces.drop (start + count)).map Prod.snd := by
  have hraw : (fun token : Token => token.raw.toList)
      ∘ (fun piece : List Char × List Char => (⟨String.ofList piece.2⟩ : Token)) = Prod.snd :=
    funext fun piece => String.toList_ofList
  rw [ArrayRange.overwrite, ← hcount, List.map_append, List.map_append, ← List.map_take,
    ← List.map_drop, List.map_map, List.map_map, hraw]

theorem Dialect.toList_of_cut {pieces : List (List Char × List Char)} {rest : List Char}
    (h : dialect.cut source = ⟨pieces, rest⟩) : source.toList = Cut.joinPieces pieces ++ rest := by
  rw [← join_cut dialect.marker source.toList, ← Dialect.cut, h]
  rfl

theorem Dialect.literalsOf_of_cut {pieces : List (List Char × List Char)} {rest : List Char}
    (h : dialect.cut source = ⟨pieces, rest⟩) :
    dialect.literalsOf source = pieces.map fun piece => ⟨String.ofList piece.2⟩ := by
  simp [Dialect.literalsOf, Cut.literals, h, Function.comp_def]

/-- A splice of an array that was written over replaces what was written over. -/
theorem replaces_of_splice
    (h : dialect.splice source (ArrayRange.overwrite (dialect.literalsOf source) start new)
      = .ok ⟨newText, source⟩) :
    dialect.Replaces source start
      ((new.take (dialect.countLiterals source - start)).map Token.raw) newText := by
  obtain ⟨-, -, hfilled⟩ := splice_eq_ok_iff.1 h
  have hnewText : newText = String.ofList (dialect.filled source
      (ArrayRange.overwrite (dialect.literalsOf source) start new)) :=
    congrArg Spliced.newText hfilled
  rcases hcut : dialect.cut source with ⟨pieces, rest⟩
  have hliterals := Dialect.literalsOf_of_cut hcut
  have hlength : (dialect.literalsOf source).length = pieces.length := by
    rw [hliterals, List.length_map]
  have hcount : dialect.countLiterals source = (dialect.literalsOf source).length := by
    rw [hlength, Dialect.countLiterals, hcut]
  rw [hcount, ← ArrayRange.take_room]
  rcases hroom : ArrayRange.room (dialect.literalsOf source) start new with count
  have hmiddle : ((pieces.drop start).take count).length
      = ((new.take count).map Token.raw).length := by
    rw [← hroom, ArrayRange.room, hlength]
    simp only [List.length_take, List.length_drop, List.length_map]
    omega
  -- past the end of the array all pieces are in front and nothing is written
  refine ⟨pieces.take start, (pieces.drop start).take count, pieces.drop (start + count), rest,
    ?_, ?_, ?_, hmiddle, ?_⟩
  · rw [Dialect.toList_of_cut hcut, ← Cut.joinPieces_append, ← Cut.joinPieces_append,
      take_append_slice]
  · rw [take_append_slice, hcut]
  · rcases ArrayRange.room_eq_zero_or (dialect.literalsOf source) start new with hstart | hnone
    · left
      exact List.length_take_of_le (hlength ▸ hstart)
    · right
      rw [← hroom, hnone]
      rfl
  · rw [hliterals] at hroom hnewText
    rw [hnewText, String.toList_ofList, Dialect.filled, hcut,
      map_overwrite_literals pieces start new hroom.symm]
    rw [List.length_map] at hmiddle
    rw [List.map_map, ← Cut.fill_middle (by rw [hmiddle, List.length_map]), take_append_slice]
    rfl

/-- What a save puts into the file when the text there has not changed since it was read. -/
theorem Session.replaces_of_save {session next : Session} {disk after : Disk}
    {file suffix : String} {report : SaveReport} (hpath : session.path = some file)
    (hread : disk.readText file = .ok source)
    (htokens : session.store.tokens
      = ArrayRange.overwrite (session.dialect.literalsOf source) start new)
    (hsave : session.save disk suffix = (after, .ok (next, report))) :
    report.path = file ∧ ∃ newText, after.readText file = .ok newText
      ∧ session.dialect.Replaces source start
        ((new.take (session.dialect.countLiterals source - start)).map Token.raw) newText := by
  obtain ⟨path, found, spliced, backed, hfile, hfound, hsplice, -, hsaved, -, rfl⟩ :=
    Session.save_eq_ok_iff.1 hsave
  rw [hpath] at hfile
  cases hfile
  rw [hread] at hfound
  cases hfound
  obtain ⟨newText, backupText⟩ := spliced
  have hspliced := (splice_eq_ok_iff.1 hsplice).2.2
  rw [Spliced.mk.injEq] at hspliced
  obtain ⟨-, rfl⟩ := hspliced
  rw [htokens] at hsplice
  exact ⟨rfl, newText, Disk.readText_writeText hsaved, replaces_of_splice hsplice⟩

/-! ### Plans for an edit -/

namespace Command

variable {settings : Config} {options : GlobalOptions} {file text : String} {disk after : Disk}
variable {first keyText : NumeralText} {stop : Option NumeralText} {planned : PlannedEdit}

/-- The end of the range is read, and that is all. -/
theorem planEdit_of_stop
    (hstop : ∀ numeral ∈ stop, ∃ n, Numeral.parseIndex numeral.base numeral.text = .ok n) :
    planEdit settings options file first stop keyText text disk
      = planEdit settings options file first none keyText text disk := by
  cases stop with
  | none => rfl
  | some numeral =>
    obtain ⟨n, hn⟩ := hstop numeral rfl
    have hread : (some numeral).mapM indexOf = .ok (some n) := by
      rw [Option.mapM_some, indexOf, hn]
      rfl
    unfold planEdit
    rw [hread]
    rfl

theorem exists_ends_finishEdit (suffix : String) (planned : PlannedEdit) (dryRun : Bool)
    (disk : Disk) :
    ∃ result after printed, (finishEdit suffix planned dryRun).Ends disk result after printed := by
  cases dryRun with
  | true => exact ⟨_, _, _, prints_dryRun suffix planned disk⟩
  | false =>
    rcases hsave : planned.session.save disk suffix with ⟨after, result⟩
    cases result with
    | error failure => exact ⟨_, _, _, ends_finishEdit_of_error hsave⟩
    | ok saved => exact ⟨_, _, _, ends_finishEdit_of_ok hsave⟩

/-- Whatever the end of the range is, the edit ends in the same way. -/
theorem exists_ends_edit (dryRun : Bool) : ∃ result after printed, ∀ stop : Option NumeralText,
    (∀ numeral ∈ stop, ∃ n, Numeral.parseIndex numeral.base numeral.text = .ok n) →
    (edit settings options file first stop keyText text dryRun).Ends disk result after printed := by
  cases hplan : planEdit settings options file first none keyText text disk with
  | error failure =>
    refine ⟨.error failure, disk, "", fun stop hstop => ?_⟩
    rw [← planEdit_of_stop hstop] at hplan
    exact ends_edit_of_planEdit_eq_error hplan
  | ok planned =>
    obtain ⟨result, after, printed, hfinish⟩ :=
      exists_ends_finishEdit settings.backup.suffix planned dryRun disk
    refine ⟨result, after, printed, fun stop hstop => ?_⟩
    rw [← planEdit_of_stop hstop] at hplan
    exact ends_edit_of_planEdit_eq_ok hplan hfinish

def shownLiterals (start : Nat) (literals : List String) : List String :=
  literals.mapIdx fun i raw => alignedRight 6 (toString (start + i)) ++ "  " ++ raw

/-- An edit is planned on what the file holds, and a dry run shows what it puts there. -/
theorem exists_literals_of_planEdit
    (h : planEdit settings options file first stop keyText text disk = .ok planned) :
    ∃ dialect source key, (settings.withMarker options.marker).dialect = .ok dialect
      ∧ disk.readText file = .ok source
      ∧ Numeral.parseIndex first.base first.text = .ok planned.start
      ∧ Numeral.parseKey keyText.base keyText.text = .ok key
      ∧ planned.session.path = some file ∧ planned.session.dialect = dialect
      ∧ planned.session.store.tokens = ArrayRange.overwrite (dialect.literalsOf source)
        planned.start (ArrayRange.encode dialect text key)
      ∧ planned.written = (dialect.literalsFor source planned.start text key).length
      ∧ shownRange planned.session planned.start planned.written
        = shownLiterals planned.start (dialect.literalsFor source planned.start text key) := by
  obtain ⟨dialect, source, tokens, key, hdialect, hread, hparse, hstart, hkey, hsession,
    hwritten⟩ := planEdit_eq_ok h
  obtain ⟨-, rfl⟩ := parse_eq_ok_iff.1 hparse
  have hcount : dialect.countLiterals source = (dialect.literalsOf source).length := by
    rw [length_literalsOf]
  have hliterals : dialect.literalsFor source planned.start text key
      = ((ArrayRange.encode dialect text key).take planned.written).map Token.raw := by
    rw [Dialect.literalsFor, hcount, ← ArrayRange.take_room, hwritten]
  refine ⟨dialect, source, key, hdialect, hread, mapError_eq_ok_iff.1 hstart,
    mapError_eq_ok_iff.1 hkey, by rw [hsession], by rw [hsession], by rw [hsession], ?_, ?_⟩
  · rw [hliterals, List.length_map, List.length_take, hwritten, ArrayRange.room]
    omega
  · have hlines : (planned.session.store.lines.drop planned.start).take planned.written
        = dialect.literalsFor source planned.start text key := by
      rw [hliterals, ArrayStore.lines, ← List.map_drop, ← List.map_take, hsession, hwritten,
        ArrayRange.take_drop_overwrite]
    rw [shownRange, hlines, shownLiterals]

end Command

/-! ### Runs -/

structure EditRequest where
  options : GlobalOptions
  file : String
  start : NumeralText
  key : NumeralText
  text : String

namespace EditRequest

def IsAskedBy (request : EditRequest) (arguments : List String) (stop : Option NumeralText)
    (dryRun : Bool) : Prop :=
  Invocation.ofArguments arguments = some (.run request.options
    (.edit request.file request.start stop request.key request.text dryRun))

def plan (request : EditRequest) (surroundings : Surroundings) (disk : Disk)
    (stop : Option NumeralText) : Except Failure Command.PlannedEdit :=
  Command.planEdit (Config.load disk surroundings.userDirectory).1 request.options request.file
    request.start stop request.key request.text disk

end EditRequest

namespace Program

open Command (PlannedEdit)

variable {surroundings : Surroundings} {disk : Disk} {request : EditRequest}
variable {arguments dryArguments : List String} {stop : Option NumeralText} {planned : PlannedEdit}

/-- Where there is nothing to save, the dry run and the edit are one run. -/
theorem run_eq_of_plan_eq_error {failure : Failure}
    (hasked : request.IsAskedBy arguments stop false)
    (hdry : request.IsAskedBy dryArguments stop true)
    (hplan : request.plan surroundings disk stop = .error failure) :
    run surroundings arguments disk = run surroundings dryArguments disk
      ∧ (run surroundings arguments disk).code = 1 := by
  have hprepare := Command.looks_prepareEdit (Config.load disk surroundings.userDirectory).1
    request.options request.file request.start stop request.key request.text disk
  rw [← EditRequest.plan, hplan] at hprepare
  obtain ⟨noted, hnoted⟩ := hprepare ""
    ((Config.load disk surroundings.userDirectory).2.map .entry)
  have hsame (dryRun : Bool) : runCommand surroundings request.options
      (.edit request.file request.start stop request.key request.text dryRun) disk
      = (.error failure, ⟨disk, "", noted⟩) := by
    rw [runCommand_eq, action, Command.edit_eq, Action.run_bind, hnoted]
    rfl
  constructor
  · rw [run, run, hasked, hdry]
    dsimp only
    rw [hsame, hsame]
  · rw [run, hasked]
    dsimp only
    rw [hsame]

theorem run_of_plan_eq_ok (hdry : request.IsAskedBy dryArguments stop true)
    (hplan : request.plan surroundings disk stop = .ok planned) :
    (run surroundings dryArguments disk).code = 0
      ∧ (run surroundings dryArguments disk).output = planned.shown := by
  have hends := Command.ends_edit_of_planEdit_eq_ok hplan (Command.prints_dryRun _ planned disk)
  obtain ⟨hcode, houtput, -⟩ := run_of_ends hdry hends
  exact ⟨hcode, houtput⟩

/-- An edit with exit code 0 has saved what it planned. -/
theorem exists_save_of_run (hasked : request.IsAskedBy arguments stop false)
    (hcode : (run surroundings arguments disk).code = 0)
    (hplan : request.plan surroundings disk stop = .ok planned) :
    ∃ next report, planned.session.save disk
        (Config.load disk surroundings.userDirectory).1.backup.suffix
        = ((run surroundings arguments disk).disk, .ok (next, report))
      ∧ (run surroundings arguments disk).output = planned.updated report.path := by
  rcases hsave : planned.session.save disk
    (Config.load disk surroundings.userDirectory).1.backup.suffix with ⟨after, result⟩
  cases result with
  | error failure =>
    have hends := Command.ends_edit_of_planEdit_eq_ok hplan (Command.ends_finishEdit_of_error hsave)
    have hone := (run_of_ends hasked hends).1
    rw [hcode] at hone
    cases hone
  | ok saved =>
    obtain ⟨next, report⟩ := saved
    have hends := Command.ends_edit_of_planEdit_eq_ok hplan (Command.ends_finishEdit_of_ok hsave)
    obtain ⟨-, houtput, hdisk⟩ := run_of_ends hasked hends
    exact ⟨next, report, by rw [hdisk], houtput⟩

/-- **What a dry run says is what the edit does.**  If the dry run fails, the edit ends as it does,
    in every respect.  If the edit succeeds, so does the dry run; both name the range that starts
    where it was asked for, with as many characters as there was room for, and what the dry run
    lists replaces that many literals in the text that the file held, with nothing else changed.
    The end of the range makes no difference to either but in what is noted. -/
theorem dryRun_agrees (surroundings : Surroundings) (disk : Disk) (request : EditRequest) :
    (∀ stop arguments dryArguments, request.IsAskedBy arguments stop false →
      request.IsAskedBy dryArguments stop true →
      (run surroundings dryArguments disk).code ≠ 0 →
      run surroundings arguments disk = run surroundings dryArguments disk)
    ∧ (∀ stop arguments dryArguments, request.IsAskedBy arguments stop false →
      request.IsAskedBy dryArguments stop true → (run surroundings arguments disk).code = 0 →
      (run surroundings dryArguments disk).code = 0
      ∧ ∃ dialect source start key newText listed,
        ((Config.load disk surroundings.userDirectory).1.withMarker request.options.marker).dialect
          = .ok dialect
        ∧ disk.readText request.file = .ok source
        ∧ Numeral.parseIndex request.start.base request.start.text = .ok start
        ∧ Numeral.parseKey request.key.base request.key.text = .ok key
        ∧ listed = dialect.literalsFor source start request.text key
        ∧ (run surroundings dryArguments disk).output = "Dry run: would update range "
          ++ Command.shownSpan start listed.length ++ "\n"
          ++ String.join ((Command.shownLiterals start listed).map (· ++ "\n"))
        ∧ (run surroundings arguments disk).output = "Updated range "
          ++ Command.shownSpan start listed.length ++ " in " ++ request.file ++ "\n"
        ∧ (run surroundings arguments disk).disk.readText request.file = .ok newText
        ∧ dialect.Replaces source start listed newText)
    ∧ ∀ dryRun stop otherStop arguments otherArguments, request.IsAskedBy arguments stop dryRun →
      request.IsAskedBy otherArguments otherStop dryRun →
      (∀ numeral ∈ stop, ∃ n, Numeral.parseIndex numeral.base numeral.text = .ok n) →
      (∀ numeral ∈ otherStop, ∃ n, Numeral.parseIndex numeral.base numeral.text = .ok n) →
      (run surroundings arguments disk).code = (run surroundings otherArguments disk).code
      ∧ (run surroundings arguments disk).output = (run surroundings otherArguments disk).output
      ∧ (run surroundings arguments disk).disk = (run surroundings otherArguments disk).disk := by
  refine ⟨fun stop arguments dryArguments hasked hdry hcode => ?_,
    fun stop arguments dryArguments hasked hdry hcode => ?_,
    fun dryRun stop otherStop arguments otherArguments hasked hother hstop hotherStop => ?_⟩
  · cases hplan : request.plan surroundings disk stop with
    | error failure => exact (run_eq_of_plan_eq_error hasked hdry hplan).1
    | ok planned => exact absurd (run_of_plan_eq_ok hdry hplan).1 hcode
  · cases hplan : request.plan surroundings disk stop with
    | error failure =>
      have hone := (run_eq_of_plan_eq_error hasked hdry hplan).2
      rw [hcode] at hone
      cases hone
    | ok planned =>
      obtain ⟨hzero, hshown⟩ := run_of_plan_eq_ok hdry hplan
      obtain ⟨dialect, source, key, hdialect, hread, hstart, hkey, hpath, rfl, htokens, hwritten,
        hlines⟩ := Command.exists_literals_of_planEdit hplan
      obtain ⟨next, report, hsave, hupdated⟩ := exists_save_of_run hasked hcode hplan
      obtain ⟨hreport, newText, hsaved, hreplaces⟩ :=
        Session.replaces_of_save hpath hread htokens hsave
      unfold PlannedEdit.shown at hshown
      rw [hlines, hwritten] at hshown
      unfold PlannedEdit.updated at hupdated
      rw [hwritten, hreport] at hupdated
      exact ⟨hzero, _, source, planned.start, key, newText, _, hdialect, hread, hstart, hkey,
        rfl, hshown, hupdated, hsaved, hreplaces⟩
  · obtain ⟨result, after, printed, hends⟩ := @Command.exists_ends_edit
      (Config.load disk surroundings.userDirectory).1 request.options request.file request.text disk
      request.start request.key dryRun
    obtain ⟨hcode, houtput, hdisk⟩ := run_of_ends hasked (hends stop hstop)
    obtain ⟨hotherCode, hotherOutput, hotherDisk⟩ := run_of_ends hother (hends otherStop hotherStop)
    exact ⟨hcode.trans hotherCode.symm, houtput.trans hotherOutput.symm,
      hdisk.trans hotherDisk.symm⟩

/-- A literal without the usual number of digits is written over, and the dry run says by what. -/
theorem dryRun_agrees_one_literal :
    ∃ disk : Disk, disk.readText "a" = .ok "x 0x5s"
      ∧ (run ⟨none, none⟩ ["edit", "a", "--start", "0", "--key", "1", "--text", "AB"] disk).code = 0
      ∧ (run ⟨none, none⟩ ["edit", "a", "--start", "0", "--key", "1", "--text", "AB", "--dry-run"]
        disk).output = "Dry run: would update range 0-1 with 1 characters\n     0  0x0040s\n"
      ∧ ∃ newText, Dialect.smaliShort.Replaces "x 0x5s" 0 ["0x0040s"] newText
        ∧ (run ⟨none, none⟩ ["edit", "a", "--start", "0", "--key", "1", "--text", "AB"] disk
          ).disk.readText "a" = .ok newText := by
  let disk : Disk := ⟨[(["a"], .file "x 0x5s".toUTF8)], []⟩
  let surroundings : Surroundings := ⟨none, none⟩
  let request : EditRequest :=
    ⟨⟨false, none, 104857600, false⟩, "a", ⟨"0", .hex⟩, ⟨"1", .hex⟩, "AB"⟩
  let planned : PlannedEdit := ⟨0, ⟨some "a", "x 0x5s", ⟨[⟨"0x0040s"⟩]⟩, .smaliShort⟩, 1⟩
  have hasked : request.IsAskedBy ["edit", "a", "--start", "0", "--key", "1", "--text", "AB"] none
      false := by
    unfold EditRequest.IsAskedBy
    cbv
  have hdry : request.IsAskedBy
      ["edit", "a", "--start", "0", "--key", "1", "--text", "AB", "--dry-run"] none true := by
    unfold EditRequest.IsAskedBy
    cbv
  have hnone : disk.hasPath "smali-xor.toml" = false := by
    simp only [disk]
    decide +kernel
  have hload : Config.load disk surroundings.userDirectory = (.builtIn, []) :=
    Config.adoptFiles_of_hasPath_eq_false (by simpa [Config.paths, surroundings] using hnone)
  have hread : disk.readText "a" = .ok "x 0x5s" := by cbv
  have hplan : request.plan surroundings disk none = .ok planned := by
    unfold EditRequest.plan
    rw [hload]
    cbv
  have hsplice : Dialect.smaliShort.splice "x 0x5s" [⟨"0x0040s"⟩]
      = .ok ⟨"x 0x0040s", "x 0x5s"⟩ := by cbv
  have hbackup : disk.target (Session.backupPath "a" ".backup") = .ok ["a.backup"] := by rfl
  have hfile : disk.target "a" = .ok ["a"] := by rfl
  obtain ⟨backed, hbacked⟩ := Disk.exists_writeText hbackup "x 0x5s"
  obtain ⟨saved, hsaved⟩ :=
    Disk.exists_writeText ((Disk.target_writeBytes_iff hbacked).2 hfile) "x 0x0040s"
  have hsave : planned.session.save disk
      (Config.load disk surroundings.userDirectory).1.backup.suffix
        = (saved, .ok ({ planned.session with source := "x 0x0040s" }, ⟨"a", "a.backup", 1⟩)) := by
    rw [hload]
    exact Session.save_eq_ok_iff.2
      ⟨"a", "x 0x5s", ⟨"x 0x0040s", "x 0x5s"⟩, backed, rfl, hread, hsplice, hbacked, hsaved, rfl,
        rfl⟩
  have hcode := (run_of_ends hasked (Command.ends_edit_of_planEdit_eq_ok hplan
    (Command.ends_finishEdit_of_ok hsave))).1
  obtain ⟨-, dialect, source, start, key, newText, listed, hdialect, hsource, hstart, hkey, hlisted,
    houtput, -, hnewText, hreplaces⟩ :=
      (dryRun_agrees surroundings disk request).2.1 none _ _ hasked hdry hcode
  have hshort : (Config.builtIn.withMarker none).dialect = .ok .smaliShort := by cbv
  have hzero : Numeral.parseIndex .hex "0" = .ok 0 := by cbv
  have hone : Numeral.parseKey .hex "1" = .ok 1 := by cbv
  rw [hload, hshort] at hdialect
  cases hdialect
  cases hread.symm.trans hsource
  cases hzero.symm.trans hstart
  cases hone.symm.trans hkey
  have hliterals : Dialect.smaliShort.literalsFor "x 0x5s" 0 "AB" 1 = ["0x0040s"] := by cbv
  rw [hlisted, hliterals] at houtput hreplaces
  refine ⟨disk, hread, hcode, houtput.trans ?_, newText, hreplaces, hnewText⟩
  rfl

end Program

end MaskedLiterals
