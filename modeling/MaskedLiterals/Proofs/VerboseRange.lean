import MaskedLiterals.Proofs.ActionEnds
import MaskedLiterals.Proofs.ShownNumber

/-!
# Ranges that are shown in full

On request a range is shown with its masked words.  They are made apart from the text: place by
place up to the end of the array, where decoding takes a part of the array as a whole.  The places
of both are the same (`filterMap_value?_range'`), and where the text was decoded its characters are
the masked words, so nothing is left that could be refused and no word has a sign.

The main statement is `verboseRange_showsDecoded`.
-/

namespace MaskedLiterals

open CommandLine (GlobalOptions NumeralText Invocation)

/-! ### Places and parts of a list -/

/-- The elements at some places, one after the other, are a part of the list. -/
theorem filterMap_getElem?_range' {α : Type} (items : List α) (start n : Nat) :
    (List.range' start n).filterMap (items[·]?) = (items.drop start).take n := by
  induction n generalizing start with
  | zero => simp
  | succ n ih =>
    rw [List.range'_succ, List.filterMap_cons, ih]
    by_cases hstart : start < items.length
    · rw [List.getElem?_eq_getElem hstart, List.drop_eq_getElem_cons hstart, List.take_succ_cons]
    · have hlength := Nat.le_of_not_lt hstart
      rw [List.getElem?_eq_none hlength, List.drop_eq_nil_of_le hlength,
        List.drop_eq_nil_of_le (Nat.le_succ_of_le hlength), List.take_nil, List.take_nil]

theorem ArrayStore.filterMap_value?_range' (store : ArrayStore) (dialect : Dialect)
    (start stop : Nat) :
    (List.range' start (stop - start)).filterMap (store.value? dialect)
      = (ArrayRange.window store.tokens start stop).map (Token.value dialect) := by
  have hplaces := filterMap_getElem?_range' store.tokens start (stop - start)
  rw [ArrayRange.window, List.drop_take, ← hplaces, List.map_filterMap]
  rfl

namespace Command

variable {config : Config} {options : GlobalOptions} {file : String} {disk : Disk}
variable {session : Session} {start stop : Nat} {key : Key} {text : String}
variable {startText stopText keyText : NumeralText}

/-! ### The words of a text -/

/-- The word of a character is shown as its code point. -/
theorem isShownNumber_shownWord (c : Char) :
    IsShownNumber 4 c.toNat (shownWord (Word.ofChar c)) := by
  have hnumber := Word.toInt_ofChar c
  have hmagnitude : (Word.ofChar c).magnitude = c.toNat := by
    rw [Word.magnitude, hnumber, Int.natAbs_natCast]
  rw [shownWord, if_neg (by omega), hmagnitude]
  exact IsShownNumber.of_padded 4 c.toNat

/-- A range that decodes has a masked word for each character, and none of them is refused. -/
theorem maskedWords_of_decode (h : session.decode start stop key = .ok text) :
    maskedWords session start (min stop session.store.length) key
      = .ok (text.toList.map fun c => shownWord (Word.ofChar c)) := by
  rw [← decode_min_length] at h
  have hvalues := ArrayRange.decode_eq_ok_iff.1 h
  have hword (c : Char) : (ArrayRange.maskedWord key c).mask key = Word.ofChar c :=
    Word.mask_mask _ _
  unfold maskedWords
  dsimp only
  rw [ArrayStore.filterMap_value?_range', hvalues, List.mapM_map]
  show text.toList.mapM (fun c => (pure (shownWord ((ArrayRange.maskedWord key c).mask key)) :
    Except Refusal String)) = _
  simp only [hword]
  exact List.mapM_pure

/-- Places that the array does not have hold no characters. -/
theorem eq_empty_of_decode (h : session.decode start stop key = .ok text)
    (hempty : min stop session.store.length ≤ start) : text = "" := by
  have hlength := (ArrayRange.decode_eq_ok_iff_hidesAt.1 h).1
  rw [← String.length_eq_zero_iff, hlength]
  exact Nat.sub_eq_zero_of_le hempty

/-! ### What is printed -/

def verboseRange (start stop : Nat) (key : Key) (words : List String) (text : String) : String :=
  "Range " ++ toString start ++ "-" ++ toString stop ++ " with XOR key " ++ shownKey key ++ ":" ++ "\n"
    ++ ("Hex values: " ++ String.intercalate " " words ++ "\n" ++ ("Decoded: " ++ text ++ "\n"))

theorem ends_decode_verbose (hopened : opened config options file disk = .ok session)
    (hstart : indexOf startText = .ok start) (hstop : indexOf stopText = .ok stop)
    (hkey : keyOf keyText = .ok key) {words : List String}
    (hdecode : session.decode start stop key = .ok text)
    (hwords : maskedWords session start (min stop session.store.length) key = .ok words) :
    (decode config options file startText stopText keyText true).Ends disk (.ok ()) disk
      (verboseRange start (min stop session.store.length) key words text) := by
  have hlooksStart := @looks_index disk startText
  have hlooksStop := @looks_index disk stopText
  have hlooksKey := @looks_key disk keyText
  have hlooksFile := @looks_openFile disk config options file
  have hlooksRange := @looks_decodeRange disk session start stop key
  rw [hstart] at hlooksStart
  rw [hstop] at hlooksStop
  rw [hkey] at hlooksKey
  rw [hopened] at hlooksFile
  rw [hdecode] at hlooksRange
  unfold decode
  refine hlooksStart.bind_ends (hlooksStop.bind_ends (hlooksKey.bind_ends
    (hlooksFile.bind_ends (hlooksRange.bind_ends ?_))))
  refine (Action.looks_accept (.ok text)).bind_ends ?_
  rw [if_pos rfl]
  dsimp only
  rw [hwords]
  refine (Action.looks_accept (.ok words)).bind_ends ?_
  refine (Action.prints_printLine _ disk).bind ?_
  refine (Action.prints_printLine _ disk).bind ?_
  exact (Action.prints_printLine _ disk).bind_looks (Action.looks_notice _)

end Command

namespace Program

open Command

/-- **A range that is shown in full shows what was decoded.**  Wherever a range of a session decodes
    to a text, the masked words are made without a refusal.  There is one for each character in
    order, its code point in at least four small digits whatever the width of the dialect, and none
    has a sign; a range without places has neither characters nor words.  A run that is asked for
    the range of an opened file in full succeeds and prints these words above the text. -/
theorem verboseRange_showsDecoded (session : Session) (start stop : Nat) (key : Key) (text : String)
    (hdecode : session.decode start stop key = .ok text) :
    ∃ words, maskedWords session start (min stop session.store.length) key = .ok words
      ∧ List.Forall₂ (fun c shown => IsShownNumber 4 c.toNat shown) text.toList words
      ∧ (∀ shown ∈ words, '-' ∉ shown.toList)
      ∧ (min stop session.store.length ≤ start → text = "" ∧ words = [])
      ∧ ∀ surroundings arguments disk options file startText stopText keyText,
        Invocation.ofArguments arguments
          = some (.run options (.decode file startText stopText keyText true)) →
        opened (Config.load disk surroundings.userDirectory).1 options file disk = .ok session →
        indexOf startText = .ok start → indexOf stopText = .ok stop → keyOf keyText = .ok key →
        (run surroundings arguments disk).code = 0
          ∧ (run surroundings arguments disk).output
            = verboseRange start (min stop session.store.length) key words text := by
  have hwords := maskedWords_of_decode hdecode
  refine ⟨_, hwords, ?_, ?_, ?_, ?_⟩
  · rw [List.forall₂_map_right_iff, List.forall₂_same]
    intro c _
    exact isShownNumber_shownWord c
  · intro shown hshown
    obtain ⟨c, -, rfl⟩ := List.mem_map.1 hshown
    exact (isShownNumber_shownWord c).hyphen_not_mem
  · intro hempty
    obtain rfl := eq_empty_of_decode hdecode hempty
    exact ⟨rfl, rfl⟩
  · intro surroundings arguments disk options file startText stopText keyText hasked hopened hstart
      hstop hkey
    have hends := ends_decode_verbose hopened hstart hstop hkey hdecode hwords
    obtain ⟨hcode, houtput, -⟩ := run_of_ends hasked hends
    exact ⟨hcode, houtput⟩

/-- Two of three elements are shown, the last of which needs five digits; the first would be
    refused. -/
theorem verboseRange_showsDecoded_five_digits :
    ∃ (disk : Disk) (session : Session), session.decode 1 9 0x20 = .ok "H😀"
      ∧ (run ⟨none, none⟩
          ["decode", "a", "-s", "1", "-e", "9", "-k", "0x20", "--verbose-range"] disk).code = 0
      ∧ (run ⟨none, none⟩
          ["decode", "a", "-s", "1", "-e", "9", "-k", "0x20", "--verbose-range"] disk).output
        = "Range 1-3 with XOR key 0x0020:\nHex values: 0x0048 0x1f600\nDecoded: H😀\n" := by
  let disk : Disk := ⟨[(["a"], .file "-0x5s,0x68s,0x1F620s".toUTF8)], []⟩
  let options : GlobalOptions := ⟨false, none, 104857600, false⟩
  let session : Session :=
    ⟨some "a", "-0x5s,0x68s,0x1F620s", ⟨[⟨"-0x5s"⟩, ⟨"0x68s"⟩, ⟨"0x1F620s"⟩]⟩, .smaliShort⟩
  have hasked : Invocation.ofArguments
      ["decode", "a", "-s", "1", "-e", "9", "-k", "0x20", "--verbose-range"]
      = some (.run options (.decode "a" ⟨"1", .hex⟩ ⟨"9", .hex⟩ ⟨"0x20", .hex⟩ true)) := by cbv
  have hnone : disk.hasPath "smali-xor.toml" = false := by
    simp only [disk]
    decide +kernel
  have hload : Config.load disk none = (.builtIn, []) :=
    Config.adoptFiles_of_hasPath_eq_false (by simpa [Config.paths] using hnone)
  have hopened : opened .builtIn options "a" disk = .ok session := by cbv
  have hdecode : session.decode 1 9 0x20 = .ok "H😀" := by rfl
  obtain ⟨words, hwords, -, -, -, hrun⟩ := verboseRange_showsDecoded session 1 9 0x20 _ hdecode
  have hshown : maskedWords session 1 3 0x20 = .ok ["0x0048", "0x1f600"] := by cbv
  obtain rfl := Except.ok.inj (hwords.symm.trans hshown)
  have hprinted : verboseRange 1 3 0x20 ["0x0048", "0x1f600"] "H😀"
      = "Range 1-3 with XOR key 0x0020:\nHex values: 0x0048 0x1f600\nDecoded: H😀\n" := by
    decide +kernel
  obtain ⟨hcode, houtput⟩ := hrun ⟨none, none⟩ _ disk options "a" _ _ _ hasked
    (hload ▸ hopened) (by cbv) (by cbv) (by cbv)
  exact ⟨disk, session, hdecode, hcode, houtput.trans hprinted⟩

end Program

end MaskedLiterals
