import MaskedLiterals.Proofs.FileTargets
import MaskedLiterals.Proofs.SeparatedTexts
import MaskedLiterals.Proofs.SessionInvariant
import MaskedLiterals.SampleTable

/-!
# Listings

A listing has the elements of an array line by line.  A line break is a separator, so the listing is
scanned line by line, and each line is one literal: what is read from it is the array it was made of
(`parse_listing`), whatever the marker and the digits are.

Every element of a session is a literal as a whole, so a listing can stand in for the file of the
session (`listing_standsIn`): opened, or scanned as a text in hand, it decodes and shows in every
way what the session does.
-/

namespace MaskedLiterals

variable {dialect : Dialect}

/-! ### Reading a listing -/

/-- **A listing is read as the array it was made of.** -/
theorem parse_listing {tokens : List Token} (hne : tokens ≠ [])
    (h : ∀ token ∈ tokens, IsLiteral dialect.marker token.raw.toList) :
    dialect.parse (ArrayStore.mk tokens).listing = .ok tokens := by
  have hnewline : IsSeparator dialect.marker '\n' :=
    isSeparator_of_isBlank dialect.isMarker (by decide)
  have hlines : dialect.literalsOf ((String.singleton '\n').intercalate (tokens.map (·.raw)))
      = tokens := by
    rw [literalsOf_intercalate hnewline, List.flatMap_map]
    calc tokens.flatMap (fun token => dialect.literalsOf token.raw)
        = tokens.flatMap (fun token => [token]) :=
          List.flatMap_congr fun token hmem => literalsOf_eq_singleton_iff.2 (h token hmem)
      _ = tokens := List.flatMap_singleton' tokens
  -- behind the last line break stands one more line, which is empty
  have hlisting := literalsOf_separated hnewline
    ((String.singleton '\n').intercalate (tokens.map (·.raw))) ""
  rw [hlines, literalsOf_empty, List.append_nil, String.append_empty] at hlisting
  exact parse_eq_ok_iff.2 ⟨hne, hlisting⟩

/-! ### A listing for a file -/

section Export

variable {session : Session} {disk exported : Disk} {output : String} {tokens : List Token}

theorem writeListing_eq_ok_iff :
    session.writeListing disk output = .ok exported
      ↔ disk.writeText output session.store.listing = .ok exported := mapError_eq_ok_iff

/-- A text in hand decodes as its array does. -/
theorem decodeText_of_parse {text : String} (h : dialect.parse text = .ok tokens)
    (start stop : Nat) (key : Key) :
    ArrayStore.decodeText dialect text start stop key
      = ArrayRange.decode dialect tokens start stop key := by
  unfold ArrayStore.decodeText ArrayStore.ofText
  rw [h]
  rfl

/-- A listing that was written is opened with the array that it was made of, under any size limit
    that it meets. -/
theorem ofFile_writeListing (hparse : dialect.parse session.store.listing = .ok tokens)
    (h : session.writeListing disk output = .ok exported) {limit : Nat}
    (hsize : Session.checkSize exported output limit = .ok ()) :
    Session.ofFile exported dialect output limit
      = .ok ⟨some output, session.store.listing, ⟨tokens⟩, dialect⟩ :=
  Session.ofFile_eq_ok_iff.2 ⟨hsize, _, _,
    Disk.readText_writeText (writeListing_eq_ok_iff.1 h), hparse, rfl⟩

end Export

/-- **A listing stands in for what it was made of.**  The listing of any literals of a dialect is
    read as these literals.  So when the listing of a session is written, whatever was done with the
    session before, it is opened with the lines of the session; every range of the session, of the
    opened listing and of the listing in hand decodes under every key to the same text or is refused
    for the same cause, and the sample tables are the same for any keys. -/
theorem listing_standsIn (dialect : Dialect) :
    (∀ tokens : List Token, tokens ≠ [] →
      (∀ token ∈ tokens, IsLiteral dialect.marker token.raw.toList) →
      dialect.parse (ArrayStore.mk tokens).listing = .ok tokens)
    ∧ ∀ (work : Work) (output : String) (exported : Disk), Reachable dialect work →
      work.session.writeListing work.disk output = .ok exported →
      ∃ reopened : Session,
        exported.readText output = .ok work.session.store.listing
        ∧ (∀ limit, Session.checkSize exported output limit = .ok () →
          Session.ofFile exported dialect output limit = .ok reopened)
        ∧ reopened.store.lines = work.session.store.lines
        ∧ (∀ (start stop : Nat) (key : Key),
          reopened.decode start stop key = work.session.decode start stop key
          ∧ ArrayStore.decodeText dialect work.session.store.listing start stop key
            = work.session.decode start stop key)
        ∧ ∀ keys : List Key, sampleTable reopened.dialect reopened.store.tokens keys
          = sampleTable work.session.dialect work.session.store.tokens keys := by
  refine ⟨fun tokens hne h => parse_listing hne h, fun work output exported hreachable h => ?_⟩
  have hsound := hreachable.isSound
  have hparse : dialect.parse work.session.store.listing = .ok work.session.store.tokens :=
    parse_listing hsound.isArray.nonempty hsound.isArray.isLiteral
  refine ⟨⟨some output, work.session.store.listing, work.session.store, dialect⟩,
    Disk.readText_writeText (writeListing_eq_ok_iff.1 h),
    fun limit hsize => ofFile_writeListing hparse h hsize, rfl, fun start stop key => ?_,
    fun keys => ?_⟩
  · have hdialect : work.session.decode start stop key
        = ArrayRange.decode dialect work.session.store.tokens start stop key := by
      rw [← hsound.dialect_eq]
      rfl
    exact ⟨hdialect.symm, (decodeText_of_parse hparse start stop key).trans hdialect.symm⟩
  · rw [hsound.dialect_eq]

/-- The second of two elements is edited, and the listing is opened with both. -/
theorem listing_standsIn_edited :
    ∃ (work : Work) (exported : Disk) (reopened : Session),
      work.session.store.lines = ["0x5s", "0x0041s"]
      ∧ work.session.writeListing work.disk "b" = .ok exported
      ∧ exported.readText "b" = .ok "0x5s\n0x0041s\n"
      ∧ Session.ofFile exported .smaliShort "b" 0 = .ok reopened
      ∧ reopened.store.lines = ["0x5s", "0x0041s"] := by
  have hopened : Session.ofText .smaliShort "0x5s,0x6s" = .ok
      ⟨none, "0x5s,0x6s", ⟨[⟨"0x5s"⟩, ⟨"0x6s"⟩]⟩, .smaliShort⟩ := by
    cbv
  let work : Work :=
    ⟨⟨none, "0x5s,0x6s", ⟨[⟨"0x5s"⟩, ⟨"0x0041s"⟩]⟩, .smaliShort⟩, ⟨[], []⟩, [⟨1, 2⟩]⟩
  have hreached : Reachable .smaliShort work :=
    (@Reachable.ofText _ ⟨[], []⟩ _ _ hopened).after (.edit ⟨1, "A", 0⟩)
  have hlisting : work.session.store.listing = "0x5s\n0x0041s\n" := by rfl
  have htarget : work.disk.target "b" = .ok ["b"] := by rfl
  obtain ⟨exported, hexported⟩ := Disk.exists_writeText htarget work.session.store.listing
  have hwritten := writeListing_eq_ok_iff.2 hexported
  obtain ⟨reopened, hread, hreopened, hlines, -⟩ :=
    (listing_standsIn .smaliShort).2 work "b" exported hreached hwritten
  rw [hlisting] at hread
  exact ⟨work, exported, reopened, rfl, hwritten, hread, hreopened 0 rfl, hlines⟩

end MaskedLiterals
