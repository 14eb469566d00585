import CalleeSaved.Disk.Basic
import CalleeSaved.Disk.Source
import CalleeSaved.Proofs.Text.Utf8

/-!
# Texts in source files

A text can be kept in a file in several ways: its lines may end with a line feed, a carriage return
or both, and a byte order mark may stand in front.  This module shows that the text is read back from
each of these files.

**Line ends.**  `LineEnd` is a way to end a line, and `endLines` ends all lines of a text that way.
`normalizeNewlines_endLines`: reading brings them back to line feeds.

**Files.**  `FileSystem.Holds` is a file by its path and its bytes.  `Holds.readText_eq` and
`Holds.report_eq`: what is read from it, and the analysis.

**Result.**  `readText_encode`.
-/

namespace CalleeSaved

/-- The ways to end a line. -/
inductive LineEnd
  | feed
  | carriage
  | carriageFeed
  deriving DecidableEq, Repr

/-- The characters that end a line. -/
def LineEnd.text : LineEnd → Text
  | feed => ['\n']
  | carriage => ['\r']
  | carriageFeed => ['\r', '\n']

namespace Text

/-- The text with every line feed written in the given way. -/
def endLines (lineEnd : LineEnd) (text : Text) : Text :=
  text.flatMap fun c => if c = '\n' then lineEnd.text else [c]

theorem endLines_feed_cons
    (lineEnd : LineEnd)
    (text : Text) :
    endLines lineEnd ('\n' :: text) = lineEnd.text ++ endLines lineEnd text :=
  rfl

theorem endLines_cons_of_ne
    {c : Char}
    (hc : c ≠ '\n')
    (lineEnd : LineEnd)
    (text : Text) :
    endLines lineEnd (c :: text) = c :: endLines lineEnd text := by
  simp [endLines, hc]

theorem normalizeNewlines_cons_of_ne
    {c : Char}
    (hc : c ≠ '\r')
    (text : Text) :
    normalizeNewlines (c :: text) = c :: normalizeNewlines text := by
  rw [normalizeNewlines]
  · intro rest hpair
    exact absurd hpair hc
  · exact hc

/-- A carriage return before anything but a line feed ends a line alone. -/
theorem normalizeNewlines_return_cons
    {text : Text}
    (h : text.head? ≠ some '\n') :
    normalizeNewlines ('\r' :: text) = '\n' :: normalizeNewlines text := by
  rw [normalizeNewlines]
  rintro rest rfl
  exact h rfl

/-- With carriage returns alone no line feed is left for one of them to go with. -/
theorem feed_not_mem_endLines
    (text : Text) :
    '\n' ∉ endLines .carriage text := by
  induction text with
  | nil =>
      simp [endLines]
  | cons c rest ih =>
      by_cases hc : c = '\n'
      · subst hc
        simpa [endLines_feed_cons, LineEnd.text] using ih
      · simpa [endLines_cons_of_ne hc, Ne.symm hc] using ih

/-- Line ends of each kind are read as line feeds. -/
theorem normalizeNewlines_endLines
    {text : Text}
    (h : '\r' ∉ text)
    (lineEnd : LineEnd) :
    normalizeNewlines (endLines lineEnd text) = text := by
  induction text with
  | nil =>
      rfl
  | cons c rest ih =>
      obtain ⟨hreturn, hrest⟩ := not_or.mp (mt List.mem_cons.mpr h)
      by_cases hc : c = '\n'
      · subst hc
        rw [endLines_feed_cons]
        cases lineEnd with
        | feed =>
            exact (normalizeNewlines_cons_of_ne (by decide) _).trans (congrArg _ (ih hrest))
        | carriage =>
            have hhead : (endLines .carriage rest).head? ≠ some '\n' :=
              fun hfeed => feed_not_mem_endLines rest (List.mem_of_head? hfeed)
            exact (normalizeNewlines_return_cons hhead).trans (congrArg _ (ih hrest))
        | carriageFeed =>
            exact congrArg _ (ih hrest)
      · rw [endLines_cons_of_ne hc, normalizeNewlines_cons_of_ne (Ne.symm hreturn), ih hrest]

/-- A text starts with what it starts with when its lines are ended, unless that ends a line. -/
theorem head?_of_head?_endLines
    {c : Char}
    (hfeed : c ≠ '\n')
    (hreturn : c ≠ '\r')
    {lineEnd : LineEnd}
    {text : Text}
    (h : (endLines lineEnd text).head? = some c) :
    text.head? = some c := by
  cases text with
  | nil =>
      exact h
  | cons d rest =>
      by_cases hd : d = '\n'
      · subst hd
        rw [endLines_feed_cons] at h
        cases lineEnd with
        | feed =>
            exact absurd (Option.some.inj h).symm hfeed
        | carriage =>
            exact absurd (Option.some.inj h).symm hreturn
        | carriageFeed =>
            exact absurd (Option.some.inj h).symm hreturn
      · rwa [endLines_cons_of_ne hd] at h

end Text

namespace FileSystem

variable {σ : Type} [FileSystem σ] {disk : σ} {path : Script} {bytes : List UInt8}

/-- The path leads to a file with the given bytes. -/
structure Holds (disk : σ) (path : Script) (bytes : List UInt8) : Prop where
  named : Path.holdsNul path = false
  content : read disk (Path.ofScript path) = .ok bytes

theorem Holds.readText_eq
    (h : Holds disk path bytes) :
    readText disk path = .ok (sourceText bytes) := by
  rw [readText, h.named, h.content]
  rfl

theorem Holds.report_eq
    (h : Holds disk path bytes)
    (settings : Settings) :
    report disk settings path = .ok (FileReport.ofText settings path (sourceText bytes)) := by
  rw [report, h.readText_eq]
  rfl

/-- The file is read as the text, and its analysis is that of the text, whatever the text is called
there. -/
def ReadsAs (disk : σ) (path : Script) (text : Text) : Prop :=
  readText disk path = .ok text ∧
    ∀ (settings : Settings) (name : Script),
      report disk settings path = .ok { FileReport.ofText settings name text with path }

theorem Holds.readsAs
    (h : Holds disk path bytes) :
    ReadsAs disk path (sourceText bytes) :=
  ⟨h.readText_eq, fun settings _ => h.report_eq settings⟩

/-- **Source files.**  A text without carriage returns is read back from a file that holds its
encoding behind a byte order mark, with all line feeds written as such, as carriage returns or as
both together.  If the text does not start with the mark itself, it is read back from the file
without a byte order mark as well.  The analysis of the file is then the analysis of the text. -/
theorem readText_encode
    (text : Text)
    (lineEnd : LineEnd)
    (hreturn : '\r' ∉ text) :
    (∀ (disk : σ) (path : Script),
      Holds disk path (Utf8.byteOrderMark ++ Utf8.encode (text.endLines lineEnd)) →
        ReadsAs disk path text) ∧
    (text.head? ≠ some Utf8.mark →
      ∀ (disk : σ) (path : Script),
        Holds disk path (Utf8.encode (text.endLines lineEnd)) → ReadsAs disk path text) := by
  have hlines := Text.normalizeNewlines_endLines hreturn lineEnd
  constructor
  · intro disk path hfile
    have htext := hfile.readsAs
    rwa [sourceText, Utf8.decodeFile_mark, Utf8.decode_encode, hlines] at htext
  · intro hmark disk path hfile
    have hhead : (text.endLines lineEnd).head? ≠ some Utf8.mark :=
      mt (Text.head?_of_head?_endLines (by decide) (by decide)) hmark
    have htext := hfile.readsAs
    rwa [sourceText, Utf8.decodeFile_encode hhead, hlines] at htext

/-- Characters of every length are read back, and so is a mark in the text behind the one in front of
it. -/
theorem readText_encode_lengths :
    let marked : Text := "\uFEFFé\n\n".toList
    let plain : Text := "€\n\uFEFF😀".toList
    let disk : Disk := ⟨["w"], [
      (["w", "m.s"], .file (Utf8.byteOrderMark ++ Utf8.encode (marked.endLines .carriage))),
      (["w", "p.s"], .file (Utf8.encode (plain.endLines .carriageFeed)))]⟩
    ('\r' ∉ marked ∧ '\r' ∉ plain ∧ plain.head? ≠ some Utf8.mark) ∧
      ReadsAs disk "m.s" marked ∧ ReadsAs disk "p.s" plain := by
  intro marked plain disk
  have hmarked : '\r' ∉ marked := by decide
  have hplain : '\r' ∉ plain := by decide
  have hhead : plain.head? ≠ some Utf8.mark := by decide
  exact ⟨⟨hmarked, hplain, hhead⟩,
    (readText_encode marked .carriage hmarked).1 disk "m.s" ⟨by decide, rfl⟩,
    (readText_encode plain .carriageFeed hplain).2 hhead disk "p.s" ⟨by decide, rfl⟩⟩

end FileSystem
end CalleeSaved
