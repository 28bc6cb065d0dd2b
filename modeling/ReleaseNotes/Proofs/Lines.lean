import ReleaseNotes.Proofs.Missing

/-!
# The lines of the report on missing notes

The issues without a detailed note are reported under a header, each on a line that has a tab, the key, a tab and the
title. The report shows keys and titles as the document has them. So its lines (`Text.linesOf`) are the header and one
line for each issue just if no key and no title has a line break, and keys and titles can be read back (`readEntries`)
just if, moreover, no key has a tab (`reported_in_lines_iff`). A document may well hold a title with a line break:
then the report on one issue can be the report on two (`broken_title_is_two_lines`).
-/

namespace ReleaseNotes

namespace Text

variable {isBreak : Char → Bool} {line cs rest : List Char} {c : Char}

/-! ### Lines -/

/-- The lines of a text, the first of them begun with the characters of `line`, which are held newest first. What
follows the last line break is a line only if it is not empty. -/
def linesFrom (isBreak : Char → Bool) (line : List Char) : List Char → List (List Char)
  | [] => if line.isEmpty then [] else [line.reverse]
  | c :: rest =>
    if isBreak c then line.reverse :: linesFrom isBreak [] rest else linesFrom isBreak (c :: line) rest

/-- The lines of a text, without the characters that break it into lines. -/
def linesOf (isBreak : Char → Bool) (s : String) : List String :=
  (linesFrom isBreak [] s.toList).map String.ofList

theorem linesFrom_break (hc : isBreak c) (h : ∀ d ∈ cs, isBreak d = false) :
    linesFrom isBreak line (cs ++ c :: rest) = (line.reverse ++ cs) :: linesFrom isBreak [] rest := by
  induction cs generalizing line with
  | nil => simp [linesFrom, hc]
  | cons d cs ih =>
    have hd : isBreak d = false := h d (.head cs)
    have hcs : ∀ d ∈ cs, isBreak d = false := fun d' hd' => h d' (.tail d hd')
    simp [linesFrom, hd, ih hcs]

/-- Lines without line breaks, each ended by one, are the lines of the text that they make up. -/
theorem linesFrom_flatMap {lines : List (List Char)} (hc : isBreak c)
    (h : ∀ l ∈ lines, ∀ d ∈ l, isBreak d = false) :
    linesFrom isBreak [] (lines.flatMap (· ++ [c])) = lines := by
  induction lines with
  | nil => rfl
  | cons l lines ih =>
    have hl : ∀ d ∈ l, isBreak d = false := h l (.head lines)
    rw [List.flatMap_cons, List.append_assoc, List.singleton_append, linesFrom_break hc hl,
      ih fun l' hl' => h l' (.tail l hl')]
    rfl

/-- No line has a line break. -/
theorem not_isBreak_of_mem_linesFrom (hline : ∀ d ∈ line, isBreak d = false) {l : List Char}
    (hl : l ∈ linesFrom isBreak line cs) : ∀ d ∈ l, isBreak d = false := by
  have hrev : ∀ d ∈ line.reverse, isBreak d = false := fun d hd => hline d (List.mem_reverse.mp hd)
  induction cs generalizing line with
  | nil =>
    rw [linesFrom] at hl
    split at hl
    · cases hl
    · rw [List.mem_singleton.mp hl]
      exact hrev
  | cons c cs ih =>
    rw [linesFrom] at hl
    split at hl
    · rcases List.mem_cons.mp hl with rfl | hl
      · exact hrev
      · exact ih (List.forall_mem_nil _) hl (List.forall_mem_nil _)
    · rename_i hc
      have hcons : ∀ d ∈ c :: line, isBreak d = false :=
        List.forall_mem_cons.mpr ⟨eq_false_of_ne_true hc, hline⟩
      exact ih hcons hl fun d hd => hcons d (List.mem_reverse.mp hd)

theorem not_isBreak_of_mem_linesOf {s l : String} (h : l ∈ linesOf isBreak s) :
    ∀ d ∈ l.toList, isBreak d = false := by
  obtain ⟨cs, hcs, rfl⟩ := List.mem_map.mp h
  rw [String.toList_ofList]
  exact not_isBreak_of_mem_linesFrom (List.forall_mem_nil _) hcs

end Text

/-! ### Text that controls no terminal -/

namespace Terminal

theorem dropSequences_eq_self {cs : List Char} (h : '\x1b' ∉ cs) : dropSequences 0 cs = cs := by
  induction cs with
  | nil => rfl
  | cons c rest ih =>
    have hc : c ≠ '\x1b' := fun he => h (he ▸ .head rest)
    have hrest : '\x1b' ∉ rest := fun hm => h (.tail c hm)
    simp [dropSequences, hc, ih hrest]

/-- A line that a document can hold is shown as it is. -/
theorem toList_plainLine {s : String} (h : Markup.isLegalText s) : (plainLine s).toList = s.toList ++ ['\n'] := by
  have hs : '\x1b' ∉ s.toList := fun hm => absurd (List.all_eq_true.mp h _ hm) (by decide)
  rw [plainLine, dropSequences_eq_self hs, String.ofList_toList, String.toList_append]
  rfl

end Terminal

/-! ### The report -/

/-- The line of the report on missing notes that is about an issue. -/
def Tracker.Issue.entry (issue : Tracker.Issue) : String :=
  "\t" ++ issue.key ++ "\t" ++ issue.title

/-- Neither the key nor the title of an issue has a line break. -/
def Tracker.Issue.IsUnbroken (isBreak : Char → Bool) (issue : Tracker.Issue) : Prop :=
  ∀ c ∈ issue.key.toList ++ issue.title.toList, isBreak c = false

/-- Some characters can be taken for line breaks: the line feed is one, and those that the report always has on its
lines are none. -/
structure AreLineBreaks (isBreak : Char → Bool) : Prop where
  lineFeed : isBreak '\n'
  tab : isBreak '\t' = false
  header : ∀ c ∈ missingHeader.toList, isBreak c = false

/-- The key and the title on a line that begins with a tab and has another one between the two. -/
def readEntry (line : String) : String × String :=
  let rest := line.toList.drop 1
  (String.ofList (rest.takeWhile (· != '\t')), String.ofList ((rest.dropWhile (· != '\t')).drop 1))

/-- The keys and titles on the lines of a report, the header left out. -/
def readEntries (isBreak : Char → Bool) (report : String) : List (String × String) :=
  ((Text.linesOf isBreak report).drop 1).map readEntry

section

variable {isBreak : Char → Bool} {missing : List Tracker.Issue} {issue : Tracker.Issue}

theorem toList_entry (issue : Tracker.Issue) :
    issue.entry.toList = '\t' :: issue.key.toList ++ '\t' :: issue.title.toList := by
  simp [Tracker.Issue.entry]

/-- The report on issues whose texts a document can hold: each line as it is, ended by a line feed. -/
theorem toList_missingReport (hne : missing ≠ [])
    (hl : ∀ issue ∈ missing, Markup.isLegalText issue.key ∧ Markup.isLegalText issue.title) :
    (missingReport missing).toList =
      ((missingHeader :: missing.map Tracker.Issue.entry).map String.toList).flatMap (· ++ ['\n']) := by
  have hlines : missingLines missing = missingHeader :: missing.map Tracker.Issue.entry := by
    cases missing with
    | nil => exact absurd rfl hne
    | cons issue rest => rfl
  have hlegal : ∀ l ∈ missingLines missing, Markup.isLegalText l := by
    rw [hlines, List.forall_mem_cons, List.forall_mem_map]
    refine ⟨by decide +kernel, fun issue hi => ?_⟩
    obtain ⟨hkey, htitle⟩ := hl issue hi
    rw [Tracker.Issue.entry, isLegalText_append, isLegalText_append, isLegalText_append, hkey, htitle]
    decide
  rw [missingReport, String.toList_join, ← hlines, List.flatMap_map, List.flatMap_map]
  exact List.flatMap_congr fun l hm => Terminal.toList_plainLine (hlegal l hm)

theorem AreLineBreaks.entry_iff (hb : AreLineBreaks isBreak) (issue : Tracker.Issue) :
    (∀ c ∈ issue.entry.toList, isBreak c = false) ↔ issue.IsUnbroken isBreak := by
  rw [toList_entry, Tracker.Issue.IsUnbroken]
  simp only [List.cons_append, List.mem_cons, List.mem_append, or_imp, forall_and, forall_eq, hb.tab, true_and]

/-- The lines are as many as they should be just if none is broken. -/
theorem AreLineBreaks.linesOf_iff (hb : AreLineBreaks isBreak) (hne : missing ≠ [])
    (hl : ∀ issue ∈ missing, Markup.isLegalText issue.key ∧ Markup.isLegalText issue.title) :
    Text.linesOf isBreak (missingReport missing) = missingHeader :: missing.map Tracker.Issue.entry ↔
      ∀ issue ∈ missing, issue.IsUnbroken isBreak := by
  constructor
  · intro h issue hi
    have hm : issue.entry ∈ Text.linesOf isBreak (missingReport missing) := by
      rw [h]
      exact .tail _ (List.mem_map_of_mem hi)
    exact (hb.entry_iff issue).mp (Text.not_isBreak_of_mem_linesOf hm)
  · intro h
    have hunbroken : ∀ l ∈ (missingHeader :: missing.map Tracker.Issue.entry).map String.toList,
        ∀ c ∈ l, isBreak c = false := by
      rw [List.forall_mem_map, List.forall_mem_cons, List.forall_mem_map]
      exact ⟨hb.header, fun issue hi => (hb.entry_iff issue).mpr (h issue hi)⟩
    rw [Text.linesOf, toList_missingReport hne hl, Text.linesFrom_flatMap hb.lineFeed hunbroken, List.map_map]
    exact (List.map_congr_left fun l _ => String.ofList_toList).trans (List.map_id _)

theorem readEntry_entry (h : '\t' ∉ issue.key.toList) : readEntry issue.entry = (issue.key, issue.title) := by
  have hkey : ∀ c ∈ issue.key.toList, (c != '\t') = true := by
    intro c hc
    rw [bne_iff_ne]
    rintro rfl
    exact h hc
  rw [readEntry, toList_entry]
  simp [List.takeWhile_append_of_pos hkey, List.dropWhile_append_of_pos hkey]

/-- What is read from a line that is not broken is not broken, and the key has no tab. -/
theorem unbroken_of_readEntry {line : String} (hline : ∀ c ∈ line.toList, isBreak c = false)
    (h : readEntry line = (issue.key, issue.title)) : issue.IsUnbroken isBreak ∧ '\t' ∉ issue.key.toList := by
  obtain ⟨hkey, htitle⟩ := Prod.mk.inj h
  have hrest : ∀ c ∈ line.toList.drop 1, isBreak c = false := fun c hc => hline c (List.mem_of_mem_drop hc)
  rw [← hkey, Tracker.Issue.IsUnbroken, ← hkey, ← htitle, String.toList_ofList, String.toList_ofList]
  constructor
  · intro c hc
    rcases List.mem_append.mp hc with hc | hc
    · exact hrest c ((List.takeWhile_prefix _).subset hc)
    · exact hrest c ((List.dropWhile_suffix _).subset (List.mem_of_mem_drop hc))
  · intro hc
    exact absurd (List.mem_takeWhile_imp hc) (by decide)

theorem AreLineBreaks.readEntries_iff (hb : AreLineBreaks isBreak) (hne : missing ≠ [])
    (hl : ∀ issue ∈ missing, Markup.isLegalText issue.key ∧ Markup.isLegalText issue.title) :
    readEntries isBreak (missingReport missing) = missing.map (fun issue => (issue.key, issue.title)) ↔
      ∀ issue ∈ missing, issue.IsUnbroken isBreak ∧ '\t' ∉ issue.key.toList := by
  constructor
  · intro h issue hi
    have hm : (issue.key, issue.title) ∈ readEntries isBreak (missingReport missing) := by
      rw [h]
      exact List.mem_map_of_mem hi
    obtain ⟨line, hline, hread⟩ := List.mem_map.mp hm
    exact unbroken_of_readEntry (Text.not_isBreak_of_mem_linesOf (List.mem_of_mem_drop hline)) hread
  · intro h
    rw [readEntries, (hb.linesOf_iff hne hl).mpr fun issue hi => (h issue hi).1, List.drop_one, List.tail_cons,
      List.map_map]
    exact List.map_congr_left fun issue hi => readEntry_entry (h issue hi).2

end

/-- **The report on missing notes has one line for each issue** just if no key and no title has a line break, and the
keys and titles can be read back from it just if, moreover, no key has a tab. -/
theorem reported_in_lines_iff (isBreak : Char → Bool) (octets : List UInt8) (document : Markup.Document)
    (noteFile : String) (issues missing : List Tracker.Issue) (hb : AreLineBreaks isBreak)
    (hread : Markup.Document.read octets = .ok document)
    (hissues : Tracker.issues document.root noteFile = .ok issues) (hmissing : missing ⊆ issues)
    (hne : missing ≠ []) :
    (Text.linesOf isBreak (missingReport missing) = missingHeader :: missing.map Tracker.Issue.entry ↔
      ∀ issue ∈ missing, issue.IsUnbroken isBreak) ∧
    (readEntries isBreak (missingReport missing) = missing.map (fun issue => (issue.key, issue.title)) ↔
      ∀ issue ∈ missing, issue.IsUnbroken isBreak ∧ '\t' ∉ issue.key.toList) := by
  have hlegal : ∀ issue ∈ missing, Markup.isLegalText issue.key ∧ Markup.isLegalText issue.title := by
    intro issue hi
    obtain ⟨item, hm, hitem⟩ := exists_of_mem_mapM hissues (hmissing hi)
    exact isLegalText_of_ofItem ((Markup.hasLegalText_of_read hread).descendants hm) hitem
  exact ⟨hb.linesOf_iff hne hlegal, hb.readEntries_iff hne hlegal⟩

/-! ### Reports on one issue and on two -/

/-- All characters that break a text into lines in some way of reading it. -/
def endsLine (c : Char) : Bool :=
  [0x0A, 0x0B, 0x0C, 0x0D, 0x1C, 0x1D, 0x1E, 0x85, 0x2028, 0x2029].contains c.toNat

theorem not_endsLine_of_all {cs : List Char} (h : cs.all (!endsLine ·)) : ∀ c ∈ cs, endsLine c = false :=
  fun c hc => by simpa using List.all_eq_true.mp h c hc

theorem areLineBreaks_endsLine : AreLineBreaks endsLine :=
  ⟨by decide, by decide, not_endsLine_of_all (by decide +kernel)⟩

theorem exists_of_map_toOption {octets : List UInt8} {noteFile : String} {issues : List Tracker.Issue}
    (h : ((Markup.Document.read octets).toOption.map fun document => Tracker.issues document.root noteFile) =
      some (.ok issues)) :
    ∃ document, Markup.Document.read octets = .ok document ∧ Tracker.issues document.root noteFile = .ok issues := by
  cases hread : Markup.Document.read octets with
  | error fault => simp [hread, Except.toOption] at h
  | ok document =>
    simp only [hread, Except.toOption, Option.map_some, Option.some.injEq] at h
    exact ⟨document, rfl, h⟩

/-- An issue whose title has a tab. -/
def tabbedIssue : Tracker.Issue := ⟨"K-1", "a\tb", none⟩

/-- Its report has two lines, and its key and title can be read back. -/
theorem reported_in_lines_tabbed :
    (∃ document, Markup.Document.read (Text.utf8 (smallItem "K-1" "[K-1] a\tb" [])) = .ok document ∧
      Tracker.issues document.root "note" = .ok [tabbedIssue]) ∧
    Text.linesOf endsLine (missingReport [tabbedIssue]) = [missingHeader, "\tK-1\ta\tb"] ∧
    readEntries endsLine (missingReport [tabbedIssue]) = [("K-1", "a\tb")] := by
  obtain ⟨document, hread, hissues⟩ : ∃ document,
      Markup.Document.read (Text.utf8 (smallItem "K-1" "[K-1] a\tb" [])) = .ok document ∧
        Tracker.issues document.root "note" = .ok [tabbedIssue] :=
    exists_of_map_toOption (by decide +kernel)
  have hplain : ∀ issue ∈ [tabbedIssue], issue.IsUnbroken endsLine ∧ '\t' ∉ issue.key.toList := by
    rw [List.forall_mem_singleton]
    exact ⟨not_endsLine_of_all (by decide +kernel), by decide +kernel⟩
  obtain ⟨hlines, hentries⟩ := reported_in_lines_iff endsLine _ document "note" [tabbedIssue] [tabbedIssue]
    areLineBreaks_endsLine hread hissues (List.Subset.refl _) (List.cons_ne_nil _ _)
  exact ⟨⟨document, hread, hissues⟩, hlines.mpr fun issue hi => (hplain issue hi).1, hentries.mpr hplain⟩

/-- An issue whose title has a line feed. -/
def brokenIssue : Tracker.Issue := ⟨"K-1", "a\n\tK-2\tb", none⟩

/-- A document can hold it, its report has three lines, and these are the lines of a report on two issues. -/
theorem broken_title_is_two_lines :
    (∃ document, Markup.Document.read (Text.utf8 (smallItem "K-1" "[K-1] a\n\tK-2\tb" [])) = .ok document ∧
      Tracker.issues document.root "note" = .ok [brokenIssue]) ∧
    Text.linesOf endsLine (missingReport [brokenIssue]) ≠ missingHeader :: [brokenIssue].map Tracker.Issue.entry ∧
    missingReport [brokenIssue] = missingReport [⟨"K-1", "a", none⟩, ⟨"K-2", "b", none⟩] := by
  exact ⟨exists_of_map_toOption (by decide +kernel), by decide +kernel, by decide +kernel⟩

end ReleaseNotes
