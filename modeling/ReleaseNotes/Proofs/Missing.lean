import ReleaseNotes.Proofs.Cloning
import ReleaseNotes.Proofs.Details
import ReleaseNotes.Proofs.Requests

/-!
# Issues without a note

The issues that are set down as missing a note are those whose items have no attachment that names one
(`Tracker.lacksNote`), in the order of the report. Each of them has the placeholder in both tables of contents and
an empty section; every other one has the summary of its own note there, and all that the body of that note holds,
mark by mark (`missing_iff_lacksNote`).
-/

namespace ReleaseNotes

open Markup

variable {α β ε : Type} {plan : Plan} {sources : Sources} {start p p' : Progress} {web : Web}
  {issue : Tracker.Issue} {note? : Option Document}

/-! ### Items without a note -/

namespace Tracker

/-- None of the attachments of an item that have the name of notes has an identifier that is not negative. -/
def lacksNote (noteFile : String) (item : Node) : Bool :=
  (noteAttachments noteFile item).all fun attachment =>
    (attachmentId? (writtenId attachment).toList).all fun id => id < 0

theorem laterNote_eq_none_iff {latest? : Option Int} {id : Int} :
    laterNote latest? id = none ↔ latest? = none ∧ id < 0 := by
  unfold laterNote
  by_cases hneg : id < 0
  · simp [hneg]
  · cases latest? with
    | none => simp [hneg]
    | some latest =>
      simp only [hneg, if_false, and_false, iff_false]
      split <;> nofun

theorem latestNote_eq_none_iff {noteFile : String} {latest? result : Option Int} {attachments : List Node}
    (h : latestNote noteFile latest? attachments = .ok result) :
    result = none ↔ latest? = none ∧ (attachments.filter (isNote noteFile)).all (fun attachment =>
      (attachmentId? (writtenId attachment).toList).all fun id => id < 0) = true := by
  induction attachments generalizing latest? with
  | nil =>
    cases h
    simp
  | cons attachment rest ih =>
    rw [latestNote_cons] at h
    cases hn : isNote noteFile attachment with
    | false =>
      rw [hn, if_neg Bool.false_ne_true] at h
      rw [List.filter_cons_of_neg (ne_true_of_eq_false hn)]
      exact ih h
    | true =>
      rw [hn, if_pos rfl] at h
      obtain ⟨id, hid, h⟩ := bind_eq_ok.mp h
      have hwritten : attachmentId? (writtenId attachment).toList = some id := by
        unfold readAttachmentId at hid
        split at hid
        · rename_i id' hid'
          cases hid
          exact hid'
        · cases hid
      rw [ih h, laterNote_eq_none_iff, List.filter_cons_of_pos hn, List.all_cons, hwritten]
      simp [and_assoc]

/-- An issue has no note just if its item lacks one. -/
theorem noteId?_eq_none_iff {item : Node} {noteFile : String} (h : Issue.ofItem item noteFile = .ok issue) :
    issue.noteId? = none ↔ lacksNote noteFile item = true := by
  obtain ⟨key, -, h⟩ := bind_eq_ok.mp h
  obtain ⟨title, -, h⟩ := bind_eq_ok.mp h
  obtain ⟨stripped, -, h⟩ := bind_eq_ok.mp h
  obtain ⟨id?, hid, h⟩ := bind_eq_ok.mp h
  cases h
  unfold latestNoteId? at hid
  unfold lacksNote noteAttachments
  cases ha : item.descendant? attachmentsLabel with
  | none =>
    rw [ha] at hid
    cases hid
    exact iff_of_true rfl rfl
  | some attachments =>
    rw [ha] at hid
    rw [latestNote_eq_none_iff hid]
    exact and_iff_right rfl

end Tracker

/-- What is read from the values that pass a test, if the test shows in what is read. -/
theorem mapM_filter {f : α → Except ε β} {test : α → Bool} {test' : β → Bool} {l : List α} {k : List β}
    (ht : ∀ a b, f a = .ok b → test' b = test a) (h : l.mapM f = .ok k) :
    (l.filter test).mapM f = .ok (k.filter test') :=
  mapM_eq_ok_iff_forall₂.mpr
    (List.rel_filter (fun a b hb => Bool.eq_iff_iff.mp (ht a b hb).symm) (mapM_eq_ok_iff_forall₂.mp h))

/-- What is read from the first values is what has been read first. -/
theorem mapM_take_of_append {f : α → Except ε β} {l : List α} {first rest : List β}
    (h : l.mapM f = .ok (first ++ rest)) : (l.take first.length).mapM f = .ok first :=
  mapM_eq_ok_iff_forall₂.mpr (List.forall₂_take_append l first rest (mapM_eq_ok_iff_forall₂.mp h))

/-! ### The note of an issue -/

/-- An issue has a note of its own, which the web has under the address that belongs to its identifier; or it has
none. -/
def IsOwnNote (t : TrackerSettings) (web : Web) (issue : Tracker.Issue) : Option Document → Prop
  | none => issue.noteId? = none
  | some note => ∃ id reply, issue.noteId? = some id ∧
      web (Tracker.noteAddress t.attachments (toString id) t.noteFilename) = .reply reply ∧
      reply.wrong? (Tracker.noteAddress t.attachments (toString id) t.noteFilename) = none ∧
      Document.read reply.content = .ok note

/-- What is fetched for an issue is its own note. -/
theorem isOwnNote_of_noteFor (hfetch : plan.fetch = fetch plan.settings.tracker web)
    (h : plan.noteFor issue = .ok note?) : IsOwnNote plan.settings.tracker web issue note? := by
  rw [Plan.noteFor, hfetch] at h
  obtain ⟨fetched, hf, h⟩ := bind_eq_ok.mp h
  have hf := mapError_eq_ok_iff.mp hf
  cases fetched with
  | absent =>
    cases h
    exact noteId?_of_fetch hf
  | note d =>
    cases h
    obtain ⟨id, r, hid, hr, hgood, hread⟩ := exists_reply_of_fetch hf
    exact ⟨id, r, hid, hr, Reply.wrong?_eq_none_iff.mpr hgood, hread⟩
  | failed fault => cases h

/-- If notes are fetched, there is none for an issue just if it has none. -/
theorem lacks_of_fetch (hfetch : plan.fetch = fetch plan.settings.tracker web) (issue : Tracker.Issue) :
    plan.lacks issue = issue.noteId?.isNone := by
  cases hn : issue.noteId? with
  | none =>
    have hnote : plan.noteFor issue = .ok none := by
      rw [Plan.noteFor, hfetch, fetch, exchanged_of_absent (noteUrl?_of_none hn)]
      rfl
    rw [Plan.lacks, hnote]
    rfl
  | some id =>
    rw [Option.isNone_some, Plan.lacks]
    split
    · rename_i hnote
      have hnone : issue.noteId? = none := isOwnNote_of_noteFor hfetch hnote
      rw [hn] at hnone
      cases hnone
    · rfl

/-- An own note has been read, so it is sound. -/
theorem IsOwnNote.isSound {t : TrackerSettings} {note : Document} (h : IsOwnNote t web issue (some note)) :
    note.root.IsSound [] := by
  obtain ⟨id, reply, -, -, -, hread⟩ := h
  exact isSound_of_read hread

/-! ### What a pamphlet says of an issue -/

/-- The summary of an issue: the placeholder if there is no note, and otherwise the text that stands directly in the
first paragraph of the note, its words on one line. -/
def IsSummary (w : WordingSettings) (summary : String) : Option Document → Prop
  | none => summary = w.missingNote
  | some note => ∃ paragraph, note.root.descendant? PageElement.paragraph.label = some paragraph ∧
      summary = Text.joinWords paragraph.directText

/-- The block of an issue. If there is no note, it holds nothing. Otherwise it has held, mark by mark and with the same
text, what the first body of the note holds, and has grown from that if at all. -/
def IsDetails (block : Node) : Option Document → Prop
  | none => block = .element (.plain PageElement.block.label []) []
  | some note => ∃ tag held content, note.root.descendant? PageElement.body.label = some (.element tag held) ∧
      marksOf content = marksOf held ∧ textOf content = textOf held ∧
      (Node.element (.plain PageElement.block.label []) content).GrowsTo block

/-- What a pamphlet says of an issue: an entry with its summary, and a section of its own with its details. -/
structure Pamphlet.Accounts (p : Pamphlet) (w : WordingSettings) (issue : Tracker.Issue) (note? : Option Document)
    (account : (String × String) × Place) : Prop where
  /-- The entry. -/
  entry : ∃ summary, IsSummary w summary note? ∧ account.1 = (issue.sectionName, issue.caption summary)
  /-- The heading of the section, just before its block. -/
  headed : ∃ r i heading, account.2 = r ++ [i + 1] ∧ nodeAt? p.trees (r ++ [i]) = some heading ∧
    (Layout.heading .issueDetail issue.sectionName).GrowsTo heading
  /-- The block of the section. -/
  block : ∃ block, nodeAt? p.trees account.2 = some block ∧ IsDetails block note?

theorem isSummary_of_noteSummary {w : WordingSettings} {summary : String}
    (h : w.noteSummary issue.key note? = .ok summary) : IsSummary w summary note? := by
  cases note? with
  | none => exact (Except.ok.inj h).symm
  | some note =>
    rw [WordingSettings.noteSummary, Tracker.noteSummary] at h
    split at h
    · next paragraph hp =>
      cases h
      exact ⟨paragraph, require_eq_ok hp, rfl⟩
    · cases h

/-- A block that is filled with a copy of the body of a sound note has held what the body holds. -/
theorem isDetails_of_isFilled {block : Node} (hs : ∀ note, note? = some note → note.root.IsSound [])
    (h : IsFilled issue note? block) : IsDetails block note? := by
  cases note? with
  | none => exact h
  | some note =>
    obtain ⟨body, around, hb, hg⟩ := h
    have hbody : note.root.descendant? PageElement.body.label = some body := by
      unfold Tracker.noteBody at hb
      split at hb
      · next hfound =>
        cases hb
        exact require_eq_ok hfound
      · cases hb
    obtain ⟨tag, held, inner, rfl, hsound⟩ := (hs note rfl).of_descendant? hbody
    obtain ⟨hmarks, htext⟩ := holds_same_of_copyUnder hsound around
    exact ⟨tag, held, _, hbody, hmarks, htext, hg⟩

theorem entry_of_tell {told : Told} (hn : plan.noteFor issue = .ok note?) (h : plan.tell issue = .ok told) :
    ∃ summary, IsSummary plan.settings.wording summary note? ∧
      told.entry = (issue.sectionName, issue.caption summary) := by
  rw [Plan.tell, hn, ok_bind] at h
  obtain ⟨summary, hs, h⟩ := bind_eq_ok.mp h
  obtain ⟨details, -, h⟩ := bind_eq_ok.mp h
  cases h
  exact ⟨summary, isSummary_of_noteSummary (mapError_eq_ok_iff.mp hs), rfl⟩

/-- What is told of the issues and the blocks of their sections are accounts of the issues, by their own notes. -/
theorem exists_accounts {pamphlet : Pamphlet} {issues : List Tracker.Issue} {told : List Told} {blocks : List Place}
    (hfetch : plan.fetch = fetch plan.settings.tracker web) (htold : issues.mapM plan.tell = .ok told)
    (hblocks : List.Forall₂ (fun issue q => ∃ note?, plan.noteFor issue = .ok note? ∧
      HoldsNote issue note? q pamphlet.trees) issues blocks) :
    ∃ accounts, accounts.map Prod.fst = told.map Told.entry ∧ accounts.map Prod.snd = blocks ∧
      List.Forall₂ (fun issue account => ∃ note?, IsOwnNote plan.settings.tracker web issue note? ∧
        pamphlet.Accounts plan.settings.wording issue note? account) issues accounts := by
  rw [mapM_eq_ok_iff_forall₂] at htold
  induction hblocks generalizing told with
  | nil =>
    cases htold
    exact ⟨[], rfl, rfl, .nil⟩
  | @cons issue q issues blocks hq _ ih =>
    obtain ⟨t, told, ht, hrest, rfl⟩ := List.forall₂_cons_left_iff.mp htold
    obtain ⟨accounts, hentries, rfl, haccounts⟩ := ih hrest
    obtain ⟨note?, hn, hholds⟩ := hq
    have hown := isOwnNote_of_noteFor hfetch hn
    obtain ⟨block, hblock, hfilled⟩ := hholds.filled
    have hdetails := isDetails_of_isFilled (fun note hnote => IsOwnNote.isSound (hnote ▸ hown)) hfilled
    refine ⟨(t.entry, q) :: accounts, ?_, rfl,
      .cons ⟨note?, hown, entry_of_tell hn ht, hholds.headed, block, hblock, hdetails⟩ haccounts⟩
    rw [List.map_cons, List.map_cons, hentries]

/-! ### What is missing -/

theorem Plan.Tries.prefix_issuesOf {tried added : List Tracker.Issue} (h : plan.Tries sources start tried added) :
    added <+: plan.issuesOf sources.notes := by
  cases h with
  | none hn => exact List.nil_prefix
  | all hc htells => exact List.prefix_rfl
  | some hc hl hadded hfails => exact ⟨_, hl.symm⟩

/-- The first issues of a report are those of its first items. -/
theorem exists_items_of_prefix {report : Node} {added : List Tracker.Issue} (h : added <+: plan.issuesOf report) :
    ((report.descendants itemLabel).take added.length).mapM
      (Tracker.Issue.ofItem · plan.settings.tracker.noteFilename) = .ok added := by
  rcases plan.issuesOf_eq_nil_or report with hnone | hread
  · rw [hnone] at h
    rw [List.prefix_nil.mp h]
    rfl
  · obtain ⟨rest, hrest⟩ := h
    exact mapM_take_of_append (hread.trans (congrArg Except.ok hrest.symm))

/-- Of the issues that have been added, those are missing a note whose items lack one. -/
theorem missing_of_items {items : List Node} {added : List Tracker.Issue}
    (hfetch : plan.fetch = fetch plan.settings.tracker web)
    (h : items.mapM (Tracker.Issue.ofItem · plan.settings.tracker.noteFilename) = .ok added) :
    (items.filter (Tracker.lacksNote plan.settings.tracker.noteFilename)).mapM
      (Tracker.Issue.ofItem · plan.settings.tracker.noteFilename) = .ok (added.filter plan.lacks) := by
  refine mapM_filter (fun item issue hi => ?_) h
  have hn := Tracker.noteId?_eq_none_iff hi
  rw [lacks_of_fetch hfetch, Bool.eq_iff_iff, Option.isNone_iff_eq_none]
  exact hn

/-- The end of a run: what is missing is reported after all else that is shown. -/
theorem conclude_eq_ok {path : String} (h : outcome (plan.conclude path) p = (.ok (), p')) :
    ∃ remarks, p' = { p with remarks := remarks ++ missingReport p.missing } := by
  unfold Plan.conclude at h
  split at h
  · obtain ⟨_, q, hremark, h⟩ := outcome_bind_eq_ok.mp h
    obtain ⟨line, q', hline, hremark⟩ := outcome_bind_eq_ok.mp hremark
    obtain ⟨-, rfl⟩ := orFail_eq_ok hline
    cases hremark
    cases h
    exact ⟨_, rfl⟩
  · cases h
    exact ⟨p.remarks, rfl⟩

/-- A run that comes to its end leaves the pamphlet of its assembly and reports what is missing. -/
theorem exists_finished_of_ok {paths : RunPaths} (h : outcome (plan.generate paths) start = (.ok (), p)) :
    ∃ sources finished remarks, start.files.sources paths.summary paths.bugs paths.notes = .ok sources ∧
      outcome (plan.assemble sources) start = (.ok (), finished) ∧ p.pamphlet = finished.pamphlet ∧
      p.missing = finished.missing ∧ p.remarks = remarks ++ missingReport p.missing := by
  rcases generate_cases plan paths start with
    ⟨fault, -, ho⟩ | ⟨sources, hs, ⟨fault, q, -, ho⟩ | ⟨q, ha, ⟨fault, -, ho⟩ | ⟨files, hw, ho⟩⟩⟩
  · rw [ho] at h
    cases h
  · rw [ho] at h
    cases h
  · rw [ho] at h
    cases h
  · rw [ho] at h
    obtain ⟨remarks, rfl⟩ := conclude_eq_ok h
    exact ⟨sources, q, remarks, hs, ha, rfl, rfl, rfl⟩

/-- **What is missing is what has no note.** If notes are fetched, the issues that any assembly sets down as missing a
note are, in order, those that it has added and whose items lack one. In a run that comes to its end those are all
issues whose items lack one. Every issue has an entry in both tables of contents, with the placeholder if it has no
note and with the summary of its own note if it has one, and a section of its own, which is empty if it has no note
and holds what the body of its own note holds if it has one. What is missing is reported last, in order. -/
theorem missing_iff_lacksNote (plan : Plan) (paths : RunPaths) (start : Progress) (web : Web)
    (hfetch : plan.fetch = fetch plan.settings.tracker web) :
    (∀ sources, ∃ tried added items missing, plan.Tries sources start tried added ∧
      items <+: sources.notes.descendants itemLabel ∧
      items.mapM (Tracker.Issue.ofItem · plan.settings.tracker.noteFilename) = .ok added ∧
      (items.filter (Tracker.lacksNote plan.settings.tracker.noteFilename)).mapM
        (Tracker.Issue.ofItem · plan.settings.tracker.noteFilename) = .ok missing ∧
      (outcome (plan.assemble sources) start.anew).2.missing = start.missing ++ missing) ∧
    (∀ p, outcome (plan.generate paths) start.anew = (.ok (), p) →
      ∃ sources issues missing accounts opened mid remarks,
      start.files.sources paths.summary paths.bugs paths.notes = .ok sources ∧
      Tracker.issues sources.notes plan.settings.tracker.noteFilename = .ok issues ∧
      ((sources.notes.descendants itemLabel).filter (Tracker.lacksNote plan.settings.tracker.noteFilename)).mapM
        (Tracker.Issue.ofItem · plan.settings.tracker.noteFilename) = .ok missing ∧
      p.missing = start.missing ++ missing ∧
      p.pamphlet.toc? = some tocPlace ∧
      p.pamphlet.Lists tocPlace (Section.all.map Section.entry ++ accounts.map Prod.fst) ∧
      outcome (plan.reach sources .issuesList >>= fun _ => plan.openIssues sources) start.anew = (.ok opened, mid) ∧
      p.pamphlet.Lists opened.2.1 (accounts.map Prod.fst) ∧
      (accounts.map Prod.snd).Nodup ∧
      List.Forall₂ (fun issue account => ∃ note?, IsOwnNote plan.settings.tracker web issue note? ∧
        p.pamphlet.Accounts plan.settings.wording issue note? account) issues accounts ∧
      p.remarks = remarks ++ missingReport p.missing) ∧
    ∀ missing, missingLines missing = if missing.isEmpty then [] else
      missingHeader :: missing.map fun issue => "\t" ++ issue.key ++ "\t" ++ issue.title := by
  refine ⟨fun sources => ?_, fun p h => ?_, fun missing => by cases missing <;> rfl⟩
  · obtain ⟨tried, added, htries, -, hmissing⟩ := exists_tries plan sources start
    have hitems := exists_items_of_prefix htries.prefix_issuesOf
    exact ⟨tried, added, _, _, htries, List.take_prefix _ _, hitems, missing_of_items hfetch hitems, hmissing⟩
  · obtain ⟨sources, finished, remarks, hs, ha, hpamphlet, hmissing, hremarks⟩ := exists_finished_of_ok h
    obtain ⟨issues, told, blocks, opened, mid, hissues, htold, hopen, htoc, hall, hown, hblocks, hnodup⟩ :=
      exists_blocks_of_assemble ha
    obtain ⟨accounts, hentries, rfl, haccounts⟩ := exists_accounts hfetch htold hblocks
    have hadded : finished.missing = start.missing ++ issues.filter plan.lacks := by
      obtain ⟨tried, added, htries, -, hm⟩ := exists_tries plan sources start
      rw [htries.eq_of_ok (congrArg Prod.fst ha), Plan.issuesOf_of_ok hissues, ha] at hm
      exact hm
    rw [← hentries] at hall hown
    rw [hpamphlet]
    refine ⟨sources, issues, _, accounts, opened, mid, remarks, hs, hissues, missing_of_items hfetch hissues,
      hmissing.trans hadded, htoc, hall, hopen, hown, hnodup, haccounts, hremarks⟩

/-! ### A small release with a note that is missing -/

/-- A report of an issue with a note and one without, as it is written. -/
def mixedReport : List Char :=
  let item (key : String) (more : List Char) : List Char :=
    writtenElement "item" (writtenElement "key" key.toList ++ writtenElement "title" "[D] c".toList ++ more)
  writtenElement "rss" (item "D-2" smallAttachment ++ item "D-3" [])

/-- The files of a small release of which one issue has no note. -/
def mixedStart : Progress :=
  smallStart ['v'] (smallItem "D-1" "[D-1] b" []) mixedReport

/-- The issue without a note is missing one, and the other is not. -/
theorem missing_of_mixed_release : ∃ p issues missing,
    outcome (fetchingPlan.generate smallPaths) mixedStart.anew = (.ok (), p) ∧
    missing.length = 1 ∧ issues.length = 2 ∧ p.missing = mixedStart.missing ++ missing ∧
    ∃ accounts, p.pamphlet.Lists tocPlace (Section.all.map Section.entry ++ accounts.map Prod.fst) ∧
      List.Forall₂ (fun issue account => ∃ note?, IsOwnNote fetchingPlan.settings.tracker smallWeb issue note? ∧
        p.pamphlet.Accounts fetchingPlan.settings.wording issue note? account) issues accounts := by
  have hrun : (match outcome (fetchingPlan.generate smallPaths) mixedStart.anew with
      | (.ok _, p) => p.missing.length == 1
      | (.error _, _) => false) = true := by decide +kernel
  rcases hp : outcome (fetchingPlan.generate smallPaths) mixedStart.anew with ⟨fault | u, p⟩
  · rw [hp] at hrun
    cases hrun
  rw [hp] at hrun
  obtain ⟨sources, issues, missing, accounts, opened, mid, remarks, hs, hissues, -, hmissing, -, htoc, -, -, -,
    haccounts, -⟩ := (missing_iff_lacksNote fetchingPlan smallPaths mixedStart smallWeb rfl).2.1 p hp
  have htwo : (match mixedStart.files.sources smallPaths.summary smallPaths.bugs smallPaths.notes with
      | .ok sources => (Tracker.issues sources.notes fetchingPlan.settings.tracker.noteFilename).toOption.map
        List.length
      | .error _ => none) = some 2 := by decide +kernel
  rw [hs] at htwo
  dsimp only at htwo
  rw [hissues] at htwo
  have hlength : missing.length = 1 := by
    have hnone : mixedStart.missing = [] := rfl
    rw [hnone, List.nil_append] at hmissing
    rw [← hmissing]
    exact beq_iff_eq.mp hrun
  exact ⟨p, issues, missing, rfl, hlength, Option.some.inj htwo, hmissing, accounts, htoc, haccounts⟩

end ReleaseNotes
