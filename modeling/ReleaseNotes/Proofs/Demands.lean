import Mathlib.Data.List.TakeWhile
import ReleaseNotes.Proofs.Checks
import ReleaseNotes.Proofs.Legal
import ReleaseNotes.Proofs.Routing

/-!
# What an assembly demands

Of the documents that a pamphlet is assembled from, an assembly demands that some elements be there and
that some texts have a form (`Plan.demands`). With settings that a document can always hold
(`Settings.AreLegal`) and no copies that mislead it (`Plan.Suits`), it demands nothing else: it comes to
what its demands come to, made in turn (`Plan.Suits.fst_outcome_assemble`).
-/

namespace ReleaseNotes

open Markup

variable {α β ε : Type}

/-! ### Demands -/

/-- An element has a descendant with a name. -/
def Markup.Node.needs (n : Node) (label : String) : Except InputFault Unit :=
  if (n.descendant? label).isSome then .ok () else .error (.missingChild label (n.localName?.getD ""))

namespace Tracker

/-- The title of an item, if there is one, has a closing bracket. -/
def needsBracket (item : Node) : Except InputFault Unit :=
  match item.descendant? titleLabel with
  | none => .ok ()
  | some title => if ']' ∈ title.directText.toList then .ok () else .error (.unbracketedTitle title.directText)

/-- Whether an attachment has the name of notes. -/
def isNote (noteFile : String) (attachment : Node) : Bool :=
  attachment.attribute? nameLabel == some noteFile

/-- The attachments of an item that have the name of notes. -/
def noteAttachments (noteFile : String) (item : Node) : List Node :=
  match item.descendant? attachmentsLabel with
  | none => []
  | some attachments => (attachments.descendants attachmentLabel).filter (isNote noteFile)

/-- The identifier of an attachment as it is written. -/
def writtenId (attachment : Node) : String :=
  (attachment.attribute? idLabel).getD ""

/-- The identifier of an attachment is a number. -/
def needsId (attachment : Node) : Except InputFault Unit :=
  if (attachmentId? (writtenId attachment).toList).isSome then .ok ()
  else .error (.badAttachmentId (writtenId attachment))

/-- What is demanded of an item. -/
def itemDemands (noteFile : String) (item : Node) : List (Except InputFault Unit) :=
  [item.needs keyLabel, item.needs titleLabel, needsBracket item] ++ (noteAttachments noteFile item).map needsId

end Tracker

/-- A field of the summary is there. -/
def Sources.needs (sources : Sources) (field : SummaryField) : Check :=
  (sources.summary.root.needs field.label).mapError .input

/-- What is demanded of the items of a report. -/
def Plan.reportDemands (plan : Plan) (report : Node) : List Check :=
  (report.descendants itemLabel).flatMap fun item =>
    (Tracker.itemDemands plan.settings.tracker.noteFilename item).map (·.mapError .input)

/-- What is demanded of the note of an issue: that it can be had, and that it has a paragraph and a body. -/
def Plan.noteDemands (plan : Plan) (issue : Tracker.Issue) : List Check :=
  match (plan.fetch issue).result with
  | .error fault => [.error (.fetch fault)]
  | .ok (.failed fault) => [.error (.network fault)]
  | .ok .absent => []
  | .ok (.note note) =>
    [(note.root.needs PageElement.paragraph.label).mapError (.note ∘ .noSummary issue.key),
      (note.root.needs PageElement.body.label).mapError (.note ∘ .noBody issue.key)]

/-- What a step demands. -/
def Plan.stepDemands (plan : Plan) (sources : Sources) : Step → List Check
  | .opening => [sources.needs .releaseId, sources.needs .previousReleaseId]
  | .overview => [sources.needs .overview]
  | .newFeatures => [sources.needs .newFeatures]
  | .bugList => plan.reportDemands sources.bugs
  | .issuesList => plan.reportDemands sources.notes ++ (plan.issuesOf sources.notes).flatMap plan.noteDemands
  | .environment => buildEnvironment.map fun entry => sources.needs entry.2

/-- What an assembly demands, in the order in which it does. -/
def Plan.demands (plan : Plan) (sources : Sources) : List Check :=
  Step.all.flatMap (plan.stepDemands sources)

/-! ### Readings that meet demands -/

theorem inTurn_flatMap (f : α → List (Except ε Unit)) (l : List α) :
    inTurn (l.flatMap f) = inTurn (l.map fun a => inTurn (f a)) := by
  induction l with
  | nil => rfl
  | cons a l ih => rw [List.flatMap_cons, inTurn_append, List.map_cons, inTurn_cons, ih]

theorem passed_mapError {ε' : Type} (f : ε → ε') (made : Except ε α) :
    passed (made.mapError f) = (passed made).mapError f := by
  cases made <;> rfl

theorem eq_error_of_passed {made : Except ε α} {e : ε} (h : passed made = .error e) : made = .error e := by
  cases made with
  | error e' =>
    cases h
    rfl
  | ok a => cases h

theorem passed_require (n : Node) (label : String) : passed (n.require label) = n.needs label := by
  unfold Node.require Node.needs
  cases n.descendant? label <;> rfl

theorem require_eq_ok {n m : Node} {label : String} (h : n.require label = .ok m) :
    n.descendant? label = some m := by
  unfold Node.require at h
  split at h
  · rename_i hn
    cases h
    exact hn
  · cases h

namespace Tracker

/-- A title is stripped just if it has a closing bracket. -/
theorem passed_stripTitle (title : String) :
    passed (stripTitle title) = if ']' ∈ title.toList then .ok () else .error (.unbracketedTitle title) := by
  unfold stripTitle
  by_cases h : ']' ∈ title.toList
  · rw [if_pos h]
    split
    · rfl
    · rename_i hd
      have := List.dropWhile_eq_nil_iff.mp hd _ h
      simp at this
  · rw [if_neg h, List.dropWhile_eq_nil_iff.mpr fun c hc => ?_]
    · rfl
    · rw [bne_iff_ne]
      rintro rfl
      exact h hc

theorem passed_readAttachmentId (attachment : Node) :
    passed (readAttachmentId (writtenId attachment)) = needsId attachment := by
  unfold readAttachmentId needsId
  cases attachmentId? (writtenId attachment).toList <;> rfl

theorem latestNote_cons (noteFile : String) (latest? : Option Int) (attachment : Node) (rest : List Node) :
    latestNote noteFile latest? (attachment :: rest) =
      if isNote noteFile attachment then
        readAttachmentId (writtenId attachment) >>= fun id => latestNote noteFile (laterNote latest? id) rest
      else latestNote noteFile latest? rest := by
  rw [latestNote, isNote, writtenId]
  cases readAttachmentId ((attachment.attribute? idLabel).getD "") <;> rfl

theorem passed_latestNote (noteFile : String) (latest? : Option Int) (attachments : List Node) :
    passed (latestNote noteFile latest? attachments) =
      inTurn ((attachments.filter (isNote noteFile)).map needsId) := by
  induction attachments generalizing latest? with
  | nil => rfl
  | cons attachment rest ih =>
    rw [latestNote_cons]
    cases hn : isNote noteFile attachment with
    | true =>
      rw [if_pos rfl, List.filter_cons_of_pos hn, List.map_cons, inTurn_cons, ← passed_readAttachmentId]
      cases readAttachmentId (writtenId attachment) with
      | error fault => rfl
      | ok id => exact ih _
    | false =>
      rw [if_neg Bool.false_ne_true, List.filter_cons_of_neg (ne_true_of_eq_false hn)]
      exact ih _

theorem passed_latestNoteId? (item : Node) (noteFile : String) :
    passed (latestNoteId? item noteFile) = inTurn ((noteAttachments noteFile item).map needsId) := by
  unfold latestNoteId? noteAttachments
  cases item.descendant? attachmentsLabel with
  | none => rfl
  | some attachments => exact passed_latestNote noteFile none _

/-- An item is read just if all that is demanded of it is there. -/
theorem passed_ofItem (item : Node) (noteFile : String) :
    passed (Issue.ofItem item noteFile) = inTurn (itemDemands noteFile item) := by
  rw [itemDemands, inTurn_append, ← passed_latestNoteId?, inTurn_cons, inTurn_pair, ← passed_require,
    ← passed_require, Issue.ofItem]
  cases item.require keyLabel with
  | error fault => rfl
  | ok key =>
    cases ht : item.require titleLabel with
    | error fault => rfl
    | ok title =>
      have hb : needsBracket item = passed (stripTitle title.directText) := by
        rw [needsBracket, require_eq_ok ht, passed_stripTitle]
      rw [hb, ok_bind, ok_bind]
      cases stripTitle title.directText with
      | error fault => rfl
      | ok stripped => cases latestNoteId? item noteFile <;> rfl

end Tracker

/-! ### Settings and documents with legal texts -/

/-- The templates of sentences that may use only the names of the product and the releases. -/
def WordingSettings.sentences (w : WordingSettings) : List String :=
  [w.title, w.delta, w.bugFixes, w.issues, w.environment]

/-- Settings that lead to legal texts only: so does every template, whatever legal texts its names stand
for, and the width of the border can be written. -/
structure Settings.AreLegal (settings : Settings) : Prop where
  /-- Sentences say something legal. -/
  sentence (template : String) (ht : template ∈ settings.wording.sentences) (product release previous : String)
    (hn : isLegalText product) (hr : isLegalText release) (hp : isLegalText previous) :
    ∃ said, settings.language.render template (sentenceContext product release previous) = .ok said ∧
      isLegalText said
  /-- The text about the branch says something legal. -/
  branch (product release previous branch : String) (hn : isLegalText product) (hr : isLegalText release)
    (hp : isLegalText previous) (hb : isLegalText branch) :
    ∃ said, settings.language.render settings.wording.branch
      (sentenceContext product release previous ++ [(branchName, .plain branch)]) = .ok said ∧ isLegalText said
  /-- The name of the product is legal. -/
  product : isLegalText settings.wording.product
  /-- The summary of an issue without a note is legal. -/
  missingNote : isLegalText settings.wording.missingNote
  /-- The address of the tracker is legal. -/
  baseUrl : isLegalText settings.tracker.baseUrl
  /-- The address of the pages of issues is legal. -/
  browseUrl (url : String) (hu : settings.tracker.browseUrl? = some url) : isLegalText url
  /-- The width of the border can be written. -/
  border : Text.fitsDecimal settings.wording.borderWidth

theorem Settings.AreLegal.pages {settings : Settings} (h : settings.AreLegal) :
    isLegalText settings.tracker.pages := by
  rw [TrackerSettings.pages]
  cases hf : filled? settings.tracker.browseUrl? with
  | none =>
    rw [Option.getD_none, isLegalText_append, isLegalText_dropSlashes h.baseUrl]
    rfl
  | some url => exact h.browseUrl url (Option.filter_eq_some_iff.mp hf).1

/-- Documents that hold legal text only. -/
structure Sources.AreLegal (sources : Sources) : Prop where
  /-- The summary does. -/
  summary : sources.summary.root.HasLegalText
  /-- The report of the fixed bugs does. -/
  bugs : sources.bugs.HasLegalText
  /-- The report of the issues with detailed notes does. -/
  notes : sources.notes.HasLegalText

theorem hasLegalText_of_document {files : Files} {path : String} {document : Document}
    (h : files.document path = .ok document) : document.root.HasLegalText := by
  unfold Files.document at h
  split at h
  · cases h
  · split at h
    · rename_i hd
      cases h
      exact hasLegalText_of_read hd
    · cases h
    · cases h

/-- Documents that are read from files hold legal text only. -/
theorem areLegal_of_sources {files : Files} {summary bugs notes : String} {sources : Sources}
    (h : files.sources summary bugs notes = .ok sources) : sources.AreLegal := by
  obtain ⟨summary, hs, h⟩ := bind_eq_ok.mp h
  obtain ⟨bugs, hb, h⟩ := bind_eq_ok.mp h
  obtain ⟨notes, hn, h⟩ := bind_eq_ok.mp h
  cases h
  exact ⟨hasLegalText_of_document hs, hasLegalText_of_document hb, hasLegalText_of_document hn⟩

/-! ### Sentences -/

section Sentences

variable {plan : Plan} {sources : Sources} {field : SummaryField} {template said : String}

theorem passed_text (sources : Sources) (field : SummaryField) :
    passed ((sources.summary.text field).mapError .input) = sources.needs field := by
  rw [passed_mapError, Sources.needs, ← passed_require, Summary.text, Summary.fragment]
  cases sources.summary.root.require field.label <;> rfl

theorem exists_text_of_needs (hl : sources.AreLegal) (h : sources.needs field = .ok ()) :
    ∃ text, (sources.summary.text field).mapError AssemblyFault.input = .ok text ∧ isLegalText text := by
  rw [Sources.needs, ← passed_require] at h
  rw [Summary.text, Summary.fragment]
  cases hr : sources.summary.root.require field.label with
  | error fault =>
    rw [hr] at h
    cases h
  | ok n => exact ⟨n.directText, rfl, (hl.summary.descendant? (require_eq_ok hr)).directText⟩

/-- What is said in a sentence says what the releases are. -/
theorem needs_of_phrase {more : Template.Context} (h : plan.phrase sources template more = .ok said) :
    sources.needs .releaseId = .ok () ∧ sources.needs .previousReleaseId = .ok () := by
  obtain ⟨release, hr, h⟩ := bind_eq_ok.mp h
  obtain ⟨previous, hp, -⟩ := bind_eq_ok.mp h
  rw [← passed_text, ← passed_text, hr, hp]
  exact ⟨rfl, rfl⟩

theorem exists_phrase (hs : plan.settings.AreLegal) (hl : sources.AreLegal)
    (hr : sources.needs .releaseId = .ok ()) (hp : sources.needs .previousReleaseId = .ok ())
    (ht : template ∈ plan.settings.wording.sentences) :
    ∃ said, plan.phrase sources template [] = .ok said ∧ isLegalText said := by
  obtain ⟨release, hrel, hlr⟩ := exists_text_of_needs hl hr
  obtain ⟨previous, hprev, hlp⟩ := exists_text_of_needs hl hp
  obtain ⟨said, hsaid, hls⟩ := hs.sentence template ht _ release previous hs.product hlr hlp
  refine ⟨said, ?_, hls⟩
  rw [Plan.phrase, hrel, ok_bind, hprev, ok_bind, List.append_nil]
  exact congrArg (Except.mapError AssemblyFault.template) hsaid

theorem exists_branchPhrase (hs : plan.settings.AreLegal) (hl : sources.AreLegal)
    (hr : sources.needs .releaseId = .ok ()) (hp : sources.needs .previousReleaseId = .ok ()) {branch : String}
    (hb : isLegalText branch) :
    ∃ said, plan.phrase sources plan.settings.wording.branch [(branchName, .plain branch)] = .ok said ∧
      isLegalText said := by
  obtain ⟨release, hrel, hlr⟩ := exists_text_of_needs hl hr
  obtain ⟨previous, hprev, hlp⟩ := exists_text_of_needs hl hp
  obtain ⟨said, hsaid, hls⟩ := hs.branch _ release previous branch hs.product hlr hlp hb
  refine ⟨said, ?_, hls⟩
  rw [Plan.phrase, hrel, ok_bind, hprev, ok_bind]
  exact congrArg (Except.mapError AssemblyFault.template) hsaid

theorem legal_eq_ok (h : isLegalText said) : legal said = .ok () :=
  if_pos h

/-- A sentence demands that the summary says what the releases are. -/
theorem utters_eq_needs (hs : plan.settings.AreLegal) (hl : sources.AreLegal)
    (ht : template ∈ plan.settings.wording.sentences) :
    plan.utters sources template = inTurn [sources.needs .releaseId, sources.needs .previousReleaseId] := by
  rw [inTurn_pair]
  cases hr : sources.needs .releaseId with
  | error fault =>
    rw [← passed_text] at hr
    rw [Plan.utters, Plan.phrase, eq_error_of_passed hr]
    rfl
  | ok u =>
    cases hp : sources.needs .previousReleaseId with
    | error fault =>
      obtain ⟨release, hrel, -⟩ := exists_text_of_needs hl hr
      rw [← passed_text] at hp
      rw [Plan.utters, Plan.phrase, hrel, ok_bind, eq_error_of_passed hp]
      rfl
    | ok u' =>
      obtain ⟨said, hsaid, hls⟩ := exists_phrase hs hl hr hp ht
      rw [Plan.utters, hsaid, ok_bind, legal_eq_ok hls]
      rfl

/-- Once it is known what the releases are, a sentence can be put under any element. -/
theorem introduces_eq_ok (hs : plan.settings.AreLegal) (hl : sources.AreLegal)
    (hr : sources.needs .releaseId = .ok ()) (hp : sources.needs .previousReleaseId = .ok ())
    (ht : template ∈ plan.settings.wording.sentences) (tag : Tag) (inner : List Node) :
    plan.introduces sources template (some (.element tag inner)) = .ok () := by
  rw [Plan.introduces, utters_eq_needs hs hl ht, hr, hp]
  rfl

theorem copies_eq_needs (sources : Sources) (field : SummaryField) (tag : Tag) (inner : List Node) :
    sources.copies field (some (.element tag inner)) = sources.needs field := by
  rw [Sources.copies, Sources.needs, ← passed_require, ← passed_mapError, Summary.fragment]
  cases sources.summary.root.require field.label <;> rfl

/-- Once it is known what the releases are, a field of the build environment need only be there. -/
theorem states_eq_needs (hs : plan.settings.AreLegal) (hl : sources.AreLegal)
    (hr : sources.needs .releaseId = .ok ()) (hp : sources.needs .previousReleaseId = .ok ())
    (field : SummaryField) : plan.states sources field = sources.needs field := by
  cases hf : sources.needs field with
  | error fault =>
    rw [← passed_text] at hf
    rw [Plan.states, Plan.environmentPhrase, eq_error_of_passed hf]
    rfl
  | ok u =>
    obtain ⟨text, htext, hlt⟩ := exists_text_of_needs hl hf
    rw [Plan.states, Plan.environmentPhrase, htext, ok_bind]
    split
    · obtain ⟨said, hsaid, hls⟩ := exists_branchPhrase hs hl hr hp hlt
      rw [hsaid, ok_bind, legal_eq_ok hls]
      rfl
    · show onPage (legal text) = _
      rw [legal_eq_ok hlt]
      rfl

end Sentences

/-! ### Issues -/

section Issues

variable {plan : Plan} {sources : Sources} {report item : Node} {issue : Tracker.Issue} {noteFile : String}

theorem exists_of_mem_mapM {f : α → Except ε β} {l : List α} {k : List β} {b : β} (h : l.mapM f = .ok k)
    (hb : b ∈ k) : ∃ a ∈ l, f a = .ok b := by
  rw [mapM_eq_ok_iff_forall₂] at h
  induction h with
  | nil => cases hb
  | @cons a b' l k ha _ ih =>
    obtain rfl | hb := List.mem_cons.mp hb
    · exact ⟨a, .head _, ha⟩
    · obtain ⟨a', ha', hf⟩ := ih hb
      exact ⟨a', .tail _ ha', hf⟩

/-- The key and the title of an issue are legal if its report is. -/
theorem isLegalText_of_ofItem (hl : item.HasLegalText) (h : Tracker.Issue.ofItem item noteFile = .ok issue) :
    isLegalText issue.key ∧ isLegalText issue.title := by
  obtain ⟨key, hk, h⟩ := bind_eq_ok.mp h
  obtain ⟨title, ht, h⟩ := bind_eq_ok.mp h
  obtain ⟨stripped, hs, h⟩ := bind_eq_ok.mp h
  obtain ⟨id?, -, h⟩ := bind_eq_ok.mp h
  cases h
  exact ⟨(hl.descendant? (require_eq_ok hk)).directText,
    isLegalText_of_stripTitle (hl.descendant? (require_eq_ok ht)).directText hs⟩

theorem exists_item_of_mem (h : issue ∈ plan.issuesOf report) : ∃ item ∈ report.descendants itemLabel,
    Tracker.Issue.ofItem item plan.settings.tracker.noteFilename = .ok issue := by
  rcases plan.issuesOf_eq_nil_or report with hnone | hread
  · rw [hnone] at h
    cases h
  · exact exists_of_mem_mapM hread h

theorem isLegalText_of_mem (hl : report.HasLegalText) (h : issue ∈ plan.issuesOf report) :
    isLegalText issue.key ∧ isLegalText issue.title := by
  obtain ⟨item, hm, hi⟩ := exists_item_of_mem h
  exact isLegalText_of_ofItem (hl.descendants hm) hi

/-- All issues of a report that are shown can be shown. -/
def Plan.Shows (plan : Plan) (report : Node) : Prop :=
  plan.isTalkative → ∀ item ∈ report.descendants itemLabel, ∀ issue,
    Tracker.Issue.ofItem item plan.settings.tracker.noteFilename = .ok issue → issue.shownLine.isOk

/-- A report is read just if all that is demanded of its items is there. -/
theorem inTurn_map_reads (h : plan.Shows report) :
    inTurn ((report.descendants itemLabel).map plan.reads) = inTurn (plan.reportDemands report) := by
  rw [Plan.reportDemands, inTurn_flatMap]
  refine congrArg inTurn (List.map_congr_left fun item hm => ?_)
  rw [inTurn_map_mapError, ← Tracker.passed_ofItem, Plan.reads]
  cases hi : Tracker.Issue.ofItem item plan.settings.tracker.noteFilename with
  | error fault => rfl
  | ok issue =>
    show (if plan.isTalkative then passed issue.shownLine else .ok ()) = .ok ()
    split
    · rename_i ht
      have hs := h ht item hm issue hi
      cases hline : issue.shownLine with
      | error fault =>
        rw [hline] at hs
        cases hs
      | ok line => rfl
    · rfl

theorem lists_eq_ok (hs : plan.settings.AreLegal) (hl : report.HasLegalText)
    (h : issue ∈ plan.issuesOf report) : plan.lists issue = .ok () := by
  obtain ⟨hk, ht⟩ := isLegalText_of_mem hl h
  have hu : isLegalText (issue.pageUrl plan.settings.tracker.pages) := by
    rw [Tracker.Issue.pageUrl, isLegalText_append, isLegalText_append, isLegalText_dropSlashes hs.pages, hk]
    rfl
  rw [Plan.lists, legal_eq_ok hk, legal_eq_ok hu, legal_eq_ok ht]
  rfl

/-- What is told of an issue demands a note that is complete, if it has one. -/
theorem tells_eq_noteDemands (hs : plan.settings.AreLegal)
    (hn : ∀ note, (plan.fetch issue).result = .ok (.note note) → note.root.HasLegalText)
    (hk : isLegalText issue.key) : plan.tells issue = inTurn (plan.noteDemands issue) := by
  have hname : isLegalText issue.sectionName := by
    rw [Tracker.Issue.sectionName, isLegalText_append, hk]
    rfl
  have hpage (summary : String) (h : isLegalText summary) :
      onPage (inTurn [legal (issue.caption summary), legal issue.sectionName]) = .ok () := by
    have hc : isLegalText (issue.caption summary) := by
      rw [Tracker.Issue.caption, isLegalText_append, isLegalText_append, hname, h]
      rfl
    rw [legal_eq_ok hc, legal_eq_ok hname]
    rfl
  rw [Plan.tells, Plan.noteFor, Plan.noteDemands]
  cases hf : (plan.fetch issue).result with
  | error fault => rfl
  | ok fetched =>
    cases fetched with
    | absent =>
      show (onPage (inTurn [legal (issue.caption plan.settings.wording.missingNote), _]) >>= fun _ => _) = _
      rw [hpage _ hs.missingNote]
      rfl
    | failed fault => rfl
    | note note =>
      dsimp only
      rw [inTurn_pair, ← passed_require, ← passed_require]
      show ((Tracker.noteSummary issue.key note.root).mapError AssemblyFault.note >>= fun summary =>
        onPage (inTurn [legal (issue.caption summary), legal issue.sectionName]) >>= fun _ =>
          passed ((Tracker.noteBody issue.key note.root).mapError .note)) = _
      unfold Tracker.noteSummary Tracker.noteBody
      cases hp : note.root.require PageElement.paragraph.label with
      | error cause => rfl
      | ok paragraph =>
        have ht := ((hn note hf).descendant? (require_eq_ok hp)).directText
        show (onPage (inTurn [legal (issue.caption (Text.joinWords paragraph.directText)), _]) >>=
          fun _ => _) = _
        rw [hpage _ (isLegalText_joinWords ht)]
        cases note.root.require PageElement.body.label <;> rfl

end Issues

/-! ### Steps -/

/-- A plan and documents of which an assembly demands nothing but what must be there. -/
structure Plan.Suits (plan : Plan) (sources : Sources) : Prop where
  /-- The settings lead to legal texts. -/
  settings : plan.settings.AreLegal
  /-- The documents hold legal text. -/
  documents : sources.AreLegal
  /-- So do the notes. -/
  notes (issue : Tracker.Issue) (note : Document) (hf : (plan.fetch issue).result = .ok (.note note)) :
    note.root.HasLegalText
  /-- No copy holds a heading that bears the name of a section. -/
  copies (t : Section) (copied : List Node) (hc : copied ∈ plan.copies sources t) (s : Section) :
    anywhere (isHeader .mainSection s.title) copied = false
  /-- The fixed bugs can be shown. -/
  bugs : plan.Shows sources.bugs
  /-- The issues with detailed notes can be shown. -/
  issues : plan.Shows sources.notes

section Steps

variable {plan : Plan} {sources : Sources} {start p : Progress} {s : Section} {step : Step}

theorem Plan.Suits.finds (h : plan.Suits sources) (start : Progress) (s : Section) :
    plan.Finds sources start s := by
  induction s using Section.induct_earlier with
  | h s ih => exact (finds_iff ih).mpr fun p _ t _ copied hc => h.copies t copied hc s

/-- A section that is reached has a block to add to, and by then it is known what the releases are. -/
theorem Plan.Suits.ground (h : plan.Suits sources)
    (hreach : outcome (plan.reach sources s.step) start.anew = (.ok (), p)) :
    (∃ inner, plan.ground sources start s = some (Layout.holder .block inner)) ∧
      sources.needs .releaseId = .ok () ∧ sources.needs .previousReleaseId = .ok () := by
  have hfound := h.finds start s p hreach
  have hreached := hreach
  rw [Plan.reach, before_step] at hreach
  obtain ⟨_, q, hq, ha⟩ := outcome_bind_eq_ok.mp hreach
  obtain ⟨later, hall⟩ := s.exists_all_eq
  obtain ⟨title, delta, ht, -, -, hp⟩ := exists_draftWith hall (fun t _ => h.finds start t) hq
  refine ⟨⟨(plan.draftWith sources title delta s.earlier).blocks s, ?_⟩, needs_of_phrase ht⟩
  rw [Plan.ground, hreached]
  dsimp only
  rw [hfound, Draft.trees_eq ((Reads.announce plan s.step).pamphlet_eq hp ha)]
  exact nodeAt?_block _ s

theorem writable_eq_ok {border : Int} (h : Text.fitsDecimal border) : writable border = .ok () := by
  rw [writable, Text.decimal?, if_pos h]
  rfl

/-- In a step that is reached, what is checked is what it demands. -/
theorem Plan.Suits.inTurn_stepChecks (h : plan.Suits sources)
    (hreach : outcome (plan.reach sources step) start.anew = (.ok (), p)) :
    inTurn (plan.stepChecks sources (plan.ground sources start) step) =
      inTurn (plan.stepDemands sources step) := by
  have hground {s : Section} (hs : s.step = step) := h.ground (s := s) (by rw [hs]; exact hreach)
  have hintro {template : String} (ht : template ∈ plan.settings.wording.sentences)
      (hr : sources.needs .releaseId = .ok ()) (hp : sources.needs .previousReleaseId = .ok ())
      (inner : List Node) : plan.introduces sources template (some (Layout.holder .block inner)) = .ok () :=
    introduces_eq_ok h.settings h.documents hr hp ht _ inner
  cases step with
  | opening =>
    rw [Plan.stepChecks, Plan.stepDemands, inTurn_pair, utters_eq_needs h.settings h.documents (.head _),
      utters_eq_needs h.settings h.documents (.tail _ (.head _))]
    cases inTurn [sources.needs .releaseId, sources.needs .previousReleaseId] <;> rfl
  | overview =>
    obtain ⟨⟨inner, hg⟩, -⟩ := hground (s := .overview) rfl
    rw [Plan.stepChecks, Plan.stepDemands, hg, Layout.holder, copies_eq_needs]
  | newFeatures =>
    obtain ⟨⟨inner, hg⟩, -⟩ := hground (s := .newFeatures) rfl
    rw [Plan.stepChecks, Plan.stepDemands, hg, Layout.holder, copies_eq_needs]
  | bugList =>
    obtain ⟨⟨inner, hg⟩, hr, hp⟩ := hground (s := .bugFixes) rfl
    have hlists : inTurn ((plan.issuesOf sources.bugs).map plan.lists) = .ok () :=
      inTurn_eq_ok_iff.mpr <| List.forall_mem_map.mpr fun bug hb => lists_eq_ok h.settings h.documents.bugs hb
    rw [Plan.stepChecks, Plan.stepDemands, inTurn_append, inTurn_append, inTurn_map_reads h.bugs, hlists,
      inTurn_pair, hg, hintro (.tail _ (.tail _ (.head _))) hr hp, writable_eq_ok h.settings.border]
    cases inTurn (plan.reportDemands sources.bugs) <;> rfl
  | issuesList =>
    obtain ⟨⟨inner, hg⟩, hr, hp⟩ := hground (s := .issues) rfl
    have htells : (plan.issuesOf sources.notes).map plan.tells =
        (plan.issuesOf sources.notes).map fun issue => inTurn (plan.noteDemands issue) :=
      List.map_congr_left fun issue hi => tells_eq_noteDemands h.settings (h.notes issue)
        (isLegalText_of_mem h.documents.notes hi).1
    rw [Plan.stepChecks, Plan.stepDemands, inTurn_append, inTurn_append, inTurn_append,
      inTurn_map_reads h.issues, htells, ← inTurn_flatMap, inTurn_singleton, hg,
      hintro (.tail _ (.tail _ (.tail _ (.head _)))) hr hp]
    cases inTurn (plan.reportDemands sources.notes) <;> rfl
  | environment =>
    obtain ⟨⟨inner, hg⟩, hr, hp⟩ := hground (s := .buildEnvironment) rfl
    have hstates : (buildEnvironment.map fun entry => plan.states sources entry.2) =
        buildEnvironment.map fun entry => sources.needs entry.2 :=
      List.map_congr_left fun entry _ => states_eq_needs h.settings h.documents hr hp entry.2
    rw [Plan.stepChecks, Plan.stepDemands, inTurn_cons, hstates, hg,
      hintro (.tail _ (.tail _ (.tail _ (.tail _ (.head _))))) hr hp, ok_bind]

/-- After some steps that pass all checks, what is checked in the others is what they demand. -/
theorem Plan.Suits.inTurn_flatMap_stepChecks (h : plan.Suits sources) (start : Progress)
    {before after : List Step} (hall : Step.all = before ++ after)
    (hb : inTurn (before.flatMap (plan.stepChecks sources (plan.ground sources start))) = .ok ()) :
    inTurn (after.flatMap (plan.stepChecks sources (plan.ground sources start))) =
      inTurn (after.flatMap (plan.stepDemands sources)) := by
  induction after generalizing before with
  | nil => rfl
  | cons step after ih =>
    obtain ⟨p, hreach⟩ : ∃ p, outcome (plan.reach sources step) start.anew = (.ok (), p) :=
      exists_reach_of_checks step (by rwa [Step.before_eq hall])
    rw [List.flatMap_cons, List.flatMap_cons, inTurn_append, inTurn_append, ← h.inTurn_stepChecks hreach]
    cases hs : inTurn (plan.stepChecks sources (plan.ground sources start) step) with
    | error fault => rfl
    | ok u =>
      refine ih (hall.trans (List.append_cons before step after)) ?_
      rw [List.flatMap_append, inTurn_append, hb, ok_bind, List.flatMap_singleton]
      exact hs

/-- An assembly comes to what it demands comes to. -/
theorem Plan.Suits.fst_outcome_assemble (h : plan.Suits sources) (start : Progress) :
    (outcome (plan.assemble sources) start.anew).1 = inTurn (plan.demands sources) := by
  rw [assemble_eq_inTurn]
  exact h.inTurn_flatMap_stepChecks start (List.nil_append _).symm rfl

end Steps

end ReleaseNotes
