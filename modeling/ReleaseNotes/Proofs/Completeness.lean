import ReleaseNotes.Proofs.Demands
import ReleaseNotes.Proofs.Exchange

/-!
# Complete documents

Documents are complete if the summary has all its fields, the items of the reports can be read, and the
note of every issue that has one can be had and has a paragraph and a body (`Plan.IsComplete`). An assembly
comes to its end just if they are, and fails with the first demand that is not met otherwise
(`assembles_iff_complete`).
-/

namespace ReleaseNotes

open Markup

variable {ε : Type}

/-! ### Complete documents -/

/-- An item has a key, a title with a closing bracket, and numbers for the identifiers of its notes. -/
structure Tracker.IsComplete (noteFile : String) (item : Node) : Prop where
  /-- The key is there. -/
  key : (item.descendant? keyLabel).isSome
  /-- The title is there, with a closing bracket. -/
  title : ∃ title, item.descendant? titleLabel = some title ∧ ']' ∈ title.directText.toList
  /-- The identifiers of the notes are numbers. -/
  ids (attachment : Node) (ha : attachment ∈ noteAttachments noteFile item) :
    (attachmentId? (writtenId attachment).toList).isSome

/-- Fetching the note of an issue does not fail, and if there is one it has a paragraph and a body. -/
def Plan.HasCompleteNote (plan : Plan) (issue : Tracker.Issue) : Prop :=
  ∃ fetched, (plan.fetch issue).result = .ok fetched ∧ (∀ fault, fetched ≠ .failed fault) ∧
    ∀ note, fetched = .note note → (note.root.descendant? PageElement.paragraph.label).isSome ∧
      (note.root.descendant? PageElement.body.label).isSome

/-- The summary has all fields, every item of the reports is complete, and so is the note of every issue
that is to have one. -/
structure Plan.IsComplete (plan : Plan) (sources : Sources) : Prop where
  /-- All fields of the summary are there. -/
  fields (field : SummaryField) : (sources.summary.root.descendant? field.label).isSome
  /-- The items of the report of the fixed bugs are complete. -/
  bugs (item : Node) (hi : item ∈ sources.bugs.descendants itemLabel) :
    Tracker.IsComplete plan.settings.tracker.noteFilename item
  /-- The items of the report of the issues with detailed notes are complete. -/
  issues (item : Node) (hi : item ∈ sources.notes.descendants itemLabel) :
    Tracker.IsComplete plan.settings.tracker.noteFilename item
  /-- The notes are complete. -/
  notes (issue : Tracker.Issue) (hi : issue ∈ plan.issuesOf sources.notes) : plan.HasCompleteNote issue

section Complete

variable {plan : Plan} {sources : Sources}

theorem ite_eq_ok_iff {c : Prop} [Decidable c] {e : ε} :
    (if c then .ok () else .error e : Except ε Unit) = .ok () ↔ c := by
  by_cases hc : c
  · rw [if_pos hc]
    exact iff_of_true rfl hc
  · rw [if_neg hc]
    exact iff_of_false nofun hc

theorem needs_eq_ok_iff {n : Node} {label : String} : n.needs label = .ok () ↔ (n.descendant? label).isSome :=
  ite_eq_ok_iff

theorem inTurn_itemDemands_eq_ok_iff {noteFile : String} {item : Node} :
    inTurn (Tracker.itemDemands noteFile item) = .ok () ↔ Tracker.IsComplete noteFile item := by
  rw [inTurn_eq_ok_iff, Tracker.itemDemands, List.forall_mem_append, List.forall_mem_cons, List.forall_mem_cons,
    List.forall_mem_singleton, List.forall_mem_map, needs_eq_ok_iff, needs_eq_ok_iff]
  constructor
  · rintro ⟨⟨hkey, htitle, hbracket⟩, hids⟩
    obtain ⟨title, ht⟩ := Option.isSome_iff_exists.mp htitle
    rw [Tracker.needsBracket, ht] at hbracket
    exact ⟨hkey, ⟨title, ht, ite_eq_ok_iff.mp hbracket⟩, fun note hn => ite_eq_ok_iff.mp (hids note hn)⟩
  · rintro ⟨hkey, ⟨title, ht, hbracket⟩, hids⟩
    rw [Tracker.needsBracket, ht]
    exact ⟨⟨hkey, rfl, ite_eq_ok_iff.mpr hbracket⟩, fun note hn => ite_eq_ok_iff.mpr (hids note hn)⟩

theorem inTurn_noteDemands_eq_ok_iff {issue : Tracker.Issue} :
    inTurn (plan.noteDemands issue) = .ok () ↔ plan.HasCompleteNote issue := by
  rw [Plan.noteDemands, Plan.HasCompleteNote]
  cases (plan.fetch issue).result with
  | error fault =>
    constructor
    · intro h
      cases h
    · rintro ⟨_, h, -⟩
      cases h
  | ok fetched =>
    cases fetched with
    | absent =>
      refine iff_of_true rfl ⟨.absent, rfl, fun fault h => ?_, fun note h => ?_⟩ <;> cases h
    | failed fault =>
      constructor
      · intro h
        cases h
      · rintro ⟨_, h, hf, -⟩
        cases h
        exact absurd rfl (hf fault)
    | note note =>
      rw [inTurn_eq_ok_iff, List.forall_mem_cons, List.forall_mem_singleton, mapError_eq_ok_iff,
        mapError_eq_ok_iff, needs_eq_ok_iff, needs_eq_ok_iff]
      constructor
      · rintro ⟨hp, hb⟩
        refine ⟨.note note, rfl, fun fault h => ?_, fun note' h => ?_⟩ <;> cases h
        exact ⟨hp, hb⟩
      · rintro ⟨_, h, -, hn⟩
        cases h
        exact hn note rfl

theorem inTurn_reportDemands_eq_ok_iff {report : Node} : inTurn (plan.reportDemands report) = .ok () ↔
    ∀ item ∈ report.descendants itemLabel, Tracker.IsComplete plan.settings.tracker.noteFilename item := by
  rw [Plan.reportDemands, inTurn_flatMap, inTurn_eq_ok_iff, List.forall_mem_map]
  refine forall₂_congr fun item _ => ?_
  rw [inTurn_map_mapError, mapError_eq_ok_iff, inTurn_itemDemands_eq_ok_iff]

theorem sources_needs_eq_ok_iff {field : SummaryField} :
    sources.needs field = .ok () ↔ (sources.summary.root.descendant? field.label).isSome := by
  rw [Sources.needs, mapError_eq_ok_iff, needs_eq_ok_iff]

/-- Every field of the summary is demanded in some step. -/
theorem needs_of_demands (h : ∀ step, inTurn (plan.stepDemands sources step) = .ok ()) (field : SummaryField) :
    sources.needs field = .ok () := by
  have hopening := inTurn_eq_ok_iff.mp (h .opening)
  have henvironment := List.forall_mem_map.mp (inTurn_eq_ok_iff.mp (h .environment))
  have hentry (entry : Headline × SummaryField) (he : entry ∈ buildEnvironment) :
      sources.needs entry.2 = .ok () := henvironment entry he
  cases field with
  | releaseId => exact hopening _ (.head _)
  | previousReleaseId => exact hopening _ (.tail _ (.head _))
  | overview => exact (inTurn_singleton _).symm.trans (h .overview)
  | newFeatures => exact (inTurn_singleton _).symm.trans (h .newFeatures)
  | branch => exact hentry (.branch, .branch) (by decide)
  | machine => exact hentry (.machine, .machine) (by decide)
  | antVersion => exact hentry (.ant, .antVersion) (by decide)
  | jdk14 => exact hentry (.jdk14, .jdk14) (by decide)
  | java6 => exact hentry (.java6, .java6) (by decide)
  | osgi => exact hentry (.osgi, .osgi) (by decide)
  | compilers => exact hentry (.compiler, .compilers) (by decide)
  | jsr169 => exact hentry (.jsr169, .jsr169) (by decide)

/-- All that an assembly demands is there just if its documents are complete. -/
theorem inTurn_demands_eq_ok_iff : inTurn (plan.demands sources) = .ok () ↔ plan.IsComplete sources := by
  have hall : inTurn (plan.demands sources) = .ok () ↔
      ∀ step, inTurn (plan.stepDemands sources step) = .ok () := by
    rw [Plan.demands, inTurn_flatMap, inTurn_eq_ok_iff, List.forall_mem_map]
    exact forall_congr' fun step => imp_iff_right (by cases step <;> decide)
  rw [hall]
  constructor
  · intro h
    have hissues := h .issuesList
    rw [Plan.stepDemands, inTurn_append] at hissues
    obtain ⟨_, hreport, hnotes⟩ := bind_eq_ok.mp hissues
    rw [inTurn_flatMap, inTurn_eq_ok_iff, List.forall_mem_map] at hnotes
    exact
      { fields := fun field => sources_needs_eq_ok_iff.mp (needs_of_demands h field)
        bugs := inTurn_reportDemands_eq_ok_iff.mp (h .bugList)
        issues := inTurn_reportDemands_eq_ok_iff.mp hreport
        notes := fun issue hi => inTurn_noteDemands_eq_ok_iff.mp (hnotes issue hi) }
  · intro h step
    have hneeds (field : SummaryField) : sources.needs field = .ok () :=
      sources_needs_eq_ok_iff.mpr (h.fields field)
    cases step with
    | opening => rw [Plan.stepDemands, inTurn_pair, hneeds, hneeds, ok_bind]
    | overview => rw [Plan.stepDemands, inTurn_singleton, hneeds]
    | newFeatures => rw [Plan.stepDemands, inTurn_singleton, hneeds]
    | bugList => exact inTurn_reportDemands_eq_ok_iff.mpr h.bugs
    | issuesList =>
      rw [Plan.stepDemands, inTurn_append, inTurn_reportDemands_eq_ok_iff.mpr h.issues, ok_bind, inTurn_flatMap,
        inTurn_eq_ok_iff, List.forall_mem_map]
      exact fun issue hi => inTurn_noteDemands_eq_ok_iff.mpr (h.notes issue hi)
    | environment => exact inTurn_eq_ok_iff.mpr (List.forall_mem_map.mpr fun entry _ => hneeds entry.2)

end Complete

/-! ### Assemblies of complete documents -/

/-- **When an assembly succeeds, and what it fails with otherwise.** With documents and notes that have
been read, settings that lead to legal texts, and no copy with a heading that bears the name of a section,
an assembly comes to its end if and only if its documents are complete. Otherwise it fails with the first
demand that is not met. (Only an assembly that shows its work asks that the issues can be shown.) -/
theorem assembles_iff_complete (plan : Plan) (sources : Sources) (start : Progress) {files : Files}
    {summary bugs notes : String} (hread : files.sources summary bugs notes = .ok sources)
    (hnotes : ∀ issue note, (plan.fetch issue).result = .ok (.note note) →
      ∃ octets, Document.read octets = .ok note)
    (hset : plan.settings.AreLegal)
    (hcopies : ∀ t, ∀ copied ∈ plan.copies sources t, ∀ s : Section,
      anywhere (isHeader .mainSection s.title) copied = false)
    (hbugs : plan.Shows sources.bugs) (hissues : plan.Shows sources.notes) :
    ((outcome (plan.assemble sources) start.anew).1 = .ok () ↔ plan.IsComplete sources) ∧
      ∀ fault, (outcome (plan.assemble sources) start.anew).1 = .error fault ↔
        ∃ before after, plan.demands sources = before ++ .error fault :: after ∧
          ∀ demand ∈ before, demand = .ok () := by
  have hsuits : plan.Suits sources :=
    { settings := hset
      documents := areLegal_of_sources hread
      notes := fun issue note hf => (hnotes issue note hf).elim fun _ => hasLegalText_of_read
      copies := hcopies
      bugs := hbugs
      issues := hissues }
  rw [hsuits.fst_outcome_assemble start]
  exact ⟨inTurn_demands_eq_ok_iff, fun fault => inTurn_eq_error_iff⟩

/-! ### A small release that is complete -/

/-- A note that is fetched has been read. -/
theorem exists_read_of_fetch {t : TrackerSettings} {web : Web} {issue : Tracker.Issue} {note : Document}
    (h : (fetch t web issue).result = .ok (.note note)) : ∃ octets, Document.read octets = .ok note := by
  obtain ⟨_, r, -, -, -, hread⟩ := exists_reply_of_fetch h
  exact ⟨r.content, hread⟩

/-- A web in which every address leads to a small note. -/
def smallWeb : Web := fun _ =>
  .reply ⟨200, "OK", Text.utf8 (writtenElement "html" (writtenElement "body" (writtenElement "p" ['s'])))⟩

/-- The plan for the small release with notes that are fetched. -/
def fetchingPlan : Plan :=
  { smallPlan with fetch := fetch smallPlan.settings.tracker smallWeb }

theorem areLegal_fetchingPlan : fetchingPlan.settings.AreLegal where
  sentence template ht product release previous _ _ _ := by
    have hlegal : ∀ template ∈ fetchingPlan.settings.wording.sentences, isLegalText template := by decide
    refine ⟨template, ?_, hlegal template ht⟩
    obtain _ | ⟨_, _ | ⟨_, _ | ⟨_, _ | ⟨_, _ | ⟨_, ⟨⟩⟩⟩⟩⟩⟩ := ht
    all_goals with_unfolding_all rfl
  branch _ _ _ _ _ _ _ _ := ⟨"R", by with_unfolding_all rfl, by decide⟩
  product := by decide
  missingNote := by decide
  baseUrl := by decide
  browseUrl := nofun
  border := by decide +kernel

/-- An attachment that is a note, as it is written. -/
def smallAttachment : List Char :=
  writtenElement "attachments" ("<attachment name='releaseNote.html'".toList ++ " id='7'/>".toList)

/-- The files of a small release with a note to fetch. -/
def fetchingStart : Progress :=
  smallStart ['v'] (smallItem "D-1" "[D-1] b" []) (smallItem "D-2" "[D-2] c" smallAttachment)

/-- The small release with a note to fetch is complete. -/
theorem complete_of_small_release : ∃ sources,
    fetchingStart.files.sources smallPaths.summary smallPaths.bugs smallPaths.notes = .ok sources ∧
      fetchingPlan.IsComplete sources := by
  have hrun : (match fetchingStart.files.sources smallPaths.summary smallPaths.bugs smallPaths.notes with
    | .ok sources => (Section.all.all fun t => (fetchingPlan.copies sources t).all fun copied =>
          Section.all.all fun s => !anywhere (isHeader .mainSection s.title) copied) &&
        (outcome (fetchingPlan.assemble sources) ({} : Progress).anew).1.isOk
    | .error _ => false) = true := by decide +kernel
  cases hs : fetchingStart.files.sources smallPaths.summary smallPaths.bugs smallPaths.notes with
  | error fault =>
    rw [hs] at hrun
    cases hrun
  | ok sources =>
    rw [hs] at hrun
    obtain ⟨hcopies, hok⟩ := Bool.and_eq_true_iff.mp hrun
    have hall := assembles_iff_complete fetchingPlan sources {} hs (fun _ _ => exists_read_of_fetch)
      areLegal_fetchingPlan (fun t copied hc s => by
        have ht := List.all_eq_true.mp (List.all_eq_true.mp hcopies t (by cases t <;> decide)) copied hc
        have hs := List.all_eq_true.mp ht s (by cases s <;> decide)
        rwa [Bool.not_eq_true'] at hs) nofun nofun
    obtain ⟨_, p, hp⟩ := exists_of_isOk hok
    exact ⟨sources, rfl, hall.1.mp (congrArg Prod.fst hp)⟩

end ReleaseNotes
