import ReleaseNotes.Proofs.Assembling
import ReleaseNotes.Proofs.Files

/-!
# The pamphlet is written as a whole or not at all

No step of the assembly touches a file (`keeps_files_assemble`), so a run that fails before the
pamphlet is saved leaves the files as they were. What a run comes to is what comes of reading the
documents, of the assembly and of writing, one after the other (`generate_cases`). In the end the
file of the pamphlet holds the finished page, and if the work is not shown nothing can fail any more
once it is written (`saved_only_when_finished`).
-/

namespace ReleaseNotes

open Markup

variable {α β ε : Type}

/-! ### What stays as it was -/

/-- What `f` sees of the progress is neither in the pamphlet nor in what has been shown. -/
structure IsAside {γ : Type} (f : Progress → γ) : Prop where
  /-- It is not in the pamphlet. -/
  pamphlet (p : Progress) (pamphlet : Pamphlet) : f { p with pamphlet := pamphlet } = f p
  /-- It is not in what has been shown as a result. -/
  shown (p : Progress) (s : String) : f { p with shown := s } = f p
  /-- It is not in what has been shown about the work. -/
  remarks (p : Progress) (s : String) : f { p with remarks := s } = f p

theorem isAside_files : IsAside Progress.files := ⟨fun _ _ => rfl, fun _ _ => rfl, fun _ _ => rfl⟩

theorem isAside_requests : IsAside Progress.requests := ⟨fun _ _ => rfl, fun _ _ => rfl, fun _ _ => rfl⟩

section Keeps

variable {γ : Type} {f : Progress → γ}

theorem Keeps.orFail (fault : ε → AssemblyFault) (made : Except ε α) : Keeps f (orFail fault made) :=
  fun p => by rw [outcome_orFail]

theorem Keeps.sentence (plan : Plan) (sources : Sources) (template : String) (more : Template.Context) :
    Keeps f (plan.sentence sources template more) :=
  fun p => by rw [outcome_sentence]

theorem Keeps.environmentText (plan : Plan) (sources : Sources) (field : SummaryField) :
    Keeps f (plan.environmentText sources field) :=
  fun p => by rw [outcome_environmentText]

namespace IsAside

theorem onPamphlet (hf : IsAside f) (change : Building α) : Keeps f (onPamphlet change) :=
  fun p => by rw [outcome_onPamphlet]; exact hf.pamphlet p _

theorem onTrees (hf : IsAside f) (change : Editing α) : Keeps f (onTrees change) :=
  hf.onPamphlet _

theorem remark (hf : IsAside f) (s : String) : Keeps f (remark s) :=
  .bind (.orFail _ _) fun _ => .modify fun p => hf.remarks p _

theorem showLine (hf : IsAside f) (s : String) : Keeps f (showLine s) :=
  .bind (.orFail _ _) fun _ => .modify fun p => hf.shown p _

theorem readShownItem (hf : IsAside f) (noteFile : String) (item : Node) :
    Keeps f (readShownItem noteFile item) :=
  .bind (.orFail _ _) fun _ => .bind (.orFail _ _) fun _ => .bind (hf.showLine _) fun _ => .pure _

theorem readReport (hf : IsAside f) (report : Node) (noteFile : String) (isTalkative : Bool) :
    Keeps f (readReport report noteFile isTalkative) := by
  unfold ReleaseNotes.readReport
  split
  · exact .mapM (hf.readShownItem noteFile) _
  · exact .orFail _ _

theorem openPamphlet (hf : IsAside f) (plan : Plan) (sources : Sources) :
    Keeps f (plan.openPamphlet sources) :=
  .bind (.sentence _ _ _ _) fun _ => .bind (hf.onPamphlet _) fun _ => .bind (hf.onTrees _) fun _ =>
    .bind (.sentence _ _ _ _) fun _ => .bind (hf.onTrees _) fun _ => .bind (hf.onPamphlet _) fun _ =>
      .forM fun _ _ => .bind (hf.onTrees _) fun _ => .pure _

theorem copyField (hf : IsAside f) (sources : Sources) (s : Section) (field : SummaryField) :
    Keeps f (copyField sources s field) :=
  .bind (hf.onPamphlet _) fun _ => .bind (.orFail _ _) fun _ => hf.onTrees _

theorem listBugs (hf : IsAside f) (plan : Plan) (sources : Sources) : Keeps f (plan.listBugs sources) :=
  .bind (hf.onPamphlet _) fun _ => .bind (hf.readReport _ _ _) fun _ => .bind (.sentence _ _ _ _) fun _ =>
    .bind (hf.onTrees _) fun _ => .bind (hf.onTrees _) fun _ => .forM fun _ _ => hf.onTrees _

theorem listEnvironment (hf : IsAside f) (plan : Plan) (sources : Sources) :
    Keeps f (plan.listEnvironment sources) :=
  .bind (hf.onPamphlet _) fun _ => .bind (.sentence _ _ _ _) fun _ => .bind (hf.onTrees _) fun _ =>
    .bind (hf.onTrees _) fun _ => .forM fun _ _ => .bind (.environmentText _ _ _) fun _ =>
      .bind (hf.onTrees _) fun _ => .pure _

/-- Only the step of the issues changes anything but the pamphlet and what has been shown. -/
theorem takeStep (hf : IsAside f) (plan : Plan) (sources : Sources) {step : Step} (h : step ≠ .issuesList) :
    Keeps f (plan.takeStep sources step) := by
  cases step with
  | opening => exact hf.openPamphlet plan sources
  | overview => exact hf.copyField sources .overview .overview
  | newFeatures => exact hf.copyField sources .newFeatures .newFeatures
  | bugList => exact hf.listBugs plan sources
  | issuesList => exact absurd rfl h
  | environment => exact hf.listEnvironment plan sources

theorem announce (hf : IsAside f) (plan : Plan) (step : Step) : Keeps f (plan.announce step) := by
  rw [Plan.announce]
  split
  · exact hf.remark _
  · exact .pure _

theorem takeShownStep (hf : IsAside f) (plan : Plan) (sources : Sources) {step : Step} (h : step ≠ .issuesList) :
    Keeps f (plan.takeShownStep sources step) :=
  .takeShownStep (hf.announce plan step) (hf.takeStep plan sources h)

/-- The steps before that of the issues change nothing else, either. -/
theorem reach (hf : IsAside f) (plan : Plan) (sources : Sources) {step : Step} (h : .issuesList ∉ step.before) :
    Keeps f (plan.reach sources step) :=
  .bind (.forM fun _ hs => hf.takeShownStep plan sources (ne_of_mem_of_not_mem hs h)) fun _ => hf.announce plan _

end IsAside

end Keeps

theorem keeps_files_addIssue (plan : Plan) (block list : Place) (issue : Tracker.Issue) :
    Keeps Progress.files (plan.addIssue block list issue) := by
  have hn : Keeps Progress.files (plan.noteOf issue) :=
    .bind (.modify fun _ => rfl) fun _ => .bind (.orFail _ _) fun _ => .orFail _ _
  refine hn.bind fun note? => .bind (.orFail _ _) fun _ => .bind (isAside_files.onTrees _) fun _ =>
    .bind .get fun _ => .bind (isAside_files.onTrees _) fun _ => ?_
  cases note? with
  | none => exact .modify fun _ => rfl
  | some note => exact .bind (.orFail _ _) fun _ => isAside_files.onTrees _

theorem keeps_files_listIssues (plan : Plan) (sources : Sources) :
    Keeps Progress.files (plan.listIssues sources) :=
  .bind (isAside_files.onPamphlet _) fun block => .bind (isAside_files.readReport _ _ _) fun _ =>
    .bind (.sentence _ _ _ _) fun _ => .bind (isAside_files.onTrees _) fun _ =>
      .bind (isAside_files.onTrees _) fun list => .forM fun issue _ => keeps_files_addIssue plan block list issue

/-- No step touches a file. -/
theorem keeps_files_takeStep (plan : Plan) (sources : Sources) (step : Step) :
    Keeps Progress.files (plan.takeStep sources step) := by
  by_cases h : step = .issuesList
  · subst h
    exact keeps_files_listIssues plan sources
  · exact isAside_files.takeStep plan sources h

/-- The assembly touches no file. -/
theorem keeps_files_assemble (plan : Plan) (sources : Sources) :
    Keeps Progress.files (plan.assemble sources) :=
  .forM fun step _ => .takeShownStep (isAside_files.announce plan step) (keeps_files_takeStep plan sources step)

/-! ### What a run comes to -/

/-- What is done once the pamphlet is written. -/
def Plan.conclude (plan : Plan) (path : String) : Assembling Unit := do
  if plan.isTalkative then remark (dimmed ("Wrote " ++ path))
  reportMissing

theorem keeps_files_reportMissing : Keeps Progress.files reportMissing := fun _ => rfl

theorem keeps_files_conclude (plan : Plan) (path : String) : Keeps Progress.files (plan.conclude path) := by
  rw [Plan.conclude]
  split
  · exact .bind (isAside_files.remark _) fun _ => keeps_files_reportMissing
  · exact keeps_files_reportMissing

/-- What comes of writing the pamphlet. -/
def Plan.written (plan : Plan) (path : String) (p : Progress) : Except PamphletFault Files :=
  p.pamphlet.save p.files path plan.settings.output.format.label plan.settings.output.isIndented

theorem outcome_save (plan : Plan) (path : String) (p : Progress) :
    outcome (plan.save path >>= fun _ => reportMissing) p =
      outcome (orFail .pamphlet (plan.written path p) >>= fun files =>
        set { p with files := files } >>= fun _ => plan.conclude path) p := by
  rw [Plan.save, Plan.conclude, bind_assoc, outcome_bind_of_ok (outcome_get p), Plan.written]
  dsimp only
  rw [bind_assoc, outcome_bind, outcome_bind]
  rcases outcome (orFail .pamphlet _) p with ⟨_ | files, p'⟩
  · rfl
  · cases plan.isTalkative <;> rfl

section Generate

variable {plan : Plan} {paths : RunPaths} {start p : Progress} {sources : Sources}

theorem generate_eq (plan : Plan) (paths : RunPaths) (start : Progress) :
    outcome (plan.generate paths) start =
      outcome (orFail .input (start.files.sources paths.summary paths.bugs paths.notes) >>= fun sources =>
        plan.assemble sources >>= fun _ => plan.save paths.pamphlet >>= fun _ => reportMissing) start := by
  rw [Plan.generate, outcome_bind_of_ok (outcome_get start)]

theorem generate_of_unread {fault : InputFault}
    (h : start.files.sources paths.summary paths.bugs paths.notes = .error fault) :
    outcome (plan.generate paths) start = (.error (.input fault), start) := by
  rw [generate_eq, h, outcome_bind_of_error (outcome_orFail_error _ fault start)]

theorem generate_of_failed {fault : AssemblyFault}
    (hs : start.files.sources paths.summary paths.bugs paths.notes = .ok sources)
    (ha : outcome (plan.assemble sources) start = (.error fault, p)) :
    outcome (plan.generate paths) start = (.error fault, p) := by
  rw [generate_eq, hs, outcome_bind_of_ok (outcome_orFail_ok _ sources start), outcome_bind_of_error ha]

theorem generate_of_unwritten {fault : PamphletFault}
    (hs : start.files.sources paths.summary paths.bugs paths.notes = .ok sources)
    (ha : outcome (plan.assemble sources) start = (.ok (), p))
    (hw : plan.written paths.pamphlet p = .error fault) :
    outcome (plan.generate paths) start = (.error (.pamphlet fault), p) := by
  rw [generate_eq, hs, outcome_bind_of_ok (outcome_orFail_ok _ sources start), outcome_bind_of_ok ha,
    outcome_save, hw, outcome_bind_of_error (outcome_orFail_error _ fault p)]

theorem generate_of_written {files : Files}
    (hs : start.files.sources paths.summary paths.bugs paths.notes = .ok sources)
    (ha : outcome (plan.assemble sources) start = (.ok (), p))
    (hw : plan.written paths.pamphlet p = .ok files) :
    outcome (plan.generate paths) start =
      outcome (plan.conclude paths.pamphlet) { p with files := files } := by
  rw [generate_eq, hs, outcome_bind_of_ok (outcome_orFail_ok _ sources start), outcome_bind_of_ok ha,
    outcome_save, hw, outcome_bind_of_ok (outcome_orFail_ok _ files p), outcome_bind_of_ok (outcome_set _ _)]

end Generate

variable (plan : Plan) (paths : RunPaths) (start : Progress)

/-- Where a run ends: at a document that cannot be read, in the assembly, at the file of the pamphlet,
or after that is written. -/
theorem generate_cases :
    (∃ fault, start.files.sources paths.summary paths.bugs paths.notes = .error fault ∧
      outcome (plan.generate paths) start = (.error (.input fault), start)) ∨
    ∃ sources, start.files.sources paths.summary paths.bugs paths.notes = .ok sources ∧
      ((∃ fault p, outcome (plan.assemble sources) start = (.error fault, p) ∧
        outcome (plan.generate paths) start = (.error fault, p)) ∨
      ∃ p, outcome (plan.assemble sources) start = (.ok (), p) ∧
        ((∃ fault, plan.written paths.pamphlet p = .error fault ∧
          outcome (plan.generate paths) start = (.error (.pamphlet fault), p)) ∨
        ∃ files, plan.written paths.pamphlet p = .ok files ∧
          outcome (plan.generate paths) start =
            outcome (plan.conclude paths.pamphlet) { p with files := files })) := by
  cases hs : start.files.sources paths.summary paths.bugs paths.notes with
  | error fault => exact .inl ⟨fault, rfl, generate_of_unread hs⟩
  | ok sources =>
    refine .inr ⟨sources, rfl, ?_⟩
    rcases ha : outcome (plan.assemble sources) start with ⟨fault | u, p⟩
    · exact .inl ⟨fault, p, rfl, generate_of_failed hs ha⟩
    · refine .inr ⟨p, rfl, ?_⟩
      cases hw : plan.written paths.pamphlet p with
      | error fault => exact .inl ⟨fault, rfl, generate_of_unwritten hs ha hw⟩
      | ok files => exact .inr ⟨files, rfl, generate_of_written hs ha hw⟩

/-- A pamphlet that is written is read as it was written. -/
theorem read_of_written {path : String} {p : Progress} {files : Files}
    (h : plan.written path p = .ok files) : ∃ page,
      p.pamphlet.write plan.settings.output.format.label plan.settings.output.isIndented = .ok page ∧
        files.read (tidyPath path) = .ok (Text.utf8 page.toList) := by
  rw [Plan.written, Pamphlet.save] at h
  split at h
  · cases h
  · rename_i page hpage
    split at h
    · cases h
    · rename_i files' hw
      cases h
      exact ⟨page, hpage, Files.read_of_write hw⟩

/-- An assembly leaves the files as they were, wherever it ends. -/
theorem files_eq_of_assemble {sources : Sources} {made : Except AssemblyFault Unit} {p : Progress}
    (h : outcome (plan.assemble sources) start = (made, p)) : p.files = start.files :=
  (congrArg (·.2.files) h).symm.trans (keeps_files_assemble plan sources start)

/-- The files change only in a run whose assembly has come to its end. -/
theorem exists_finished_of_files_ne (h : (outcome (plan.generate paths) start).2.files ≠ start.files) :
    ∃ sources finished, start.files.sources paths.summary paths.bugs paths.notes = .ok sources ∧
      outcome (plan.assemble sources) start = (.ok (), finished) := by
  rcases generate_cases plan paths start with ⟨fault, -, ho⟩ | ⟨sources, hs, ⟨fault, p, ha, ho⟩ | ⟨p, ha, -⟩⟩
  · exact absurd (by rw [ho]) h
  · exact absurd (by rw [ho]; exact files_eq_of_assemble plan start ha) h
  · exact ⟨sources, p, hs, ha⟩

/-- A run that comes to its end leaves the finished page in the file of the pamphlet. -/
theorem exists_page_of_ok (h : (outcome (plan.generate paths) start).1 = .ok ()) :
    ∃ sources finished page, start.files.sources paths.summary paths.bugs paths.notes = .ok sources ∧
      outcome (plan.assemble sources) start = (.ok (), finished) ∧
      finished.pamphlet.write plan.settings.output.format.label plan.settings.output.isIndented = .ok page ∧
      (outcome (plan.generate paths) start).2.files.read (tidyPath paths.pamphlet) =
        .ok (Text.utf8 page.toList) := by
  rcases generate_cases plan paths start with
    ⟨fault, -, ho⟩ | ⟨sources, hs, ⟨fault, p, -, ho⟩ | ⟨p, ha, ⟨fault, -, ho⟩ | ⟨files, hw, ho⟩⟩⟩
  · rw [ho] at h
    cases h
  · rw [ho] at h
    cases h
  · rw [ho] at h
    cases h
  · obtain ⟨page, hpage, hread⟩ := read_of_written plan hw
    refine ⟨sources, p, page, hs, ha, hpage, ?_⟩
    rwa [ho, keeps_files_conclude]

/-- A run that does not show its work and fails leaves all files as they were. -/
theorem files_eq_of_error (hq : plan.isTalkative = false) {fault : AssemblyFault}
    (h : (outcome (plan.generate paths) start).1 = .error fault) :
    (outcome (plan.generate paths) start).2.files = start.files := by
  rcases generate_cases plan paths start with
    ⟨_, -, ho⟩ | ⟨sources, -, ⟨_, p, ha, ho⟩ | ⟨p, ha, ⟨_, -, ho⟩ | ⟨files, -, ho⟩⟩⟩
  · rw [ho]
  · rw [ho]
    exact files_eq_of_assemble plan start ha
  · rw [ho]
    exact files_eq_of_assemble plan start ha
  · rw [ho, Plan.conclude, hq] at h
    cases h

/-- **The pamphlet is written as a whole or not at all.** The files change only in a run whose assembly
has come to its end; a run that comes to its end leaves the finished page, as the settings want it
written, in the file of the pamphlet; and a run that does not show its work and fails, wherever it
does, leaves all files as they were. -/
theorem saved_only_when_finished :
    ((outcome (plan.generate paths) start).2.files ≠ start.files →
      ∃ sources finished, start.files.sources paths.summary paths.bugs paths.notes = .ok sources ∧
        outcome (plan.assemble sources) start = (.ok (), finished)) ∧
    ((outcome (plan.generate paths) start).1 = .ok () →
      ∃ sources finished page, start.files.sources paths.summary paths.bugs paths.notes = .ok sources ∧
        outcome (plan.assemble sources) start = (.ok (), finished) ∧
        finished.pamphlet.write plan.settings.output.format.label plan.settings.output.isIndented = .ok page ∧
        (outcome (plan.generate paths) start).2.files.read (tidyPath paths.pamphlet) =
          .ok (Text.utf8 page.toList)) ∧
    (plan.isTalkative = false → ∀ fault, (outcome (plan.generate paths) start).1 = .error fault →
      (outcome (plan.generate paths) start).2.files = start.files) :=
  ⟨exists_finished_of_files_ne plan paths start, exists_page_of_ok plan paths start,
    fun hq _ => files_eq_of_error plan paths start hq⟩

/-! ### A small release in files -/

/-- An element with some content, as it is written. -/
def writtenElement (label : String) (content : List Char) : List Char :=
  '<' :: label.toList ++ '>' :: content ++ '<' :: '/' :: label.toList ++ ['>']

/-- The summary of a small release with some overview, as it is written. -/
def smallSummary (overview : List Char) : List Char :=
  writtenElement "summary" (SummaryField.all.flatMap fun field =>
    writtenElement field.label (if field = .overview then overview else ['v']))

/-- Where the files of a small release are. -/
def smallPaths : RunPaths :=
  ⟨"summary.xml", "bugs.xml", "notes.xml", "out.html"⟩

/-- The start of a run for a small release with some overview and some reports. -/
def smallStart (overview bugs notes : List Char) : Progress where
  files := { entries := [(smallPaths.summary, Text.utf8 (smallSummary overview)),
    (smallPaths.bugs, Text.utf8 bugs), (smallPaths.notes, Text.utf8 notes)] }

/-- The report of an issue with a key, a title and perhaps more, as it is written. -/
def smallItem (key title : String) (more : List Char) : List Char :=
  writtenElement "rss" (writtenElement "item"
    (writtenElement "key" key.toList ++ writtenElement "title" title.toList ++ more))

/-- A report of no issues, as it is written. -/
def emptyReport : List Char :=
  writtenElement "rss" []

/-- A report of an issue that has only a key, as it is written. -/
def untitledReport : List Char :=
  writtenElement "rss" (writtenElement "item" (writtenElement "key" ['k']))

/-- A run for a small release comes to the end of its assembly and leaves a page, and one for a bug without
a title leaves its files alone. -/
theorem saved_small :
    (∃ sources finished, (smallStart ['v'] emptyReport emptyReport).files.sources smallPaths.summary
        smallPaths.bugs smallPaths.notes = .ok sources ∧
      outcome (smallPlan.assemble sources) (smallStart ['v'] emptyReport emptyReport) = (.ok (), finished)) ∧
    (∃ page : String, (outcome (smallPlan.generate smallPaths)
      (smallStart ['v'] emptyReport emptyReport)).2.files.read
        (tidyPath smallPaths.pamphlet) = .ok (Text.utf8 page.toList)) ∧
    (outcome (smallPlan.generate smallPaths) (smallStart ['v'] untitledReport emptyReport)).2.files =
      (smallStart ['v'] untitledReport emptyReport).files := by
  have hsaved := saved_only_when_finished smallPlan smallPaths (smallStart ['v'] emptyReport emptyReport)
  have hkept := saved_only_when_finished smallPlan smallPaths (smallStart ['v'] untitledReport emptyReport)
  have hnew : ((smallStart ['v'] emptyReport emptyReport).files.read (tidyPath smallPaths.pamphlet)).isOk =
      false := by decide +kernel
  obtain ⟨sources, finished, page, -, -, -, hread⟩ := hsaved.2.1 (by decide +kernel)
  refine ⟨hsaved.1 fun hf => ?_, ⟨page, hread⟩,
    hkept.2.2 rfl (.input (.missingChild titleLabel itemLabel)) (by decide +kernel)⟩
  rw [hf] at hread
  rw [hread] at hnew
  cases hnew

end ReleaseNotes
