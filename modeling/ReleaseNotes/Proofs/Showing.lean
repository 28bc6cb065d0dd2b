import ReleaseNotes.Proofs.Routing
import ReleaseNotes.Proofs.Saving

/-!
# Showing the work

A run that shows its work does what one that does not does, and shows more (`Mirrors`). The only thing
that can come between the two is a line that cannot be shown: that of an issue whose identifier is too
long or whose key and title read as a tag together, or the one that names the file of the pamphlet
(`Plan.IsCutShort`). Where the run comes to such a line it breaks off there. So the two runs come to
the same unless there is such a line, or the run that does not show its work fails for a like reason
before it has asked the network for anything (`shown_run_agrees_iff`).
-/

namespace ReleaseNotes

open Markup

variable {α β ε : Type}

/-! ### Runs that differ in what they show -/

/-- Progress without what has been shown. -/
def Progress.silent (p : Progress) : Progress :=
  { p with shown := "", remarks := "" }

theorem pamphlet_eq_of_silent {p q : Progress} (h : p.silent = q.silent) : p.pamphlet = q.pamphlet := by
  have := congrArg Progress.pamphlet h
  exact this

theorem requests_eq_of_silent {p q : Progress} (h : p.silent = q.silent) : p.requests = q.requests := by
  have := congrArg Progress.requests h
  exact this

theorem files_eq_of_silent {p q : Progress} (h : p.silent = q.silent) : p.files = q.files := by
  have := congrArg Progress.files h
  exact this

theorem missing_eq_of_silent {p q : Progress} (h : p.silent = q.silent) : p.missing = q.missing := by
  have := congrArg Progress.missing h
  exact this

/-- Two works come to the same from states that differ in what has been shown, but may show different
things. -/
def Mirrors (work work' : Assembling α) : Prop :=
  ∀ p q : Progress, p.silent = q.silent →
    (outcome work p).1 = (outcome work' q).1 ∧ (outcome work p).2.silent = (outcome work' q).2.silent

theorem Mirrors.pure (a : α) : Mirrors (pure a) (pure a) := fun _ _ h => ⟨rfl, h⟩

theorem Mirrors.orFail (fault : ε → AssemblyFault) (made : Except ε α) :
    Mirrors (orFail fault made) (orFail fault made) :=
  fun p q h => by rw [outcome_orFail, outcome_orFail]; exact ⟨rfl, h⟩

theorem Mirrors.modify {f g : Progress → Progress}
    (h : ∀ p q : Progress, p.silent = q.silent → (f p).silent = (g q).silent) :
    Mirrors (modify f) (modify g) :=
  fun p q hs => ⟨rfl, h p q hs⟩

theorem Mirrors.bind {work work' : Assembling α} {next next' : α → Assembling β}
    (h : Mirrors work work') (hn : ∀ a, Mirrors (next a) (next' a)) :
    Mirrors (work >>= next) (work' >>= next') := by
  intro p q hs
  have := h p q hs
  rw [outcome_bind, outcome_bind]
  revert this
  rcases outcome work p with ⟨fault | a, p'⟩ <;> rcases outcome work' q with ⟨fault' | a', q'⟩
  · rintro ⟨hr, hs'⟩
    exact ⟨congrArg Except.error (Except.error.inj hr), hs'⟩
  · exact fun h => nomatch h.1
  · exact fun h => nomatch h.1
  · rintro ⟨hr, hs'⟩
    cases hr
    exact hn a p' q' hs'

theorem Mirrors.get {next : Progress → Assembling α}
    (h : ∀ p q : Progress, p.silent = q.silent → Mirrors (next p) (next q)) :
    Mirrors (get >>= next) (get >>= next) :=
  fun p q hs => h p q hs p q hs

theorem Mirrors.forM {f g : β → Assembling PUnit} (h : ∀ b, Mirrors (f b) (g b)) (l : List β) :
    Mirrors (l.forM f) (l.forM g) := by
  induction l with
  | nil => exact .pure _
  | cons b l ih => exact .bind (h b) fun _ => ih

theorem silent_withPamphlet {p q : Progress} (h : p.silent = q.silent) (pamphlet : Pamphlet) :
    Progress.silent { p with pamphlet := pamphlet } = Progress.silent { q with pamphlet := pamphlet } :=
  congrArg (fun r : Progress => { r with pamphlet := pamphlet }) h

theorem Mirrors.onPamphlet (change : Building α) : Mirrors (onPamphlet change) (onPamphlet change) := by
  intro p q h
  rw [outcome_onPamphlet, outcome_onPamphlet, pamphlet_eq_of_silent h]
  exact ⟨rfl, silent_withPamphlet h _⟩

theorem Mirrors.onTrees (change : Editing α) : Mirrors (onTrees change) (onTrees change) :=
  .onPamphlet _

theorem Mirrors.sentence (plan : Plan) (sources : Sources) (template : String) (more : Template.Context) :
    Mirrors (plan.sentence sources template more) (plan.sentence sources template more) :=
  fun p q h => by rw [outcome_sentence, outcome_sentence]; exact ⟨rfl, h⟩

theorem Mirrors.noteOf (plan : Plan) (issue : Tracker.Issue) :
    Mirrors (plan.noteOf issue) (plan.noteOf issue) :=
  .bind (.modify fun _ _ h =>
      congrArg (fun r : Progress => { r with requests := r.requests ++ (plan.fetch issue).request?.toList }) h)
    fun _ => .bind (.orFail _ _) fun _ => .orFail _ _

theorem Mirrors.addIssue (plan : Plan) (block list : Place) (issue : Tracker.Issue) :
    Mirrors (plan.addIssue block list issue) (plan.addIssue block list issue) := by
  refine .bind (.noteOf plan issue) fun note? => .bind (.orFail _ _) fun _ => .bind (.onTrees _) fun _ =>
    .get fun p q h => ?_
  rw [pamphlet_eq_of_silent h]
  refine .bind (.onTrees _) fun _ => ?_
  cases note? with
  | none => exact .modify fun _ _ h =>
      congrArg (fun r : Progress => { r with missing := r.missing ++ [issue] }) h
  | some note => exact .bind (.orFail _ _) fun _ => .onTrees _

theorem Mirrors.addField (plan : Plan) (sources : Sources) (list : Place) (entry : Headline × SummaryField) :
    Mirrors (plan.addField sources list entry) (plan.addField sources list entry) :=
  .bind (fun p q h => by rw [outcome_environmentText, outcome_environmentText]; exact ⟨rfl, h⟩) fun _ =>
    .bind (.onTrees _) fun _ => .pure _

/-! ### Lines -/

/-- The line that shows an issue, as the terminal shows it. -/
def Tracker.Issue.shownLine (issue : Tracker.Issue) : Except AssemblyFault String := do
  let line ← issue.line.mapError .longId
  (Terminal.message line).mapError .tag

/-- Why the issues of some items cannot all be shown: the fault of the first one that cannot be, if all
items up to it can be read. -/
def firstUnshown? (noteFile : String) : List Node → Option AssemblyFault
  | [] => none
  | item :: rest =>
    match Tracker.Issue.ofItem item noteFile with
    | .error _ => none
    | .ok issue =>
      match issue.shownLine with
      | .error fault => some fault
      | .ok _ => firstUnshown? noteFile rest

theorem outcome_showIssue (issue : Tracker.Issue) (p : Progress) :
    outcome (orFail .longId issue.line >>= showLine) p = match issue.shownLine with
      | .ok line => (.ok (), { p with shown := p.shown ++ line })
      | .error fault => (.error fault, p) := by
  rw [Tracker.Issue.shownLine, outcome_bind, outcome_orFail]
  cases issue.line with
  | error fault => rfl
  | ok line =>
    show outcome (orFail .tag (Terminal.message line) >>= _) p =
      match (Terminal.message line).mapError AssemblyFault.tag with | .ok _ => _ | .error _ => _
    rw [outcome_bind, outcome_orFail]
    cases Terminal.message line <;> rfl

/-- An issue is read before it is shown. -/
theorem outcome_readShownItem (noteFile : String) (item : Node) (p : Progress) :
    outcome (readShownItem noteFile item) p = match Tracker.Issue.ofItem item noteFile with
      | .error fault => (.error (.input fault), p)
      | .ok issue => match issue.shownLine with
        | .ok line => (.ok issue, { p with shown := p.shown ++ line })
        | .error fault => (.error fault, p) := by
  have h : readShownItem noteFile item = orFail .input (Tracker.Issue.ofItem item noteFile) >>= fun issue =>
      (orFail .longId issue.line >>= showLine) >>= fun _ => pure issue := by
    rw [readShownItem]
    simp only [bind_assoc]
  rw [h, outcome_bind, outcome_orFail]
  cases Tracker.Issue.ofItem item noteFile with
  | error fault => rfl
  | ok issue =>
    show outcome ((orFail .longId issue.line >>= showLine) >>= fun _ => pure issue) p =
      match issue.shownLine with | .ok _ => _ | .error _ => _
    rw [outcome_bind, outcome_showIssue]
    cases issue.shownLine <;> rfl

/-- Some items are read and shown until one cannot be read or shown. -/
theorem outcome_mapM_readShownItem (noteFile : String) (items : List Node) (p : Progress) :
    ∃ p', p'.silent = p.silent ∧ outcome (items.mapM (readShownItem noteFile)) p =
      match firstUnshown? noteFile items with
        | some fault => (.error fault, p')
        | none => ((items.mapM (Tracker.Issue.ofItem · noteFile)).mapError .input, p') := by
  induction items generalizing p with
  | nil => exact ⟨p, rfl, rfl⟩
  | cons item items ih =>
    rw [List.mapM_cons, List.mapM_cons, firstUnshown?, outcome_bind, outcome_readShownItem]
    cases Tracker.Issue.ofItem item noteFile with
    | error fault => exact ⟨p, rfl, rfl⟩
    | ok issue =>
      dsimp only
      cases issue.shownLine with
      | error fault => exact ⟨p, rfl, rfl⟩
      | ok line =>
        obtain ⟨p', hp, ho⟩ := ih { p with shown := p.shown ++ line }
        refine ⟨p', hp, ?_⟩
        dsimp only
        rw [outcome_bind, ho]
        cases firstUnshown? noteFile items with
        | some fault => rfl
        | none => cases List.mapM (Tracker.Issue.ofItem · noteFile) items <;> rfl

/-! ### Steps that are shown or not -/

/-- The plan of a run that does not show its work. -/
def Plan.quietly (plan : Plan) : Plan :=
  { plan with isTalkative := false }

/-- The plan of a run that shows its work. -/
def Plan.openly (plan : Plan) : Plan :=
  { plan with isTalkative := true }

/-- The report that is read for a section. -/
def Sources.report? (sources : Sources) : Section → Option Node
  | .bugFixes => some sources.bugs
  | .issues => some sources.notes
  | .overview | .newFeatures | .buildEnvironment => none

/-- Why the issues in the report for a section cannot all be shown. -/
def Plan.unshown? (plan : Plan) (sources : Sources) (s : Section) : Option AssemblyFault :=
  (sources.report? s).bind fun report =>
    firstUnshown? plan.settings.tracker.noteFilename (report.descendants itemLabel)

variable {plan : Plan} {sources : Sources} {s : Section} {step : Step} {p q r : Progress}
  {fault : AssemblyFault}

theorem mirrors_readReport {report : Node} {noteFile : String}
    (h : firstUnshown? noteFile (report.descendants itemLabel) = none) :
    Mirrors (readReport report noteFile true) (readReport report noteFile false) := by
  intro p q hs
  obtain ⟨p', hp, ho⟩ := outcome_mapM_readShownItem noteFile (report.descendants itemLabel) p
  rw [h] at ho
  rw [readReport, readReport, if_pos rfl, if_neg (by decide), ho, outcome_orFail]
  exact ⟨rfl, hp.trans hs⟩

theorem outcome_readReport_of_unshown {report : Node} {noteFile : String}
    (h : firstUnshown? noteFile (report.descendants itemLabel) = some fault) (p : Progress) :
    ∃ p', p'.silent = p.silent ∧ outcome (readReport report noteFile true) p = (.error fault, p') := by
  obtain ⟨p', hp, ho⟩ := outcome_mapM_readShownItem noteFile (report.descendants itemLabel) p
  rw [h] at ho
  exact ⟨p', hp, ho⟩

theorem mirrors_openPamphlet (plan : Plan) (sources : Sources) :
    Mirrors (plan.openPamphlet sources) (plan.openPamphlet sources) :=
  .bind (.sentence _ _ _ _) fun _ => .bind (.onPamphlet _) fun _ => .bind (.onTrees _) fun _ =>
    .bind (.sentence _ _ _ _) fun _ => .bind (.onTrees _) fun _ => .bind (.onPamphlet _) fun _ =>
      .forM (fun _ => .bind (.onTrees _) fun _ => .pure _) _

theorem mirrors_copyField (sources : Sources) (s : Section) (field : SummaryField) :
    Mirrors (copyField sources s field) (copyField sources s field) :=
  .bind (.onPamphlet _) fun _ => .bind (.orFail _ _) fun _ => .onTrees _

theorem mirrors_listEnvironment (plan : Plan) (sources : Sources) :
    Mirrors (plan.listEnvironment sources) (plan.listEnvironment sources) :=
  .bind (.onPamphlet _) fun _ => .bind (.sentence _ _ _ _) fun _ => .bind (.onTrees _) fun _ =>
    .bind (.onTrees _) fun list => .forM (.addField plan sources list) _

theorem mirrors_listBugs (h : plan.unshown? sources .bugFixes = none) :
    Mirrors (plan.openly.listBugs sources) (plan.quietly.listBugs sources) :=
  .bind (.onPamphlet _) fun _ => .bind (mirrors_readReport h) fun bugs => .bind (.sentence plan _ _ _) fun _ =>
    .bind (.onTrees _) fun _ => .bind (.onTrees _) fun _ => .forM (fun _ => .onTrees _) bugs

theorem mirrors_listIssues (h : plan.unshown? sources .issues = none) :
    Mirrors (plan.openly.listIssues sources) (plan.quietly.listIssues sources) :=
  .bind (.onPamphlet _) fun block => .bind (mirrors_readReport h) fun issues =>
    .bind (.sentence plan _ _ _) fun _ => .bind (.onTrees _) fun _ => .bind (.onTrees _) fun list =>
      .forM (.addIssue plan block list) issues

/-- A step that comes to no line which cannot be shown does the same whether its work is shown or not. -/
theorem mirrors_takeStep (h : ∀ s, s.step = step → plan.unshown? sources s = none) :
    Mirrors (plan.openly.takeStep sources step) (plan.quietly.takeStep sources step) := by
  cases step with
  | opening => exact mirrors_openPamphlet plan sources
  | overview => exact mirrors_copyField sources .overview .overview
  | newFeatures => exact mirrors_copyField sources .newFeatures .newFeatures
  | bugList => exact mirrors_listBugs (h .bugFixes rfl)
  | issuesList => exact mirrors_listIssues (h .issues rfl)
  | environment => exact mirrors_listEnvironment plan sources

/-- A line that cannot be shown ends the step that comes to it. -/
theorem takeStep_of_unshown (h : plan.unshown? sources s = some fault) {block : Place}
    (hb : (outcome (blockOf s) p).1 = .ok block) :
    ∃ p', p'.silent = p.silent ∧ outcome (plan.openly.takeStep sources s.step) p = (.error fault, p') := by
  have ho : outcome (blockOf s) p = (.ok block, p) := by rw [outcome_blockOf, hb]
  cases s with
  | overview | newFeatures | buildEnvironment => cases h
  | bugFixes =>
    obtain ⟨p', hp, hr⟩ := outcome_readReport_of_unshown h p
    exact ⟨p', hp, (outcome_bind_of_ok ho).trans (outcome_bind_of_error hr)⟩
  | issues =>
    obtain ⟨p', hp, hr⟩ := outcome_readReport_of_unshown h p
    exact ⟨p', hp, (outcome_bind_of_ok ho).trans (outcome_bind_of_error hr)⟩

/-- A step that does not find its block fails for that reason. -/
theorem takeStep_of_lost {plan : Plan} {lost : AssemblyFault} (hb : (outcome (blockOf s) p).1 = .error lost) :
    outcome (plan.takeStep sources s.step) p = (.error lost, p) := by
  have ho : outcome (blockOf s) p = (.error lost, p) := by rw [outcome_blockOf, hb]
  cases s <;> exact outcome_bind_of_error ho

/-- That a step is taken can be shown. -/
theorem outcome_announce_openly (plan : Plan) (step : Step) (p : Progress) :
    ∃ p', p'.silent = p.silent ∧ outcome (plan.openly.announce step) p = (.ok (), p') := by
  have hm : (Terminal.message (dimmed ("Running " ++ step.label ++ "..."))).isOk = true := by
    cases step <;> decide +kernel
  obtain ⟨line, hl⟩ : ∃ line, Terminal.message (dimmed ("Running " ++ step.label ++ "...")) = .ok line := by
    revert hm
    cases Terminal.message (dimmed ("Running " ++ step.label ++ "...")) with
    | error fault => exact nofun
    | ok line => exact fun _ => ⟨line, rfl⟩
  have ha : plan.openly.announce step = remark (dimmed ("Running " ++ step.label ++ "...")) := rfl
  rw [ha, remark, hl]
  exact ⟨{ p with remarks := p.remarks ++ line }, rfl, rfl⟩

/-- In a state, a step comes to a line that cannot be shown. -/
def Plan.StopsAt (plan : Plan) (sources : Sources) (step : Step) (p : Progress) (fault : AssemblyFault) :
    Prop :=
  ∃ s block, s.step = step ∧ (outcome (blockOf s) p).1 = .ok block ∧ plan.unshown? sources s = some fault

/-- A step that stops at no line does the same whether its work is shown or not. -/
theorem takeStep_mirrors_of_not_stopsAt (h : ∀ fault, ¬ plan.StopsAt sources step p fault)
    (hs : p.silent = q.silent) :
    (outcome (plan.openly.takeStep sources step) p).1 = (outcome (plan.quietly.takeStep sources step) q).1 ∧
      (outcome (plan.openly.takeStep sources step) p).2.silent =
        (outcome (plan.quietly.takeStep sources step) q).2.silent := by
  by_cases hu : ∀ s, s.step = step → plan.unshown? sources s = none
  · exact mirrors_takeStep hu p q hs
  · -- the report of the step has such a line, so the step does not even find its block
    push Not at hu
    obtain ⟨s, rfl, hu⟩ := hu
    obtain ⟨fault, hu⟩ := Option.ne_none_iff_exists'.mp hu
    cases hb : (outcome (blockOf s) p).1 with
    | ok block => exact absurd ⟨s, block, rfl, hb, hu⟩ (h fault)
    | error lost =>
      have hq : (outcome (blockOf s) q).1 = .error lost := by
        rw [← hb]
        exact ((Mirrors.onPamphlet _) p q hs).1.symm
      rw [takeStep_of_lost hb, takeStep_of_lost hq]
      exact ⟨rfl, hs⟩

/-! ### Runs that are shown or not -/

/-- Some steps do the same whether their work is shown or not, or they come to a line that cannot be
shown. -/
theorem forM_takeShownStep_cases (steps : List Step) (hs : p.silent = q.silent) :
    ((outcome (steps.forM (plan.openly.takeShownStep sources)) p).1 =
        (outcome (steps.forM (plan.quietly.takeShownStep sources)) q).1 ∧
      (outcome (steps.forM (plan.openly.takeShownStep sources)) p).2.silent =
        (outcome (steps.forM (plan.quietly.takeShownStep sources)) q).2.silent) ∨
    ∃ before step after r fault, steps = before ++ step :: after ∧
      outcome (before.forM (plan.openly.takeShownStep sources) >>= fun _ => plan.openly.announce step) p =
        (.ok (), r) ∧ plan.StopsAt sources step r fault := by
  induction steps generalizing p q with
  | nil => exact .inl ⟨rfl, hs⟩
  | cons step steps ih =>
    obtain ⟨p1, hp1, ha⟩ := outcome_announce_openly plan step p
    by_cases hstop : ∃ fault, plan.StopsAt sources step p1 fault
    · obtain ⟨fault, hstop⟩ := hstop
      exact .inr ⟨[], step, steps, p1, fault, rfl, ha, hstop⟩
    · have hm := takeStep_mirrors_of_not_stopsAt (not_exists.mp hstop) (hp1.trans hs)
      have hq : outcome (plan.quietly.takeShownStep sources step) q =
          outcome (plan.quietly.takeStep sources step) q := rfl
      have hp : outcome (plan.openly.takeShownStep sources step) p =
          outcome (plan.openly.takeStep sources step) p1 := by
        rw [takeShownStep_eq, outcome_bind_of_ok ha]
      rw [outcome_forM_cons, outcome_forM_cons, outcome_bind, outcome_bind, hp, hq]
      revert hm
      rcases ht : outcome (plan.openly.takeStep sources step) p1 with ⟨e | u, p2⟩ <;>
        rcases outcome (plan.quietly.takeStep sources step) q with ⟨e' | u', q2⟩
      · exact fun hm => .inl ⟨congrArg Except.error (Except.error.inj hm.1), hm.2⟩
      · exact fun hm => nomatch hm.1
      · exact fun hm => nomatch hm.1
      · rintro ⟨-, h2⟩
        refine (ih h2).imp_right ?_
        rintro ⟨before, step', after, r, fault, rfl, hr, hstop'⟩
        refine ⟨step :: before, step', after, r, fault, rfl, ?_, hstop'⟩
        obtain ⟨_, r', hr', har⟩ := outcome_bind_eq_ok.mp hr
        refine outcome_bind_eq_ok.mpr ⟨(), r', ?_, har⟩
        rw [outcome_forM_cons, outcome_bind_of_ok (hp.trans ht)]
        exact hr'

/-- The steps before that of a section with a report ask the network for nothing. -/
theorem keeps_requests_reach (plan : Plan) (sources : Sources) (s : Section) (h : (sources.report? s).isSome) :
    Keeps Progress.requests (plan.reach sources s.step) := by
  refine isAside_requests.reach plan sources ?_
  cases s with
  | bugFixes | issues => decide
  | overview | newFeatures | buildEnvironment => cases h

/-- A run that shows its work comes to a line that it cannot show, for a reason: that of an issue in one
of the reports, or the one about the file of the pamphlet. -/
inductive Plan.IsCutShort (plan : Plan) (paths : RunPaths) (start : Progress) : AssemblyFault → Prop where
  /-- The line of an issue. -/
  | report {sources : Sources} {s : Section} {p : Progress} {block : Place} {fault : AssemblyFault} :
      start.files.sources paths.summary paths.bugs paths.notes = .ok sources →
      outcome (plan.openly.reach sources s.step) start = (.ok (), p) →
      (outcome (blockOf s) p).1 = .ok block →
      plan.unshown? sources s = some fault → IsCutShort plan paths start fault
  /-- The line about the file. -/
  | saved {sources : Sources} {p : Progress} {files : Files} {fault : Terminal.TagFault} :
      start.files.sources paths.summary paths.bugs paths.notes = .ok sources →
      outcome (plan.openly.assemble sources) start = (.ok (), p) →
      plan.openly.written paths.pamphlet p = .ok files →
      Terminal.message (dimmed ("Wrote " ++ paths.pamphlet)) = .error fault →
      IsCutShort plan paths start (.tag fault)

variable {paths : RunPaths} {start : Progress}

/-- A line that cannot be shown ends the assembly that comes to it. -/
theorem assemble_of_unshown {block : Place}
    (hr : outcome (plan.openly.reach sources s.step) start = (.ok (), p))
    (hb : (outcome (blockOf s) p).1 = .ok block) (hu : plan.unshown? sources s = some fault) :
    ∃ p', outcome (plan.openly.assemble sources) start = (.error fault, p') ∧
      p'.requests = start.requests := by
  obtain ⟨after, hall⟩ : ∃ after, Step.all = s.step.before ++ s.step :: after := by
    cases s <;> exact ⟨_, rfl⟩
  obtain ⟨p', hp, ht⟩ := takeStep_of_unshown hu hb
  refine ⟨p', ?_, ?_⟩
  · rw [Plan.assemble, hall, outcome_forM_append]
    obtain ⟨_, q, hq, ha⟩ := outcome_bind_eq_ok.mp hr
    rw [outcome_bind_of_ok hq, outcome_forM_cons, takeShownStep_eq, bind_assoc, outcome_bind_of_ok ha]
    exact outcome_bind_of_error ht
  · have hreport : (sources.report? s).isSome := by
      rw [Plan.unshown?] at hu
      obtain ⟨report, hr, -⟩ := Option.bind_eq_some_iff.mp hu
      rw [hr]
      rfl
    have hreach := keeps_requests_reach plan.openly sources s hreport start
    rw [hr] at hreach
    exact (requests_eq_of_silent hp).trans hreach

theorem Step.before_eq {before after : List Step} (h : Step.all = before ++ step :: after) :
    step.before = before := by
  have hs : step ∉ before := by
    have hn : (before ++ step :: after).Nodup := h ▸ (by decide : Step.all.Nodup)
    exact fun hm => (List.nodup_append.mp hn).2.2 step hm step (.head _) rfl
  rw [Step.before, h, List.takeWhile_append_of_pos fun t ht => by
    simpa using fun hts : t = step => hs (hts ▸ ht), List.takeWhile_cons_of_neg (by simp), List.append_nil]

/-- An assembly does the same whether its work is shown or not, or it comes to a line that cannot be
shown. -/
theorem assemble_cases (plan : Plan) (sources : Sources) (start : Progress) :
    ((outcome (plan.openly.assemble sources) start).1 = (outcome (plan.quietly.assemble sources) start).1 ∧
      (outcome (plan.openly.assemble sources) start).2.silent =
        (outcome (plan.quietly.assemble sources) start).2.silent) ∨
    ∃ s p block fault, outcome (plan.openly.reach sources s.step) start = (.ok (), p) ∧
      (outcome (blockOf s) p).1 = .ok block ∧ plan.unshown? sources s = some fault := by
  refine (forM_takeShownStep_cases Step.all rfl).imp_right ?_
  rintro ⟨before, _, after, p, fault, hall, hr, s, block, rfl, hb, hu⟩
  refine ⟨s, p, block, fault, ?_, hb, hu⟩
  rw [Plan.reach, Step.before_eq hall]
  exact hr

/-! ### After the pamphlet is written -/

theorem written_eq_of_silent (plan : Plan) (path : String) (hs : p.silent = q.silent) :
    plan.openly.written path p = plan.quietly.written path q := by
  rw [Plan.written, Plan.written, pamphlet_eq_of_silent hs, files_eq_of_silent hs]
  rfl

theorem outcome_conclude_quietly (plan : Plan) (path : String) (p : Progress) :
    ∃ p', p'.silent = p.silent ∧ outcome (plan.quietly.conclude path) p = (.ok (), p') :=
  ⟨{ p with remarks := p.remarks ++ missingReport p.missing }, rfl, rfl⟩

theorem outcome_conclude_openly (plan : Plan) (path : String) (p : Progress) :
    ∃ p', p'.silent = p.silent ∧ outcome (plan.openly.conclude path) p =
      (((Terminal.message (dimmed ("Wrote " ++ path))).mapError .tag).map fun _ => (), p') := by
  have hc : plan.openly.conclude path = remark (dimmed ("Wrote " ++ path)) >>= fun _ => reportMissing := rfl
  rw [hc, remark]
  cases Terminal.message (dimmed ("Wrote " ++ path)) with
  | error fault => exact ⟨p, rfl, rfl⟩
  | ok line =>
    exact ⟨{ p with remarks := p.remarks ++ line ++ missingReport p.missing }, rfl, rfl⟩

/-- A run that is cut short fails for the reason that its line cannot be shown, and unless that line is
the last one it has asked for nothing. -/
theorem outcome_of_isCutShort (h : plan.IsCutShort paths start fault) :
    (outcome (plan.openly.generate paths) start).1 = .error fault ∧
      ((outcome (plan.quietly.generate paths) start).1 = .ok () ∨
        (outcome (plan.openly.generate paths) start).2.requests = start.requests ∧
          (outcome (plan.openly.generate paths) start).2.files = start.files) := by
  cases h with
  | @report sources s p block fault hs hr hb hu =>
    obtain ⟨p', ha, hp⟩ := assemble_of_unshown hr hb hu
    have hf := keeps_files_assemble plan.openly sources start
    rw [generate_of_failed hs ha]
    rw [ha] at hf
    exact ⟨rfl, .inr ⟨hp, hf⟩⟩
  | @saved sources p files fault hs ha hw hm =>
    rcases assemble_cases plan sources start with ⟨h1, h2⟩ | ⟨s, q, block, fault', hr, hb, hu⟩
    · rcases hq : outcome (plan.quietly.assemble sources) start with ⟨e | u, q⟩
      · rw [ha, hq] at h1
        cases h1
      · rw [ha, hq] at h2
        have hwq := (written_eq_of_silent plan paths.pamphlet h2).symm.trans hw
        obtain ⟨p', -, hp⟩ := outcome_conclude_openly plan paths.pamphlet { p with files := files }
        obtain ⟨q', -, hq'⟩ := outcome_conclude_quietly plan paths.pamphlet { q with files := files }
        rw [generate_of_written hs ha hw, generate_of_written hs hq hwq, hp, hq', hm]
        exact ⟨rfl, .inl rfl⟩
    · obtain ⟨p', ha', -⟩ := assemble_of_unshown hr hb hu
      rw [ha] at ha'
      cases ha'

/-- A run that is not cut short does the same whether its work is shown or not. -/
theorem generate_mirrors (h : ∀ fault, ¬ plan.IsCutShort paths start fault) :
    (outcome (plan.openly.generate paths) start).1 = (outcome (plan.quietly.generate paths) start).1 ∧
      (outcome (plan.openly.generate paths) start).2.silent =
        (outcome (plan.quietly.generate paths) start).2.silent := by
  cases hs : start.files.sources paths.summary paths.bugs paths.notes with
  | error fault =>
    rw [generate_of_unread hs, generate_of_unread hs]
    exact ⟨rfl, rfl⟩
  | ok sources =>
    rcases assemble_cases plan sources start with hm | ⟨s, p, block, fault, hr, hb, hu⟩
    · rcases hp : outcome (plan.openly.assemble sources) start with ⟨e | u, p⟩ <;>
        rcases hq : outcome (plan.quietly.assemble sources) start with ⟨e' | u', q⟩ <;> rw [hp, hq] at hm
      · rw [generate_of_failed hs hp, generate_of_failed hs hq]
        exact ⟨congrArg Except.error (Except.error.inj hm.1), hm.2⟩
      · exact nomatch hm.1
      · exact nomatch hm.1
      · have hw := written_eq_of_silent plan paths.pamphlet hm.2
        cases hf : plan.openly.written paths.pamphlet p with
        | error fault =>
          rw [generate_of_unwritten hs hp hf, generate_of_unwritten hs hq (hw.symm.trans hf)]
          exact ⟨rfl, hm.2⟩
        | ok files =>
          obtain ⟨p', hp', ho⟩ := outcome_conclude_openly plan paths.pamphlet { p with files := files }
          obtain ⟨q', hq', hoq⟩ := outcome_conclude_quietly plan paths.pamphlet { q with files := files }
          have hpq : Progress.silent { p with files := files } = Progress.silent { q with files := files } :=
            congrArg (fun r : Progress => { r with files := files }) hm.2
          rw [generate_of_written hs hp hf, generate_of_written hs hq (hw.symm.trans hf), ho, hoq]
          refine ⟨?_, hp'.trans (hpq.trans hq'.symm)⟩
          cases hl : Terminal.message (dimmed ("Wrote " ++ paths.pamphlet)) with
          | error fault => exact absurd (.saved hs hp hf hl) (h (.tag fault))
          | ok line => rfl
    · exact absurd (.report hs hr hb hu) (h fault)

/-! ### The two runs side by side -/

/-- Two ends of runs are alike, as far as can be seen of the faults: both come to their end with the same
issues missing, or both fail; and they have asked for the same and leave the same files. -/
def AreAlike {γ : Type} (look : AssemblyFault → γ) (r r' : Except AssemblyFault Unit × Progress) : Prop :=
  (match r.1, r'.1 with
    | .ok _, .ok _ => r.2.missing = r'.2.missing
    | .error fault, .error fault' => look fault = look fault'
    | _, _ => False) ∧
  r.2.requests = r'.2.requests ∧ r.2.files = r'.2.files

/-- **Showing the work changes nothing** if and only if the run comes to no line that it cannot show, or
the run that shows nothing fails all the same, for a reason that looks like that line's, before it has
asked for anything. -/
theorem shown_run_agrees_iff {γ : Type} (look : AssemblyFault → γ) (plan : Plan) (paths : RunPaths)
    (start : Progress) :
    AreAlike look (outcome (plan.quietly.generate paths) start) (outcome (plan.openly.generate paths) start) ↔
      (∀ fault, ¬ plan.IsCutShort paths start fault) ∨
      ∃ fault quietFault, plan.IsCutShort paths start fault ∧
        (outcome (plan.quietly.generate paths) start).1 = .error quietFault ∧ look quietFault = look fault ∧
        (outcome (plan.quietly.generate paths) start).2.requests = start.requests := by
  by_cases hc : ∃ fault, plan.IsCutShort paths start fault
  · obtain ⟨fault, hc⟩ := hc
    obtain ⟨hr, ho⟩ := outcome_of_isCutShort hc
    have hquiet (quietFault : AssemblyFault)
        (h : (outcome (plan.quietly.generate paths) start).1 = .error quietFault) :=
      files_eq_of_error plan.quietly paths start rfl h
    rw [AreAlike, hr]
    revert ho hquiet
    rcases outcome (plan.quietly.generate paths) start with ⟨quietFault | u, q⟩
    · intro ho hquiet
      obtain ⟨hrequests, hfiles⟩ := ho.resolve_left nofun
      rw [hrequests, hfiles]
      constructor
      · rintro ⟨hl, hq, -⟩
        exact .inr ⟨fault, quietFault, hc, rfl, hl, hq⟩
      · rintro (hn | ⟨fault', quietFault', hc', hq', hl, hreq⟩)
        · exact absurd hc (hn fault)
        · have hf := (outcome_of_isCutShort hc').1
          rw [hr, Except.error.injEq] at hf
          cases hq'
          exact ⟨hl.trans (congrArg look hf.symm), hreq, hquiet _ rfl⟩
    · intro _ _
      refine iff_of_false (fun h => h.1) ?_
      rintro (hn | ⟨_, _, _, hq, -⟩)
      · exact hn fault hc
      · cases hq
  · rw [not_exists] at hc
    refine iff_of_true ?_ (.inl hc)
    obtain ⟨h1, h2⟩ := generate_mirrors hc
    refine ⟨?_, (requests_eq_of_silent h2).symm, (files_eq_of_silent h2).symm⟩
    rw [← h1]
    have hm := missing_eq_of_silent h2
    cases (outcome (plan.openly.generate paths) start).1 with
    | error fault => rfl
    | ok u => exact hm.symm

/-- An issue whose key and title read as a tag together is listed if the work is not shown, and stops
the run if it is. -/
theorem shown_run_fails_on_tag :
    (outcome (smallPlan.quietly.generate smallPaths)
      (smallStart ['v'] (smallItem "[/a" "[K] b] c" []) emptyReport)).1 = .ok () ∧
    (outcome (smallPlan.openly.generate smallPaths)
      (smallStart ['v'] (smallItem "[/a" "[K] b] c" []) emptyReport)).1 = .error (.tag ⟨"/a: b"⟩) := by
  decide +kernel

end ReleaseNotes
