import ReleaseNotes.Proofs.Assembling

/-!
# A record of the sections

The steps of the assembly together with a record of the sections that they have added: which sections
were added, in which order, and the place of the block of each. A section that cannot be added leaves
no record. A recorded step does what the step does, whatever has been recorded before it
(`erases_recordStep`), so all that the record says of recorded steps it says of the steps.
-/

namespace ReleaseNotes

open Markup

variable {α β : Type}

/-! ### The steps in parts -/

/-- Begins the page, with its banner and an empty table of contents: the places of the body and of
the table. -/
def Plan.beginPage (plan : Plan) (sources : Sources) : Assembling (Place × Place) := do
  let title ← plan.sentence sources plan.settings.wording.title []
  let body ← onPamphlet (begin title)
  let banner ← onTrees (addHeader body .banner title)
  let delta ← plan.sentence sources plan.settings.wording.delta []
  let _ ← onTrees (addParagraph banner delta)
  let toc ← onPamphlet addToc
  return (body, toc)

theorem openPamphlet_eq (plan : Plan) (sources : Sources) :
    plan.openPamphlet sources =
      plan.beginPage sources >>= fun at' => Section.all.forM (openSection at'.1 at'.2) := by
  simp only [Plan.openPamphlet, Plan.beginPage, bind_assoc, pure_bind]

/-- Reads the note of an issue and draws the line above its section: the note and its summary. -/
def Plan.announceIssue (plan : Plan) (block : Place) (issue : Tracker.Issue) :
    Assembling (Option Document × String) := do
  let note? ← plan.noteOf issue
  let summary ← orFail .note (plan.settings.wording.noteSummary issue.key note?)
  let _ ← onTrees (addLine block)
  return (note?, summary)

/-- Copies the note of an issue into its section, or sets the issue down as missing one. -/
def fillIssue (issue : Tracker.Issue) (details : Place) : Option Document → Assembling Unit
  | none => modify fun p => { p with missing := p.missing ++ [issue] }
  | some note => do
    let body ← orFail .note (Tracker.noteBody issue.key note.root)
    onTrees (addCopy details body)

/-- The caption of the entries for an issue. -/
def Tracker.Issue.caption (issue : Tracker.Issue) (summary : String) : String :=
  issue.sectionName ++ ": " ++ summary

theorem addIssue_eq (plan : Plan) (block list : Place) (issue : Tracker.Issue) :
    plan.addIssue block list issue =
      plan.announceIssue block issue >>= fun told => get >>= fun p =>
        onTrees (addSection block .issueDetail issue.sectionName [p.pamphlet.toc, list]
          (some (issue.caption told.2))) >>= fun details => fillIssue issue details told.1 := by
  simp only [Plan.addIssue, Plan.announceIssue, bind_assoc, pure_bind]
  rfl

/-- Begins the section of the issues, with an empty list: the places of its block and of the list,
and the issues. -/
def Plan.openIssues (plan : Plan) (sources : Sources) : Assembling (Place × Place × List Tracker.Issue) := do
  let block ← blockOf .issues
  let issues ← readReport sources.notes plan.settings.tracker.noteFilename plan.isTalkative
  let intro ← plan.sentence sources plan.settings.wording.issues []
  let _ ← onTrees (addParagraph block intro)
  let list ← onTrees (addList block)
  return (block, list, issues)

theorem listIssues_eq (plan : Plan) (sources : Sources) :
    plan.listIssues sources =
      plan.openIssues sources >>= fun opened => opened.2.2.forM (plan.addIssue opened.1 opened.2.1) := by
  simp only [Plan.listIssues, Plan.openIssues, bind_assoc, pure_bind]

/-! ### Recorded work -/

/-- A section that has been added. -/
structure SectionCall where
  /-- Its level. -/
  level : HeaderLevel
  /-- Its name. -/
  name : String
  /-- The caption of the entries for it. -/
  caption : String
  /-- The place of its block. -/
  block : Place
  deriving DecidableEq, Repr

/-- The name and the caption of the entries for a section. -/
def SectionCall.entry (call : SectionCall) : String × String :=
  (call.name, call.caption)

/-- The level and the name of the heading of a section. -/
def SectionCall.heading (call : SectionCall) : HeaderLevel × String :=
  (call.level, call.name)

/-- A part of the assembly with a record of the sections added. -/
abbrev Recording (α : Type) := ExceptT AssemblyFault (StateM (Progress × List SectionCall)) α

/-- Work that adds no section. -/
def unrecorded (work : Assembling α) : Recording α := do
  let (p, calls) ← get
  let (result, p) := work.run.run p
  set (p, calls)
  match result with
  | .ok a => return a
  | .error fault => throw fault

/-- Adds a section and then records it. -/
def recordSection (here : Place) (level : HeaderLevel) (name : String) (tocs : List Place)
    (caption? : Option String) : Recording Place := do
  let block ← unrecorded (onTrees (addSection here level name tocs caption?))
  modify fun (p, calls) => (p, calls ++ [⟨level, name, caption?.getD name, block⟩])
  return block

/-- Adds and records a main section. -/
def recordMain (at' : Place × Place) (s : Section) : Recording Unit := do
  let _ ← recordSection at'.1 .mainSection s.title [at'.2] none

/-- The beginning of the pamphlet, recorded. -/
def Plan.recordOpening (plan : Plan) (sources : Sources) : Recording Unit := do
  let at' ← unrecorded (plan.beginPage sources)
  Section.all.forM (recordMain at')

/-- The section of an issue, recorded. -/
def Plan.recordIssue (plan : Plan) (block list : Place) (issue : Tracker.Issue) : Recording Unit := do
  let told ← unrecorded (plan.announceIssue block issue)
  let p ← unrecorded get
  let details ← recordSection block .issueDetail issue.sectionName [p.pamphlet.toc, list]
    (some (issue.caption told.2))
  unrecorded (fillIssue issue details told.1)

/-- The issues, recorded. -/
def Plan.recordIssues (plan : Plan) (sources : Sources) : Recording Unit := do
  let opened ← unrecorded (plan.openIssues sources)
  opened.2.2.forM (plan.recordIssue opened.1 opened.2.1)

/-- What a step does, recorded. -/
def Plan.recordStep (plan : Plan) (sources : Sources) : Step → Recording Unit
  | .opening => plan.recordOpening sources
  | .issuesList => plan.recordIssues sources
  | step => unrecorded (plan.takeStep sources step)

/-- The steps that add no section. -/
def Step.addsNoSection : Step → Bool
  | .opening | .issuesList => false
  | _ => true

theorem recordStep_eq (plan : Plan) (sources : Sources) {step : Step} (h : step.addsNoSection = true) :
    plan.recordStep sources step = unrecorded (plan.takeStep sources step) := by
  cases step <;> first | rfl | cases h

/-- The progress and the record after some steps have been tried one after the other, whatever came
of each. -/
def Plan.recordAttempt (plan : Plan) (sources : Sources) (steps : List Step)
    (s : Progress × List SectionCall) : Progress × List SectionCall :=
  steps.foldl (fun s step => (outcome (plan.recordStep sources step) s).2) s

/-! ### The record changes nothing -/

/-- Recorded work does what the work does, whatever has been recorded. -/
def Erases (recorded : Recording α) (work : Assembling α) : Prop :=
  ∀ p calls, (outcome recorded (p, calls)).1 = (outcome work p).1 ∧
    (outcome recorded (p, calls)).2.1 = (outcome work p).2

theorem outcome_unrecorded (work : Assembling α) (p : Progress) (calls : List SectionCall) :
    outcome (unrecorded work) (p, calls) = ((outcome work p).1, ((outcome work p).2, calls)) := by
  unfold unrecorded
  rw [outcome_bind_of_ok (outcome_get (p, calls))]
  unfold outcome
  dsimp only
  rcases work.run.run p with ⟨_ | _, p'⟩ <;> rfl

/-- Unrecorded work ensures what the work ensures beside every record. -/
theorem Ensures.unrecorded {work : Assembling α} {P F : Progress × List SectionCall → Prop}
    {Q : α → Progress × List SectionCall → Prop}
    (h : ∀ calls, Ensures (fun p => P (p, calls)) work (fun a p => Q a (p, calls)) fun p => F (p, calls)) :
    Ensures P (ReleaseNotes.unrecorded work) Q F := by
  rintro ⟨p, calls⟩ hs
  have := h calls p hs
  rw [outcome_unrecorded]
  revert this
  rcases outcome work p with ⟨_ | a, p'⟩ <;> exact id

theorem erases_unrecorded (work : Assembling α) : Erases (unrecorded work) work := by
  intro p calls
  rw [outcome_unrecorded]
  exact ⟨rfl, rfl⟩

theorem Erases.bind {recorded : Recording α} {work : Assembling α} {next' : α → Recording β}
    {next : α → Assembling β} (h : Erases recorded work) (hn : ∀ a, Erases (next' a) (next a)) :
    Erases (recorded >>= next') (work >>= next) := by
  intro p calls
  obtain ⟨h1, h2⟩ := h p calls
  rw [outcome_bind, outcome_bind]
  revert h1 h2
  rcases outcome recorded (p, calls) with ⟨r, q, calls'⟩
  rcases outcome work p with ⟨r', q'⟩
  rintro rfl rfl
  cases r with
  | error fault => exact ⟨rfl, rfl⟩
  | ok a => exact hn a q calls'

theorem Erases.forM {f' : α → Recording PUnit} {f : α → Assembling PUnit} (h : ∀ a, Erases (f' a) (f a))
    (l : List α) : Erases (l.forM f') (l.forM f) := by
  induction l with
  | nil => exact fun _ _ => ⟨rfl, rfl⟩
  | cons a l ih => exact .bind (h a) fun _ => ih

/-- Work that comes to a result does so when it is recorded. -/
theorem Erases.exists_of_ok {recorded : Recording α} {work : Assembling α} (h : Erases recorded work)
    {p p' : Progress} {a : α} (ho : outcome work p = (.ok a, p')) (calls : List SectionCall) :
    ∃ calls', outcome recorded (p, calls) = (.ok a, (p', calls')) := by
  obtain ⟨h1, h2⟩ := h p calls
  rw [ho] at h1 h2
  exact ⟨_, Prod.ext h1 (Prod.ext h2 rfl)⟩

theorem outcome_recordSection_of_ok {here : Place} {level : HeaderLevel} {name : String}
    {tocs : List Place} {caption? : Option String} {p p' : Progress} {block : Place}
    (h : outcome (onTrees (addSection here level name tocs caption?)) p = (.ok block, p'))
    (calls : List SectionCall) :
    outcome (recordSection here level name tocs caption?) (p, calls) =
      (.ok block, (p', calls ++ [⟨level, name, caption?.getD name, block⟩])) := by
  rw [recordSection, outcome_bind, outcome_unrecorded, h]
  rfl

theorem outcome_recordSection_of_error {here : Place} {level : HeaderLevel} {name : String}
    {tocs : List Place} {caption? : Option String} {p p' : Progress} {fault : AssemblyFault}
    (h : outcome (onTrees (addSection here level name tocs caption?)) p = (.error fault, p'))
    (calls : List SectionCall) :
    outcome (recordSection here level name tocs caption?) (p, calls) = (.error fault, (p', calls)) := by
  rw [recordSection, outcome_bind, outcome_unrecorded, h]

theorem erases_recordSection (here : Place) (level : HeaderLevel) (name : String) (tocs : List Place)
    (caption? : Option String) :
    Erases (recordSection here level name tocs caption?)
      (onTrees (addSection here level name tocs caption?)) := by
  intro p calls
  rcases h : outcome (onTrees (addSection here level name tocs caption?)) p with ⟨fault | block, p'⟩
  · rw [outcome_recordSection_of_error h]
    exact ⟨rfl, rfl⟩
  · rw [outcome_recordSection_of_ok h]
    exact ⟨rfl, rfl⟩

theorem erases_recordMain (at' : Place × Place) (s : Section) :
    Erases (recordMain at' s) (openSection at'.1 at'.2 s) := by
  have hp : Erases (pure ()) (pure ()) := fun _ _ => ⟨rfl, rfl⟩
  exact (erases_recordSection _ _ _ _ _).bind fun _ => hp

theorem erases_recordIssue (plan : Plan) (block list : Place) (issue : Tracker.Issue) :
    Erases (plan.recordIssue block list issue) (plan.addIssue block list issue) := by
  rw [addIssue_eq]
  exact (erases_unrecorded _).bind fun told => (erases_unrecorded get).bind fun p =>
    (erases_recordSection _ _ _ _ _).bind fun details => erases_unrecorded _

theorem erases_recordStep (plan : Plan) (sources : Sources) (step : Step) :
    Erases (plan.recordStep sources step) (plan.takeStep sources step) := by
  cases step with
  | opening =>
    show Erases (plan.recordOpening sources) (plan.openPamphlet sources)
    rw [openPamphlet_eq]
    exact (erases_unrecorded _).bind fun at' => .forM (erases_recordMain at') Section.all
  | issuesList =>
    show Erases (plan.recordIssues sources) (plan.listIssues sources)
    rw [listIssues_eq]
    exact (erases_unrecorded _).bind fun opened => .forM (erases_recordIssue plan _ _) _
  | overview | newFeatures | bugList | environment =>
    rw [recordStep_eq plan sources rfl]
    exact erases_unrecorded _

/-- The progress after recorded steps is that after the steps. -/
theorem recordAttempt_fst (plan : Plan) (sources : Sources) (steps : List Step)
    (s : Progress × List SectionCall) :
    (plan.recordAttempt sources steps s).1 = plan.attempt sources steps s.1 := by
  induction steps generalizing s with
  | nil => rfl
  | cons step steps ih =>
    rw [Plan.recordAttempt, Plan.attempt, List.foldl_cons, List.foldl_cons,
      ← (erases_recordStep plan sources step s.1 s.2).2]
    exact ih _

end ReleaseNotes
