import ReleaseNotes.Proofs.Checks

/-!
# The issues one after the other

The issues with detailed notes are added in turn, up to the first that fails (`Plan.Tries`). A turn asks for
the note of its issue before anything else (`requests_addIssue`), and sets the issue down as missing one in
the end, if it comes to its end and there was none (`ensures_missing_addIssue`). No other part of an assembly
asks for anything or sets anything down, so what an assembly has asked for, and what is missing after it, is
said by the issues that were tried and those that were added (`exists_tries`). Those are all issues if the assembly
comes to its end (`Plan.Tries.eq_of_ok`).
-/

namespace ReleaseNotes

open Markup

variable {ε σ β γ : Type} {plan : Plan} {sources : Sources} {start p q : Progress} {block list : Place}

/-! ### Loops that keep a record -/

/-- Where a loop ends whose every turn follows its check: after all turns, or in the first that fails. -/
theorem Follows.forM_cases {I : σ → Prop} {f : β → ExceptT ε (StateM σ) PUnit} {c : β → Except ε Unit}
    (h : ∀ b, Follows I (f b) [c b] fun _ => I) (l : List β) {s : σ} (hs : I s) :
    ((∀ b ∈ l, c b = .ok ()) ∧ ∃ t, outcome (l.forM f) s = (.ok (), t)) ∨
    ∃ before b after e t u, l = before ++ b :: after ∧ (∀ a ∈ before, c a = .ok ()) ∧ c b = .error e ∧
      outcome (before.forM f) s = (.ok (), t) ∧ outcome (f b) t = (.error e, u) ∧
      outcome (l.forM f) s = (.error e, u) := by
  induction l generalizing s with
  | nil => exact .inl ⟨nofun, s, rfl⟩
  | cons b l ih =>
    have hb := h b s hs
    rw [inTurn_singleton] at hb
    rw [outcome_forM_cons, outcome_bind]
    rcases hf : outcome (f b) s with ⟨e | u, t⟩
    · rw [hf] at hb
      exact .inr ⟨[], b, l, e, s, t, rfl, nofun, hb, rfl, hf, rfl⟩
    · rw [hf] at hb
      have hfirst (a : β) (k : List β) (hk : ∀ a ∈ k, c a = .ok ()) (ha : a ∈ b :: k) : c a = .ok () := by
        rcases List.mem_cons.mp ha with rfl | ha
        · exact hb.1
        · exact hk a ha
      rcases ih hb.2 with ⟨hl, ho⟩ | ⟨before, a, after, e, t', u', rfl, hbefore, ha, ho, hfa, hl⟩
      · exact .inl ⟨fun a => hfirst a l hl, ho⟩
      · refine .inr ⟨b :: before, a, after, e, t', u', rfl, fun a => hfirst a before hbefore, ha, ?_, hfa, hl⟩
        rw [outcome_forM_cons, outcome_bind_of_ok hf]
        exact ho

/-- What a loop adds to a record, if each turn that comes to its end adds something of its own. -/
theorem record_of_forM {f : β → ExceptT ε (StateM σ) PUnit} {g : σ → List γ} {added : β → List γ}
    (h : ∀ b s t, outcome (f b) s = (.ok (), t) → g t = g s ++ added b) {l : List β} {s t : σ}
    (ho : outcome (l.forM f) s = (.ok (), t)) : g t = g s ++ l.flatMap added := by
  induction l generalizing s with
  | nil =>
    cases ho
    rw [List.flatMap_nil, List.append_nil]
  | cons b l ih =>
    rw [outcome_forM_cons] at ho
    obtain ⟨_, s', hb, ho⟩ := outcome_bind_eq_ok.mp ho
    rw [ih ho, h b s s' hb, List.flatMap_cons, List.append_assoc]

/-! ### The turn of an issue -/

/-- What is asked of the network for the note of an issue. -/
def Plan.asks (plan : Plan) (issue : Tracker.Issue) : List Request :=
  (plan.fetch issue).request?.toList

/-- There is no note for an issue, and nothing wrong with that. -/
def Plan.lacks (plan : Plan) (issue : Tracker.Issue) : Bool :=
  match plan.noteFor issue with
  | .ok none => true
  | _ => false

theorem outcome_noteOf (plan : Plan) (issue : Tracker.Issue) (p : Progress) :
    outcome (plan.noteOf issue) p = (plan.noteFor issue,
      { p with requests := p.requests ++ plan.asks issue, remarks := p.remarks ++ (plan.fetch issue).shown }) := by
  refine Prod.ext (fst_outcome_noteOf plan issue p) ?_
  rw [Plan.noteOf, outcome_bind_of_ok (outcome_modify _ p)]
  exact Keeps.bind (f := id) (.orFail _ _) (fun _ => .orFail _ _) _

theorem keeps_requests_fillIssue (issue : Tracker.Issue) (details : Place) (note? : Option Document) :
    Keeps Progress.requests (fillIssue issue details note?) := by
  cases note? with
  | none => exact .modify fun _ => rfl
  | some note => exact .bind (.orFail _ _) fun _ => isAside_requests.onTrees _

/-- A turn asks for the note of its issue and for nothing else, whatever comes of it. -/
theorem requests_addIssue (plan : Plan) (block list : Place) (issue : Tracker.Issue) (p : Progress) :
    (outcome (plan.addIssue block list issue) p).2.requests = p.requests ++ plan.asks issue := by
  rw [Plan.addIssue, outcome_bind, outcome_noteOf]
  cases plan.noteFor issue with
  | error fault => rfl
  | ok note? =>
    have hrest (summary : String) : Keeps Progress.requests (do
        let _ ← onTrees (addLine block)
        let tocs := [(← get).pamphlet.toc, list]
        let details ← onTrees (addSection block .issueDetail issue.sectionName tocs
          (some (issue.caption summary)))
        fillIssue issue details note?) :=
      .bind (isAside_requests.onTrees _) fun _ => .bind .get fun _ => .bind (isAside_requests.onTrees _)
        fun details => keeps_requests_fillIssue issue details note?
    exact Keeps.bind (.orFail _ _) hrest _

theorem isAside_missing : IsAside Progress.missing := ⟨fun _ _ => rfl, fun _ _ => rfl, fun _ _ => rfl⟩

/-- The note of an issue is looked up before its section is added, and nothing is set down until then. -/
theorem ensures_missing_announceIssue (plan : Plan) (block : Place) (issue : Tracker.Issue)
    (missing : List Tracker.Issue) :
    Ensures (fun p => p.missing = missing) (plan.announceIssue block issue)
      (fun told p => p.missing = missing ∧ plan.noteFor issue = .ok told.1) (fun p => p.missing = missing) := by
  have hkeeps : Keeps Progress.missing (plan.announceIssue block issue) :=
    .bind (fun p => by rw [outcome_noteOf]) fun _ => .bind (.orFail _ _) fun _ =>
      .bind (isAside_missing.onTrees _) fun _ => .pure _
  intro p hp
  have h := hkeeps.ensures missing p hp
  revert h
  rcases ho : outcome (plan.announceIssue block issue) p with ⟨_ | told, q⟩
  · exact id
  · exact fun h => ⟨h, (announceIssue_eq_ok ho).1⟩

theorem ensures_missing_fillIssue (issue : Tracker.Issue) (details : Place) (note? : Option Document)
    (missing : List Tracker.Issue) :
    Ensures (fun p => p.missing = missing) (fillIssue issue details note?)
      (fun _ p => p.missing = missing ++ if note?.isNone then [issue] else []) (fun p => p.missing = missing) := by
  cases note? with
  | none =>
    rintro p rfl
    rfl
  | some note =>
    have hkeeps : Keeps Progress.missing (fillIssue issue details (some note)) :=
      .bind (.orFail _ _) fun _ => isAside_missing.onTrees _
    exact (hkeeps.ensures missing).mono (fun _ => id) (fun _ _ h => h.trans (List.append_nil _).symm) fun _ => id

/-- A turn that comes to its end sets its issue down if there is no note for it; one that fails sets nothing
down. -/
theorem ensures_missing_addIssue (plan : Plan) (block list : Place) (issue : Tracker.Issue)
    (missing : List Tracker.Issue) :
    Ensures (fun p => p.missing = missing) (plan.addIssue block list issue)
      (fun _ p => p.missing = missing ++ if plan.lacks issue then [issue] else [])
      (fun p => p.missing = missing) := by
  rw [addIssue_eq]
  refine (ensures_missing_announceIssue plan block issue missing).bind fun told => .of_and fun hnote => ?_
  have hlacks : plan.lacks issue = told.1.isNone := by
    rw [Plan.lacks, hnote]
    cases told.1 <;> rfl
  rw [hlacks]
  exact (Keeps.get.ensures missing).bind fun p => ((isAside_missing.onTrees _).ensures missing).bind fun details =>
    ensures_missing_fillIssue issue details told.1 missing

/-! ### All turns -/

/-- An assembly comes to its issues: the steps before theirs are taken, all items of the report are read, and
the sentence about them is said. -/
structure Plan.ComesToIssues (plan : Plan) (sources : Sources) (start : Progress) : Prop where
  /-- The step of the issues is reached. -/
  reached : (outcome (plan.reach sources .issuesList) start.anew).1 = .ok ()
  /-- The items are read. -/
  read : ∀ item ∈ sources.notes.descendants itemLabel, plan.reads item = .ok ()
  /-- The sentence is said. -/
  introduced : plan.introduces sources plan.settings.wording.issues (plan.ground sources start .issues) = .ok ()

/-- Which issues are tried in an assembly, and which of them come to be added. -/
inductive Plan.Tries (plan : Plan) (sources : Sources) (start : Progress) :
    List Tracker.Issue → List Tracker.Issue → Prop where
  /-- None, if the assembly does not come to its issues. -/
  | none : ¬ plan.ComesToIssues sources start → Tries plan sources start [] []
  /-- All of them, if there is nothing wrong with any. -/
  | all : plan.ComesToIssues sources start → (∀ issue ∈ plan.issuesOf sources.notes, plan.tells issue = .ok ()) →
      Tries plan sources start (plan.issuesOf sources.notes) (plan.issuesOf sources.notes)
  /-- Those up to the first with which something is wrong, which is not added. -/
  | some {before after : List Tracker.Issue} {issue : Tracker.Issue} {fault : AssemblyFault} :
      plan.ComesToIssues sources start → plan.issuesOf sources.notes = before ++ issue :: after →
      (∀ earlier ∈ before, plan.tells earlier = .ok ()) → plan.tells issue = .error fault →
      Tries plan sources start (before ++ [issue]) before

theorem IsAside.openIssues {f : Progress → γ} (hf : IsAside f) (plan : Plan) (sources : Sources) :
    Keeps f (plan.openIssues sources) :=
  .bind (hf.onPamphlet _) fun _ => .bind (hf.readReport _ _ _) fun _ => .bind (.sentence _ _ _ _) fun _ =>
    .bind (hf.onTrees _) fun _ => .bind (hf.onTrees _) fun _ => .pure _

theorem missing_of_forM_addIssue {issues : List Tracker.Issue}
    (h : outcome (issues.forM (plan.addIssue block list)) p = (.ok (), q)) :
    q.missing = p.missing ++ issues.filter plan.lacks := by
  have hturn (issue : Tracker.Issue) : (if plan.lacks issue then [issue] else []) = [issue].filter plan.lacks := by
    cases hl : plan.lacks issue <;> simp [hl]
  rw [record_of_forM (g := Progress.missing) (fun issue s _ =>
    (ensures_missing_addIssue plan block list issue s.missing).of_ok rfl) h, funext hturn, ← List.filter_flatMap,
    List.flatMap_singleton']

theorem requests_of_forM_addIssue {issues : List Tracker.Issue}
    (h : outcome (issues.forM (plan.addIssue block list)) p = (.ok (), q)) :
    q.requests = p.requests ++ issues.flatMap plan.asks :=
  record_of_forM (fun issue s t hs => by
    have := requests_addIssue plan block list issue s
    rwa [hs] at this) h

/-- The turns of the issues, once the section of the issues is begun. -/
theorem exists_tries_of_opened {frame : Pamphlet} (hc : plan.ComesToIssues sources start)
    (hp : Stands frame (Offers [list, block, frame.toc]) p.pamphlet) :
    ∃ tried added, plan.Tries sources start tried added ∧
      (outcome ((plan.issuesOf sources.notes).forM (plan.addIssue block list)) p).2.requests =
        p.requests ++ tried.flatMap plan.asks ∧
      (outcome ((plan.issuesOf sources.notes).forM (plan.addIssue block list)) p).2.missing =
        p.missing ++ added.filter plan.lacks := by
  have hturn (issue : Tracker.Issue) : Follows (fun p => Stands frame (Offers [list, block, frame.toc]) p.pamphlet)
      (plan.addIssue block list issue) [plan.tells issue] _ :=
    follows_addIssue (.tail _ (.head _)) (.tail _ (.tail _ (.head _))) (.head _) issue
  rcases Follows.forM_cases hturn (plan.issuesOf sources.notes) hp with
    ⟨htells, t, ht⟩ | ⟨before, issue, after, fault, t, u, hl, hbefore, hfails, ht, hu, hloop⟩
  · refine ⟨_, _, .all hc htells, ?_, ?_⟩
    · rw [ht, requests_of_forM_addIssue ht]
    · rw [ht, missing_of_forM_addIssue ht]
  · refine ⟨_, _, .some hc hl hbefore hfails, ?_, ?_⟩
    · have hr := requests_addIssue plan block list issue t
      rw [hu] at hr
      rw [hloop, hr, requests_of_forM_addIssue ht, List.flatMap_append, List.flatMap_singleton, List.append_assoc]
    · have hm := ensures_missing_addIssue plan block list issue t.missing t rfl
      rw [hu] at hm
      rw [hloop, hm, missing_of_forM_addIssue ht]

/-- What the step of the issues asks for and sets down is said by the issues that it tries and adds. -/
theorem exists_tries_of_reach (h : outcome (plan.reach sources .issuesList) start.anew = (.ok (), p)) :
    ∃ tried added, plan.Tries sources start tried added ∧
      (outcome (plan.listIssues sources) p).2.requests = p.requests ++ tried.flatMap plan.asks ∧
      (outcome (plan.listIssues sources) p).2.missing = p.missing ++ added.filter plan.lacks := by
  obtain ⟨block, hb, hground⟩ := exists_ground_of_reach (s := .issues) h
  have hfollows : Follows (fun q => q.pamphlet = p.pamphlet) (plan.openIssues sources) _ _ :=
    follows_openIssues (offers_toc_of_reach h) hb
  have hopen := hfollows p rfl
  have hrequests := isAside_requests.openIssues plan sources p
  have hmissing := isAside_missing.openIssues plan sources p
  rw [← hground] at hopen
  rw [listIssues_eq]
  rcases ho : outcome (plan.openIssues sources) p with ⟨fault | opened, q⟩
  · rw [ho] at hopen hrequests hmissing
    rw [outcome_bind_of_error ho]
    refine ⟨[], [], .none fun hc => ?_, hrequests.trans (List.append_nil _).symm,
      hmissing.trans (List.append_nil _).symm⟩
    have hok : inTurn ((sources.notes.descendants itemLabel).map plan.reads ++
        [plan.introduces sources plan.settings.wording.issues (plan.ground sources start .issues)]) = .ok () := by
      rw [inTurn_eq_ok_iff, List.forall_mem_append, List.forall_mem_map, List.forall_mem_singleton]
      exact ⟨hc.read, hc.introduced⟩
    rw [hok] at hopen
    cases hopen
  · rw [ho] at hopen hrequests hmissing
    obtain ⟨hok, hstands, hissues⟩ := hopen
    rw [inTurn_eq_ok_iff, List.forall_mem_append, List.forall_mem_map, List.forall_mem_singleton] at hok
    rw [outcome_bind_of_ok ho, hissues, ← hrequests, ← hmissing]
    exact exists_tries_of_opened ⟨congrArg Prod.fst h, hok.1, hok.2⟩ hstands

/-! ### A whole assembly -/

theorem outcome_assemble_eq (plan : Plan) (sources : Sources) (p : Progress) :
    outcome (plan.assemble sources) p =
      outcome (plan.reach sources .issuesList >>= fun _ => plan.listIssues sources >>= fun _ =>
        plan.takeShownStep sources .environment) p := by
  have hall : Step.all = Step.before .issuesList ++ [.issuesList, .environment] := rfl
  rw [Plan.assemble, hall, outcome_forM_append, Plan.reach, bind_assoc]
  have hlast : [Step.issuesList, .environment].forM (plan.takeShownStep sources) =
      plan.announce .issuesList >>= fun _ => plan.listIssues sources >>= fun _ =>
        plan.takeShownStep sources .environment := by
    show plan.takeShownStep sources .issuesList >>= (fun _ => plan.takeShownStep sources .environment >>= fun _ =>
      pure ()) = _
    rw [takeShownStep_eq, bind_assoc, bind_pure_unit]
    rfl
  rw [hlast]

/-- What the step after the issues does not change is not changed any more once they have been listed. -/
theorem IsAside.assemble_of_reach {f : Progress → γ} (hf : IsAside f)
    (h : outcome (plan.reach sources .issuesList) start.anew = (.ok (), p)) :
    f (outcome (plan.assemble sources) start.anew).2 = f (outcome (plan.listIssues sources) p).2 := by
  have hlast : Keeps f (plan.takeShownStep sources .environment) := hf.takeShownStep plan sources (by decide)
  rw [outcome_assemble_eq, outcome_bind_of_ok h, outcome_bind]
  rcases outcome (plan.listIssues sources) p with ⟨fault | u, q⟩
  · rfl
  · exact hlast q

theorem issuesList_not_mem_before : .issuesList ∉ Step.before .issuesList := by decide

/-- What an assembly asks for and sets down is said by the issues that it tries and adds. -/
theorem exists_tries (plan : Plan) (sources : Sources) (start : Progress) :
    ∃ tried added, plan.Tries sources start tried added ∧
      (outcome (plan.assemble sources) start.anew).2.requests = start.requests ++ tried.flatMap plan.asks ∧
      (outcome (plan.assemble sources) start.anew).2.missing = start.missing ++ added.filter plan.lacks := by
  have hrequests := isAside_requests.reach plan sources issuesList_not_mem_before start.anew
  have hmissing := isAside_missing.reach plan sources issuesList_not_mem_before start.anew
  rcases h : outcome (plan.reach sources .issuesList) start.anew with ⟨fault | u, p⟩
  · rw [h] at hrequests hmissing
    rw [outcome_assemble_eq, outcome_bind_of_error h]
    refine ⟨[], [], .none fun hc => ?_, hrequests.trans (List.append_nil _).symm,
      hmissing.trans (List.append_nil _).symm⟩
    have := hc.reached
    rw [h] at this
    cases this
  · rw [h] at hrequests hmissing
    rw [isAside_requests.assemble_of_reach h, isAside_missing.assemble_of_reach h]
    obtain ⟨tried, added, htries, hr, hm⟩ := exists_tries_of_reach h
    exact ⟨tried, added, htries, hr.trans (congrArg (· ++ _) hrequests), hm.trans (congrArg (· ++ _) hmissing)⟩

/-! ### What the step of the issues comes to -/

/-- The steps of an assembly up to that of the issues, that one included. -/
def Plan.reachAndList (plan : Plan) (sources : Sources) : Assembling Unit := do
  plan.reach sources .issuesList
  plan.takeStep sources .issuesList

theorem fst_outcome_takeStep_issuesList (h : outcome (plan.reach sources .issuesList) start.anew = (.ok (), p)) :
    (outcome (plan.takeStep sources .issuesList) p).1 =
      inTurn (plan.stepChecks sources (plan.ground sources start) .issuesList) := by
  have hf : Follows (fun q => q.pamphlet = p.pamphlet) (plan.takeStep sources .issuesList) _ _ :=
    follows_takeStep (s := .issues) h
  have hf := hf p rfl
  revert hf
  rcases outcome (plan.takeStep sources .issuesList) p with ⟨fault | u, q⟩
  · exact Eq.symm
  · exact fun hf => hf.1.symm

/-- Once an assembly comes to its issues, nothing but these can go wrong in their step. -/
theorem Plan.ComesToIssues.fst_outcome (h : plan.ComesToIssues sources start) :
    (outcome (plan.reachAndList sources) start.anew).1 = inTurn ((plan.issuesOf sources.notes).map plan.tells) := by
  obtain ⟨_, p, hp⟩ := exists_of_isOk (m := plan.reach sources .issuesList) (s := start.anew) (by rw [h.reached]; rfl)
  have hbegun : inTurn ((sources.notes.descendants itemLabel).map plan.reads ++
      [plan.introduces sources plan.settings.wording.issues (plan.ground sources start .issues)]) = .ok () := by
    rw [inTurn_eq_ok_iff, List.forall_mem_append, List.forall_mem_map, List.forall_mem_singleton]
    exact ⟨h.read, h.introduced⟩
  rw [Plan.reachAndList, outcome_bind_of_ok hp, fst_outcome_takeStep_issuesList hp, Plan.stepChecks, inTurn_append,
    hbegun, ok_bind]

/-- A step of the issues that comes to its end has come to its issues. -/
theorem comesToIssues_of_ok (h : (outcome (plan.reachAndList sources) start.anew).1 = .ok ()) :
    plan.ComesToIssues sources start := by
  obtain ⟨_, q, hq⟩ := exists_of_isOk (m := plan.reachAndList sources) (s := start.anew) (by rw [h]; rfl)
  obtain ⟨_, p, hp, hlist⟩ := outcome_bind_eq_ok.mp hq
  have hchecks := (fst_outcome_takeStep_issuesList hp).symm.trans (congrArg Prod.fst hlist)
  rw [Plan.stepChecks, inTurn_eq_ok_iff, List.forall_mem_append, List.forall_mem_append, List.forall_mem_map,
    List.forall_mem_singleton] at hchecks
  exact ⟨congrArg Prod.fst hp, hchecks.1.1, hchecks.1.2⟩

theorem fst_outcome_assemble_of_error {fault : AssemblyFault}
    (h : (outcome (plan.reachAndList sources) start.anew).1 = .error fault) :
    (outcome (plan.assemble sources) start.anew).1 = .error fault := by
  have hassemble : outcome (plan.assemble sources) start.anew =
      outcome (plan.reachAndList sources >>= fun _ => plan.takeShownStep sources .environment) start.anew := by
    rw [outcome_assemble_eq, Plan.reachAndList, bind_assoc]
    rfl
  rw [hassemble, outcome_bind]
  revert h
  rcases outcome (plan.reachAndList sources) start.anew with ⟨e | u, q⟩
  · exact id
  · nofun

/-- The first issue with which something is wrong ends their step. -/
theorem Plan.ComesToIssues.fst_outcome_of_first_failure {before after : List Tracker.Issue} {issue : Tracker.Issue}
    {fault : AssemblyFault} (h : plan.ComesToIssues sources start)
    (hl : plan.issuesOf sources.notes = before ++ issue :: after)
    (hb : ∀ earlier ∈ before, plan.tells earlier = .ok ()) (hf : plan.tells issue = .error fault) :
    (outcome (plan.reachAndList sources) start.anew).1 = .error fault := by
  rw [h.fst_outcome, inTurn_eq_error_iff]
  refine ⟨before.map plan.tells, after.map plan.tells, ?_, List.forall_mem_map.mpr hb⟩
  rw [hl, List.map_append, List.map_cons, hf]

/-- An assembly that comes to its end has added all issues. -/
theorem Plan.Tries.eq_of_ok {tried added : List Tracker.Issue} (h : plan.Tries sources start tried added)
    (ho : (outcome (plan.assemble sources) start.anew).1 = .ok ()) : added = plan.issuesOf sources.notes := by
  cases hlist : (outcome (plan.reachAndList sources) start.anew).1 with
  | error fault =>
    rw [fst_outcome_assemble_of_error hlist] at ho
    cases ho
  | ok u =>
    cases h with
    | none hn => exact absurd (comesToIssues_of_ok hlist) hn
    | all hc htells => rfl
    | some hc hl hadded hfails =>
      rw [hc.fst_outcome_of_first_failure hl hadded hfails] at hlist
      cases hlist

end ReleaseNotes
