import ReleaseNotes.Proofs.Checks

/-!
# Faults that are reported

A run that fails to read a document, or to write the pamphlet, says so: those faults are always reported
(`report?_of_unwritten`). For the assembly that is so just if the first of its checks that fails is one
whose fault is reported (`failures_are_reported_iff`). Only three kinds of fault are not: a template comes
to nothing, an addition to the page cannot be made, or fetching a note comes to no result
(`unreported_cases`).
-/

namespace ReleaseNotes

open Markup

variable {α β ε : Type} {plan : Plan} {sources : Sources} {paths : RunPaths} {start p : Progress}

/-! ### Writing -/

theorem isSome_ofName?_label (f : Format) : (Method.ofName? f.label).isSome := by
  cases f <;> decide

/-- A pamphlet that cannot be written is reported. -/
theorem report?_of_unwritten {path : String} {fault : PamphletFault}
    (h : plan.written path p = .error fault) : (AssemblyFault.pamphlet fault).report?.isSome := by
  obtain ⟨method, hm⟩ := Option.isSome_iff_exists.mp (isSome_ofName?_label plan.settings.output.format)
  rw [Plan.written, Pamphlet.save, Pamphlet.write, hm] at h
  cases hr : p.pamphlet.root? with
  | none =>
    rw [hr] at h
    cases h
    rfl
  | some root =>
    rw [hr] at h
    dsimp only at h
    cases ht : takeAt p.pamphlet.trees root with
    | nil =>
      rw [ht] at h
      cases h
      rfl
    | cons page after =>
      rw [ht] at h
      dsimp only at h
      split at h
      · cases h
        rfl
      · cases h

/-- A run that does not show its work is over once the pamphlet is written. -/
theorem fst_outcome_conclude_quietly (plan : Plan) (path : String) (p : Progress) :
    (outcome (plan.quietly.conclude path) p).1 = .ok () := rfl

/-! ### Kinds of faults -/

/-- A fault that the assembly can come to without showing its work. -/
def AssemblyFault.isSilent : AssemblyFault → Bool
  | .input _ | .note _ | .network _ | .template _ | .fetch _ | .pamphlet (.edit _) => true
  | .pamphlet _ | .longId _ | .tag _ => false

/-- If something fails, it is with a fault that the assembly can come to without showing its work. -/
def FailsSilently (made : Except AssemblyFault α) : Prop :=
  ∀ fault, made = .error fault → fault.isSilent

theorem FailsSilently.ok (a : α) : FailsSilently (.ok a) := nofun

theorem FailsSilently.bind {made : Except AssemblyFault α} {next : α → Except AssemblyFault β}
    (h : FailsSilently made) (hn : ∀ a, FailsSilently (next a)) : FailsSilently (made >>= next) := by
  intro fault hf
  cases made with
  | error e =>
    cases hf
    exact h _ rfl
  | ok a => exact hn a fault hf

theorem FailsSilently.mapError {kind : ε → AssemblyFault} (hk : ∀ e, (kind e).isSilent)
    (made : Except ε α) : FailsSilently (made.mapError kind) := by
  intro fault hf
  cases made with
  | error e =>
    cases hf
    exact hk e
  | ok a => cases hf

theorem FailsSilently.passed {made : Except AssemblyFault α} (h : FailsSilently made) :
    FailsSilently (passed made) := by
  intro fault hf
  cases made with
  | error e =>
    cases hf
    exact h _ rfl
  | ok a => cases hf

theorem FailsSilently.onPage (check : Except EditFault Unit) : FailsSilently (onPage check) := by
  intro fault hf
  cases check with
  | error e =>
    cases hf
    rfl
  | ok a => cases hf

theorem FailsSilently.inTurn {checks : List Check} (h : ∀ check ∈ checks, FailsSilently check) :
    FailsSilently (inTurn checks) := by
  intro fault hf
  obtain ⟨before, after, rfl, -⟩ := inTurn_eq_error_iff.mp hf
  exact h _ (List.mem_append_right _ (.head _)) fault rfl

/-! ### The assembly -/

section Assembly

theorem FailsSilently.phrase (plan : Plan) (sources : Sources) (template : String) (more : Template.Context) :
    FailsSilently (plan.phrase sources template more) :=
  .bind (.mapError (fun _ => rfl) _) fun _ => .bind (.mapError (fun _ => rfl) _) fun _ =>
    .mapError (fun _ => rfl) _

theorem FailsSilently.utters (plan : Plan) (sources : Sources) (template : String) :
    FailsSilently (plan.utters sources template) :=
  .bind (.phrase plan sources template []) fun _ => .onPage _

theorem FailsSilently.introduces (plan : Plan) (sources : Sources) (template : String) (found : Option Node) :
    FailsSilently (plan.introduces sources template found) :=
  .bind (.utters plan sources template) fun _ => .onPage _

theorem FailsSilently.copies (sources : Sources) (field : SummaryField) (found : Option Node) :
    FailsSilently (sources.copies field found) :=
  .bind (.mapError (fun _ => rfl) _) fun _ => .inTurn <| List.forall_mem_map.mpr fun _ _ => .onPage _

theorem FailsSilently.reads (plan : Plan) (item : Node) : FailsSilently (plan.quietly.reads item) :=
  .bind (.mapError (fun _ => rfl) _) fun _ => .ok ()

theorem FailsSilently.hasBody (key : String) (note? : Option Document) : FailsSilently (hasBody key note?) := by
  cases note? with
  | none => exact .ok ()
  | some note => exact .passed (.mapError (fun _ => rfl) _)

theorem FailsSilently.tells (plan : Plan) (issue : Tracker.Issue) : FailsSilently (plan.tells issue) :=
  .bind (.bind (.mapError (fun _ => rfl) _) fun _ => .mapError (fun _ => rfl) _) fun _ =>
    .bind (.mapError (fun _ => rfl) _) fun _ => .bind (.onPage _) fun _ => .hasBody _ _

theorem FailsSilently.states (plan : Plan) (sources : Sources) (field : SummaryField) :
    FailsSilently (plan.states sources field) := by
  refine .bind (.bind (.mapError (fun _ => rfl) _) fun text => ?_) fun _ => .onPage _
  split
  · exact .phrase plan sources _ _
  · exact .ok text

theorem FailsSilently.stepChecks (plan : Plan) (sources : Sources) (ground : Section → Option Node)
    (step : Step) : ∀ check ∈ plan.quietly.stepChecks sources ground step, FailsSilently check := by
  cases step with
  | opening => exact List.forall_mem_cons.mpr ⟨.utters _ _ _, List.forall_mem_singleton.mpr (.utters _ _ _)⟩
  | overview => exact List.forall_mem_singleton.mpr (.copies _ _ _)
  | newFeatures => exact List.forall_mem_singleton.mpr (.copies _ _ _)
  | bugList =>
    refine List.forall_mem_append.mpr ⟨List.forall_mem_append.mpr ⟨?_, ?_⟩, ?_⟩
    · exact List.forall_mem_map.mpr fun item _ => .reads plan item
    · exact List.forall_mem_cons.mpr ⟨.introduces _ _ _ _, List.forall_mem_singleton.mpr (.onPage _)⟩
    · exact List.forall_mem_map.mpr fun _ _ => .onPage _
  | issuesList =>
    refine List.forall_mem_append.mpr ⟨List.forall_mem_append.mpr ⟨?_, ?_⟩, ?_⟩
    · exact List.forall_mem_map.mpr fun item _ => .reads plan item
    · exact List.forall_mem_singleton.mpr (.introduces _ _ _ _)
    · exact List.forall_mem_map.mpr fun _ _ => .tells _ _
  | environment =>
    exact List.forall_mem_cons.mpr ⟨.introduces _ _ _ _, List.forall_mem_map.mpr fun _ _ => .states _ _ _⟩

/-- An assembly that does not show its work fails in no other way. -/
theorem FailsSilently.assemble (plan : Plan) (sources : Sources) (start : Progress) :
    FailsSilently (outcome (plan.quietly.assemble sources) start.anew).1 := by
  rw [assemble_eq_inTurn]
  refine .inTurn fun check hc => ?_
  obtain ⟨step, -, hs⟩ := List.mem_flatMap.mp hc
  exact FailsSilently.stepChecks plan sources _ step check hs

/-- **All failures of a run that does not show its work are reported** if and only if, whenever its
documents can be read and some check of the assembly fails, the first one that does fails for a reason
that is reported. -/
theorem failures_are_reported_iff (plan : Plan) (paths : RunPaths) (start : Progress) :
    (∀ fault, (outcome (plan.quietly.generate paths) start.anew).1 = .error fault → fault.report?.isSome) ↔
      ∀ sources, start.files.sources paths.summary paths.bugs paths.notes = .ok sources →
        ∀ before fault after,
          plan.quietly.checks sources (plan.quietly.ground sources start) = before ++ .error fault :: after →
          (∀ check ∈ before, check = .ok ()) → fault.report?.isSome := by
  have hassemble (sources : Sources) (fault : AssemblyFault) :
      (outcome (plan.quietly.assemble sources) start.anew).1 = .error fault ↔ ∃ before after,
        plan.quietly.checks sources (plan.quietly.ground sources start) = before ++ .error fault :: after ∧
          ∀ check ∈ before, check = .ok () := by
    rw [assemble_eq_inTurn, inTurn_eq_error_iff]
  constructor
  · intro h sources hs before fault after hc hb
    have ha := (hassemble sources fault).mpr ⟨before, after, hc, hb⟩
    have ho : outcome (plan.quietly.generate paths) start.anew = (.error fault, _) :=
      generate_of_failed hs (Prod.ext ha rfl)
    exact h fault (congrArg Prod.fst ho)
  · intro h fault hf
    rcases generate_cases plan.quietly paths start.anew with
      ⟨fault', -, ho⟩ | ⟨sources, hs, ⟨fault', p, ha, ho⟩ | ⟨p, -, ⟨fault', hw, ho⟩ | ⟨files, -, ho⟩⟩⟩
    · rw [ho] at hf
      cases hf
      rfl
    · rw [ho] at hf
      cases hf
      obtain ⟨before, after, hc, hb⟩ := (hassemble sources fault).mp (congrArg Prod.fst ha)
      exact h sources hs before fault after hc hb
    · rw [ho] at hf
      cases hf
      exact report?_of_unwritten hw
    · rw [ho, fst_outcome_conclude_quietly] at hf
      cases hf

/-- An overview that is nothing but a heading with the name of the bugs, as it is written. -/
def misleadingHeading : List Char :=
  "<h2><a name='Bug Fixes'/></h2>".toList

/-- With that overview the bugs have no place to go to, which is not reported. -/
theorem unreported_for_misleading_heading :
    smallPlan.settings.wording.firstFault? smallPlan.settings.language = none ∧
      ∃ fault, (outcome (smallPlan.quietly.generate smallPaths)
        (smallStart misleadingHeading emptyReport emptyReport).anew).1 = .error fault ∧ fault.report? = none :=
  ⟨by decide +kernel, .pamphlet (.edit .noHolder), by decide +kernel, rfl⟩

/-- A fault of a run that is not reported lies in a template, in an addition to the page, or in fetching a
note that comes to no result. -/
theorem unreported_cases {fault : AssemblyFault}
    (h : (outcome (plan.quietly.generate paths) start.anew).1 = .error fault) (hr : fault.report? = none) :
    (∃ reason, fault = .template reason) ∨ (∃ reason, fault = .pamphlet (.edit reason)) ∨
      ∃ reason, fault = .fetch reason := by
  rcases generate_cases plan.quietly paths start.anew with
    ⟨_, -, ho⟩ | ⟨sources, -, ⟨_, p, ha, ho⟩ | ⟨p, -, ⟨_, hw, ho⟩ | ⟨files, -, ho⟩⟩⟩
  · rw [ho] at h
    cases h
    cases hr
  · rw [ho] at h
    cases h
    have hq := FailsSilently.assemble plan sources start fault (congrArg Prod.fst ha)
    cases fault with
    | template reason => exact .inl ⟨reason, rfl⟩
    | fetch reason => exact .inr (.inr ⟨reason, rfl⟩)
    | pamphlet reason =>
      cases reason with
      | edit reason => exact .inr (.inl ⟨reason, rfl⟩)
      | _ => cases hq
    | input | note | network => cases hr
    | longId | tag => cases hq
  · rw [ho] at h
    cases h
    exact absurd hr (Option.isSome_iff_ne_none.mp (report?_of_unwritten hw))
  · rw [ho, fst_outcome_conclude_quietly] at h
    cases h

end Assembly

end ReleaseNotes
