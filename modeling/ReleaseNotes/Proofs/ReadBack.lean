import ReleaseNotes.Proofs.AppendOnly
import ReleaseNotes.Proofs.PlainPage
import ReleaseNotes.Proofs.Rereading
import ReleaseNotes.Proofs.Saving

/-!
# The pamphlet is read back

A pamphlet that is written as XML as it stands is a document with one element, the page: the page is begun
once, and nothing ever comes to stand beside it (`keeps_treeCount_takeStep`). So what can be read back of it
is what can be read back of the page (`read_back_iff`). A reference to an entity is written without the
declaration of the entity, so a page that refers to one is not given back (`not_read_back_of_reference`).
-/

namespace ReleaseNotes

open Markup

variable {α : Type} {content content' : List Node} {here : Place}

/-! ### Nothing comes to stand beside the page -/

theorem length_changeAt (f : Node → Node) (content : List Node) (p : Place) :
    (changeAt f content p).length = content.length := by
  have hchild (f : Node → Node) (content : List Node) (i : Nat) :
      (changeChild f content i).length = content.length := by
    cases h : childAt? content i with
    | none => rw [changeChild_of_none h]
    | some n =>
      obtain ⟨before, after, rfl, rfl⟩ := exists_eq_append_of_childAt? h
      rw [changeChild_mid (mem_of_childAt? h).2]
      simp
  rcases p with _ | ⟨i, _ | ⟨j, p⟩⟩
  · rfl
  · exact hchild f content i
  · exact hchild _ content i

theorem AddedAt.length_eq (h : AddedAt here content content') : content'.length = content.length := by
  obtain ⟨f, -, rfl⟩ := h
  exact length_changeAt f content here

theorem Adds.keeps_length {work : Editing α} {new : List Node} {result : Nat → α}
    (h : Adds here work new result) : Keeps List.length work :=
  fun content => (h.addedAt content).length_eq

theorem keeps_length_addEntries (name : String) (caption? : Option String) (tocs : List Place) :
    Keeps List.length (addEntries name caption? tocs) := by
  induction tocs with
  | nil => exact .pure _
  | cons toc tocs ih =>
    have hlink : Keeps List.length (liftM (localLink name caption?) : Editing Node) := fun content => by
      cases localLink name caption? <;> rfl
    exact hlink.bind fun entry => (adds_addItem toc entry).keeps_length.bind fun _ => ih

theorem keeps_length_addSection (here : Place) (level : HeaderLevel) (name : String) (tocs : List Place)
    (caption? : Option String) : Keeps List.length (addSection here level name tocs caption?) :=
  (keeps_length_addEntries name caption? tocs).bind fun _ => (adds_addHeader here level name).keeps_length

/-- How many nodes stand side by side in the pamphlet. -/
def Progress.treeCount (p : Progress) : Nat :=
  p.pamphlet.trees.length

theorem Reads.keeps_treeCount {work : Assembling α} (h : Reads work) : Keeps Progress.treeCount work :=
  fun p => congrArg (fun pamphlet : Pamphlet => pamphlet.trees.length) (h p)

theorem Keeps.onTrees {change : Editing α} (h : Keeps List.length change) :
    Keeps Progress.treeCount (onTrees change) := fun p => by
  rw [outcome_onTrees]
  exact h p.pamphlet.trees

theorem keeps_treeCount_copyField (sources : Sources) (s : Section) (field : SummaryField) :
    Keeps Progress.treeCount (copyField sources s field) :=
  .bind (Reads.blockOf s).keeps_treeCount fun _ => .bind (Reads.orFail _ _).keeps_treeCount fun _ =>
    .onTrees fun content => (addedAt_addCopy _ _ content).length_eq

theorem keeps_treeCount_listBugs (plan : Plan) (sources : Sources) :
    Keeps Progress.treeCount (plan.listBugs sources) :=
  .bind (Reads.blockOf _).keeps_treeCount fun _ => .bind (Reads.readReport _ _ _).keeps_treeCount fun _ =>
    .bind (Reads.sentence _ _ _ _).keeps_treeCount fun _ => .bind (.onTrees (adds_addParagraph _ _).keeps_length)
      fun _ => .bind (.onTrees fun content => (addedAt_addTable _ _ _ content).length_eq) fun _ =>
        .forM fun bug _ => .onTrees (adds_addBug _ _ bug).keeps_length

theorem keeps_treeCount_addIssue (plan : Plan) (block list : Place) (issue : Tracker.Issue) :
    Keeps Progress.treeCount (plan.addIssue block list issue) := by
  refine .bind (Reads.noteOf plan issue).keeps_treeCount fun note? => .bind (Reads.orFail _ _).keeps_treeCount
    fun _ => .bind (.onTrees (adds_addNode _ _).keeps_length) fun _ => .bind .get fun _ =>
      .bind (.onTrees (keeps_length_addSection _ _ _ _ _)) fun _ => ?_
  cases note? with
  | none => exact .modify fun _ => rfl
  | some note =>
    exact .bind (Reads.orFail _ _).keeps_treeCount fun _ =>
      .onTrees fun content => (addedAt_addCopy _ _ content).length_eq

theorem keeps_treeCount_listIssues (plan : Plan) (sources : Sources) :
    Keeps Progress.treeCount (plan.listIssues sources) :=
  .bind (Reads.blockOf _).keeps_treeCount fun block => .bind (Reads.readReport _ _ _).keeps_treeCount
    fun _ => .bind (Reads.sentence _ _ _ _).keeps_treeCount fun _ =>
      .bind (.onTrees (adds_addParagraph _ _).keeps_length) fun _ =>
        .bind (.onTrees (adds_addNode _ _).keeps_length) fun list =>
          .forM fun issue _ => keeps_treeCount_addIssue plan block list issue

theorem keeps_treeCount_listEnvironment (plan : Plan) (sources : Sources) :
    Keeps Progress.treeCount (plan.listEnvironment sources) :=
  .bind (Reads.blockOf _).keeps_treeCount fun _ => .bind (Reads.sentence _ _ _ _).keeps_treeCount fun _ =>
    .bind (.onTrees (adds_addParagraph _ _).keeps_length) fun _ =>
      .bind (.onTrees (adds_addNode _ _).keeps_length) fun _ =>
        .forM fun _ _ => .bind (Reads.environmentText plan sources _).keeps_treeCount fun _ =>
          .bind (.onTrees (adds_addLabelled _ _ _).keeps_length) fun _ => .pure _

/-- Once the page is begun, no step puts anything beside it. -/
theorem keeps_treeCount_takeStep (plan : Plan) (sources : Sources) {step : Step} (h : step ≠ .opening) :
    Keeps Progress.treeCount (plan.takeStep sources step) := by
  cases step with
  | opening => exact absurd rfl h
  | overview => exact keeps_treeCount_copyField sources .overview .overview
  | newFeatures => exact keeps_treeCount_copyField sources .newFeatures .newFeatures
  | bugList => exact keeps_treeCount_listBugs plan sources
  | issuesList => exact keeps_treeCount_listIssues plan sources
  | environment => exact keeps_treeCount_listEnvironment plan sources

/-! ### The finished page -/

variable {plan : Plan} {sources : Sources} {start p : Progress}

theorem keeps_treeCount_forM_takeShownStep (plan : Plan) (sources : Sources) {steps : List Step}
    (h : .opening ∉ steps) : Keeps Progress.treeCount (steps.forM (plan.takeShownStep sources)) :=
  .forM fun step hs => .takeShownStep (Reads.announce plan step).keeps_treeCount
    (keeps_treeCount_takeStep plan sources (ne_of_mem_of_not_mem hs h))

/-- An assembly that comes to its end has made a page, and nothing beside it. -/
theorem exists_page_of_assemble (h : outcome (plan.assemble sources) start.anew = (.ok (), p)) :
    ∃ content, p.pamphlet.trees = [.element (.plain PageElement.page.label []) content] ∧
      p.pamphlet.root? = some pagePlace := by
  rw [Plan.assemble, Step.all, outcome_forM_cons] at h
  obtain ⟨_, q, hq, h⟩ := outcome_bind_eq_ok.mp h
  obtain ⟨title, delta, -, -, hopened⟩ := exists_opened_of_shown hq
  have hgrows := onlyAdds_forM_takeShownStep plan sources (Step.all.drop 1) q
  have hkeeps : Keeps Progress.treeCount ((Step.all.drop 1).forM (plan.takeShownStep sources)) :=
    keeps_treeCount_forM_takeShownStep plan sources (by decide)
  have hcount := hkeeps q
  change outcome ((Step.all.drop 1).forM (plan.takeShownStep sources)) q = (.ok (), p) at h
  rw [h, hopened] at hgrows
  rw [h, Progress.treeCount, Progress.treeCount, hopened] at hcount
  obtain ⟨page, hpage⟩ := List.length_eq_one_iff.mp hcount
  obtain ⟨hgrows, hroot⟩ := hgrows
  rw [hpage] at hgrows
  obtain ⟨content, rfl, -⟩ := Node.GrowsTo.exists_of_element hgrows
  exact ⟨content, hpage, hroot _ rfl⟩

theorem write_xml {pamphlet : Pamphlet} {page : Node} (hn : page.isText = false)
    (ht : pamphlet.trees = [page]) (hr : pamphlet.root? = some pagePlace) :
    pamphlet.write Format.xml.label false = .ok (xmlLine ++ page.xml) := by
  have hm : Method.ofName? Format.xml.label = some .xml := by decide
  have htake : takeAt [page] pagePlace = [page] := by
    cases page with
    | text s => cases hn
    | _ => rfl
  rw [Pamphlet.write, hr]
  dsimp only
  rw [hm, ht, htake]
  show Except.ok (xmlLine ++ (page.xml ++ "" ++ "")) = _
  rw [String.append_empty, String.append_empty]

theorem document_eq_ok_iff {files : Files} {path : String} {octets : Octets} {document : Document}
    (h : files.read path = .ok octets) :
    files.document path = .ok document ↔ Document.read octets = .ok document := by
  rw [Files.document, h]
  dsimp only
  split
  · rename_i hd
    rw [hd, Except.ok.injEq, Except.ok.injEq]
  · rename_i hd
    rw [hd]
    simp
  · rename_i hd
    rw [hd]
    simp

/-! ### Reading the pamphlet -/

/-- The file at a path is read as a node, tidied. -/
def Files.GiveBack (files : Files) (path : String) (n : Node) : Prop :=
  ∃ document, files.document path = .ok document ∧ document.root = n.tidy

/-- A run that comes to its end with the pamphlet written as XML, as it stands, has made a page, and its file
gives that page back exactly if it can be read again. -/
theorem exists_giveBack_iff {plan : Plan} {paths : RunPaths} {start : Progress}
    (hx : plan.settings.output.format = .xml) (hi : plan.settings.output.isIndented = false)
    (h : (outcome (plan.generate paths) start.anew).1 = .ok ()) :
    ∃ sources finished page,
      start.files.sources paths.summary paths.bugs paths.notes = .ok sources ∧
      outcome (plan.assemble sources) start.anew = (.ok (), finished) ∧
      finished.pamphlet.page? = some page ∧
      ((outcome (plan.generate paths) start.anew).2.files.GiveBack (tidyPath paths.pamphlet) page ↔
        page.IsReadable [] ∧ verdict (page.notices []) = none) := by
  obtain ⟨sources, finished, written, hs, ha, hw, hread⟩ := exists_page_of_ok plan paths start.anew h
  obtain ⟨content, htrees, hroot⟩ := exists_page_of_assemble ha
  rw [hx, hi, write_xml rfl htrees hroot] at hw
  cases hw
  refine ⟨sources, finished, .element (.plain PageElement.page.label []) content, hs, ha, ?_, ?_⟩
  · rw [Pamphlet.page?, hroot, htrees]
    rfl
  · rw [← exists_read_written_iff (isPlain_holderTag .page).isWritable]
    exact exists_congr fun document => and_congr_left' (document_eq_ok_iff hread)

/-- **What can be read back of the pamphlet.** A run that comes to its end with the pamphlet written as XML,
as it stands, has made a page. The file of the pamphlet is read as that page, tidied, exactly if every part of
the page can be read again and nothing that a reader remarks on in it is held against it. That is so if what
is copied from the documents is plain and the page is not nested too deeply. -/
theorem read_back_iff (plan : Plan) (paths : RunPaths) (start : Progress)
    (hx : plan.settings.output.format = .xml) (hi : plan.settings.output.isIndented = false)
    (h : (outcome (plan.generate paths) start.anew).1 = .ok ()) :
    ∃ sources finished page,
      start.files.sources paths.summary paths.bugs paths.notes = .ok sources ∧
      outcome (plan.assemble sources) start.anew = (.ok (), finished) ∧
      finished.pamphlet.page? = some page ∧
      ((outcome (plan.generate paths) start.anew).2.files.GiveBack (tidyPath paths.pamphlet) page ↔
        page.IsReadable [] ∧ verdict (page.notices []) = none) ∧
      (plan.CopiesPlainly sources → page.height ≤ nestingLimit →
        (outcome (plan.generate paths) start.anew).2.files.GiveBack (tidyPath paths.pamphlet) page) := by
  obtain ⟨sources, finished, page, hs, ha, hp, hback⟩ := exists_giveBack_iff hx hi h
  refine ⟨sources, finished, page, hs, ha, hp, hback, fun hplain hd => hback.mpr ?_⟩
  obtain ⟨page', hp', hpage⟩ := isPlain_page_of_assemble hplain ha
  cases hp.symm.trans hp'
  obtain ⟨hr, hn⟩ := isReadable_of_isPlain (List.forall_mem_nil _) page hpage
    (by rwa [List.length_nil, Nat.zero_add])
  exact ⟨hr, by rw [hn]; rfl⟩

/-- The plan for the small release with the pamphlet written as XML, as it stands. -/
def xmlPlan : Plan :=
  { smallPlan with settings := { smallPlan.settings with output := { format := .xml } } }

/-- The documents of the small release with some overview. -/
def smallDocuments (overview : List Char) : Except InputFault Sources :=
  (smallStart overview emptyReport emptyReport).files.sources smallPaths.summary smallPaths.bugs smallPaths.notes

/-- What is copied from the small release is plain. -/
theorem copiesPlainly_small {sources : Sources} (h : smallDocuments ['v'] = .ok sources) :
    xmlPlan.CopiesPlainly sources := by
  have hfields : ∀ field ∈ [SummaryField.overview, .newFeatures],
      ((smallDocuments ['v']).toOption.bind fun sources => (sources.summary.fragment field).toOption).all
        (fun fragment => fragment.IsPlain) = true := by decide +kernel
  have hissues : (smallDocuments ['v']).toOption.all
      (fun sources => (xmlPlan.issuesOf sources.notes).isEmpty) = true := by decide +kernel
  have hcopies : (smallDocuments ['v']).toOption.all (fun sources => Section.all.all fun t =>
      (xmlPlan.copies sources t).all fun copied => Section.all.all fun s =>
        !anywhere (isHeader .mainSection s.title) copied) = true := by decide +kernel
  rw [h] at hfields hissues hcopies
  exact {
    fields := fun field hf fragment hfragment => by
      have := hfields field (by simpa using hf)
      simpa [hfragment, Except.toOption] using this
    notes := fun issue hi => by
      have : xmlPlan.issuesOf sources.notes = [] := List.isEmpty_iff.mp hissues
      rw [this] at hi
      cases hi
    apart := fun t copied hc s => by
      have := List.all_eq_true.mp (List.all_eq_true.mp (List.all_eq_true.mp hcopies t t.mem_all) copied hc)
        s s.mem_all
      simpa using this }

/-- The pamphlet of the small release is read back. -/
theorem read_back_small : ∃ sources finished page, smallDocuments ['v'] = .ok sources ∧
    outcome (xmlPlan.assemble sources) (smallStart ['v'] emptyReport emptyReport).anew = (.ok (), finished) ∧
    finished.pamphlet.page? = some page ∧
    (outcome (xmlPlan.generate smallPaths) (smallStart ['v'] emptyReport emptyReport).anew).2.files.GiveBack
      (tidyPath smallPaths.pamphlet) page := by
  obtain ⟨sources, finished, page, hs, ha, hp, -, hback⟩ := read_back_iff xmlPlan smallPaths
    (smallStart ['v'] emptyReport emptyReport) rfl rfl (by decide +kernel)
  have hs : smallDocuments ['v'] = .ok sources := hs
  have hshallow : (smallDocuments ['v']).toOption.all (fun sources =>
      (outcome (xmlPlan.assemble sources) (smallStart ['v'] emptyReport emptyReport).anew).2.pamphlet.page?.all
        fun page => page.height ≤ nestingLimit) = true := by decide +kernel
  rw [hs] at hshallow
  change (outcome (xmlPlan.assemble sources) _).2.pamphlet.page?.all _ = true at hshallow
  rw [ha, hp] at hshallow
  exact ⟨sources, finished, page, hs, ha, hp, hback (copiesPlainly_small hs) (of_decide_eq_true hshallow)⟩

/-! ### References to entities -/

/-- Whether a node is a reference to an entity. -/
def Markup.Node.isReference : Node → Bool
  | .reference _ => true
  | _ => false

theorem not_isReadable_of_isReference {scope : List (List Namespace)} {n : Node} (h : n.isReference) :
    ¬ n.IsReadable scope := by
  cases n with
  | reference name =>
    rw [Node.IsReadable]
    exact not_false
  | _ => cases h

/-- A node with a reference to an entity in it cannot be read again. -/
theorem not_isReadable_of_reference {scope : List (List Namespace)} {n : Node}
    (h : n.family.any Node.isReference) : ¬ n.IsReadable scope := by
  intro hr
  obtain ⟨m, hm, hreference⟩ := List.any_eq_true.mp h
  obtain ⟨inner, hm⟩ := exists_isReadable_of_mem_family n hr hm
  exact not_isReadable_of_isReference hreference hm

/-- The start of a run for a small release whose overview refers to an entity of its document type. -/
def referringStart : Progress where
  files := { entries := [
    (smallPaths.summary,
      Text.utf8 ("<!DOCTYPE summary SYSTEM 'summary.dtd'>".toList ++ smallSummary ['&', 'e', ';'])),
    (smallPaths.bugs, Text.utf8 emptyReport), (smallPaths.notes, Text.utf8 emptyReport)] }

/-- A run whose overview refers to an entity comes to its end, and its page is not given back: the reference is
written, and nothing that declares the entity is. -/
theorem not_read_back_of_reference :
    (outcome (xmlPlan.generate smallPaths) referringStart.anew).1 = .ok () ∧
      ∃ sources finished page,
        referringStart.files.sources smallPaths.summary smallPaths.bugs smallPaths.notes = .ok sources ∧
        outcome (xmlPlan.assemble sources) referringStart.anew = (.ok (), finished) ∧
        finished.pamphlet.page? = some page ∧
        ¬ (outcome (xmlPlan.generate smallPaths) referringStart.anew).2.files.GiveBack
          (tidyPath smallPaths.pamphlet) page := by
  have hok : (outcome (xmlPlan.generate smallPaths) referringStart.anew).1 = .ok () := by decide +kernel
  have hreference : (referringStart.files.sources smallPaths.summary smallPaths.bugs
      smallPaths.notes).toOption.all (fun sources =>
        (outcome (xmlPlan.assemble sources) referringStart.anew).2.pamphlet.page?.all
          fun page => page.family.any Node.isReference) = true := by decide +kernel
  obtain ⟨sources, finished, page, hs, ha, hp, hback⟩ := exists_giveBack_iff rfl rfl hok
  refine ⟨hok, sources, finished, page, hs, ha, hp, fun hb => ?_⟩
  rw [hs] at hreference
  change (outcome (xmlPlan.assemble sources) _).2.pamphlet.page?.all _ = true at hreference
  rw [ha, hp] at hreference
  exact not_isReadable_of_reference hreference (hback.mp hb).1

end ReleaseNotes
