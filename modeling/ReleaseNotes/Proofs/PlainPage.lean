import ReleaseNotes.Proofs.Demands
import ReleaseNotes.Proofs.Page
import ReleaseNotes.Proofs.Plain

/-!
# Pages of plain documents

If all that is copied is plain, and no copy misleads the search for a section, the page that an assembly
makes is plain (`isPlain_page_of_assemble`): what it adds of its own is plain if it is legal text, and the
assembly has checked that it is.
-/

namespace ReleaseNotes

open Markup

variable {s t : String} {content : List Node} {n : Node} {around : List Tag}

/-! ### The layout is plain -/

theorem isPlain_plainName (hl : isNameText s) (hw : ':' ∉ s.toList) : (Name.plain s).IsPlain :=
  ⟨rfl, hl, hw⟩

theorem isPlain_plainTag (hl : isNameText s) (hw : ':' ∉ s.toList) : (Tag.plain s []).IsPlain where
  name := isPlain_plainName hl hw
  declared := rfl
  attributes := List.forall_mem_nil _
  distinct := List.nodup_nil

/-- A tag with one attribute. -/
theorem isPlain_tagWith {label value : String} (ht : (Tag.plain t []).IsPlain) (hl : isNameText label)
    (hw : ':' ∉ label.toList) (hf : label ≠ "xmlns") (hv : isLegalText value) :
    (Tag.plain t [.plain label value]).IsPlain where
  name := ht.name
  declared := rfl
  attributes := by
    refine List.forall_mem_singleton.mpr ⟨isPlain_plainName hl hw, hf, rfl, ?_⟩
    simpa [Attribute.value, Attribute.plain, Piece.reading] using hv
  distinct := List.pairwise_singleton _ _

theorem isPlain_holderTag (e : PageElement) : (Tag.plain e.label []).IsPlain := by
  cases e <;> exact isPlain_plainTag (by decide) (by decide)

theorem isPlain_headerTag (level : HeaderLevel) : (Tag.plain level.label []).IsPlain := by
  cases level <;> exact isPlain_plainTag (by decide) (by decide)

namespace Layout

theorem isPlain_holder (e : PageElement) (h : ∀ n ∈ content, n.IsPlain) : (holder e content).IsPlain :=
  isPlain_element_iff.mpr ⟨isPlain_holderTag e, h⟩

theorem isPlain_said (e : PageElement) (h : isLegalText s) : (holder e [.text s]).IsPlain :=
  isPlain_holder e (List.forall_mem_singleton.mpr (isPlain_text_iff.mpr h))

theorem isPlain_linked (ht : isLegalText t) (hs : isLegalText s) : (linked t s).IsPlain :=
  isPlain_element_iff.mpr ⟨isPlain_tagWith (isPlain_holderTag .anchor) (by decide) (by decide) (by decide) ht,
    List.forall_mem_singleton.mpr (isPlain_text_iff.mpr hs)⟩

theorem isPlain_entry (ht : isLegalText t) (hs : isLegalText s) : (entry t s).IsPlain := by
  refine isPlain_holder .item (List.forall_mem_singleton.mpr (isPlain_linked ?_ hs))
  rw [isLegalText_append, ht]
  rfl

theorem isPlain_heading (level : HeaderLevel) (h : isLegalText s) : (heading level s).IsPlain :=
  isPlain_element_iff.mpr ⟨isPlain_headerTag level, List.forall_mem_cons.mpr
    ⟨isPlain_element_iff.mpr ⟨isPlain_tagWith (isPlain_holderTag .anchor) (by decide) (by decide) (by decide) h,
      List.forall_mem_nil _⟩, List.forall_mem_singleton.mpr (isPlain_text_iff.mpr h)⟩⟩

theorem isPlain_headed (level : HeaderLevel) (h : isLegalText s) (hc : ∀ n ∈ content, n.IsPlain) :
    ∀ n ∈ headed level s content, n.IsPlain :=
  List.forall_mem_cons.mpr ⟨isPlain_heading level h, List.forall_mem_singleton.mpr (isPlain_holder .block hc)⟩

theorem isPlain_table {headings : List String} {rows : List Node} (hs : isLegalText s)
    (hh : ∀ h ∈ headings, isLegalText h) (hr : ∀ row ∈ rows, row.IsPlain) : (table s headings rows).IsPlain := by
  refine isPlain_element_iff.mpr
    ⟨isPlain_tagWith (isPlain_holderTag .table) (by decide) (by decide) (by decide) hs, ?_⟩
  refine List.forall_mem_cons.mpr ⟨isPlain_holder .row (List.forall_mem_map.mpr fun h hm => ?_), hr⟩
  exact isPlain_holder .column (List.forall_mem_singleton.mpr (isPlain_said .bold (hh h hm)))

theorem isPlain_bugRow {address : String} (ha : isLegalText address) (hs : isLegalText s) (ht : isLegalText t) :
    (bugRow address s t).IsPlain :=
  isPlain_holder .row (List.forall_mem_cons.mpr
    ⟨isPlain_holder .column (List.forall_mem_singleton.mpr (isPlain_linked ha hs)),
      List.forall_mem_singleton.mpr (isPlain_said .column ht)⟩)

theorem isPlain_labelled (hs : isLegalText s) (ht : isLegalText t) : (labelled s t).IsPlain := by
  refine isPlain_holder .item (List.forall_mem_cons.mpr
    ⟨isPlain_said .bold hs, List.forall_mem_singleton.mpr (isPlain_text_iff.mpr ?_)⟩)
  rw [isLegalText_append, ht]
  rfl

theorem isPlain_entries {l : List (String × String)} (h : ∀ e ∈ l, isLegalText e.1 ∧ isLegalText e.2) :
    ∀ n ∈ entries l, n.IsPlain :=
  List.forall_mem_map.mpr fun e he => isPlain_entry (h e he).1 (h e he).2

end Layout

/-! ### Copies are plain -/

theorem subset_appendContent_nil (more : List Node) : appendContent [] more ⊆ more := by
  unfold appendContent
  split
  · unfold appendText
    split
    · exact List.subset_cons_self _ _
    · exact List.Subset.refl _
  · exact List.Subset.refl _

theorem isPlain_copySource (h : n.IsPlain) : ∀ m ∈ n.copySource, m.IsPlain := by
  cases n with
  | element tag content => exact (isPlain_element_iff.mp h).2
  | text s => exact List.forall_mem_singleton.mpr h
  | comment s => exact List.forall_mem_singleton.mpr (isPlain_text_iff.mpr (isPlain_comment_iff.mp h).legal)
  | instruction target data =>
    exact List.forall_mem_singleton.mpr (isPlain_text_iff.mpr (isPlain_instruction_iff.mp h).1.legal)
  | reference name => exact (not_isPlain_reference name h).elim

/-- What is copied from a plain node is plain. -/
theorem isPlain_copyUnder (h : n.IsPlain) : ∀ m ∈ copyUnder around n, m.IsPlain := by
  intro m hm
  have hm := subset_appendContent_nil _ hm
  rw [copiedContent_eq (isPlain_copySource h)] at hm
  exact isPlain_copySource h m hm

/-! ### What has been checked is legal -/

theorem isLegalText_of_legal (h : legal s = .ok ()) : isLegalText s := by
  unfold legal at h
  split at h
  · assumption
  · cases h

theorem onPage_eq_ok {check : Except EditFault Unit} (h : onPage check = .ok ()) : check = .ok () := by
  cases check with
  | error fault => cases h
  | ok u => rfl

theorem isLegal_of_isDigit {c : Char} (h : c.isDigit) : isLegal c := by
  rw [Char.isDigit, Bool.and_eq_true, decide_eq_true_eq, decide_eq_true_eq] at h
  have h1 : 48 ≤ c.toNat := h.1
  have h2 : c.toNat ≤ 57 := h.2
  simp only [isLegal, Bool.or_eq_true, Bool.and_eq_true, decide_eq_true_eq]
  exact .inr ⟨⟨by omega, by omega⟩, by omega⟩

theorem isLegalText_toString (k : Int) : isLegalText (toString k) := by
  have hnat (m : Nat) : isLegalText m.repr := by
    rw [isLegalText, Nat.toList_repr, List.all_eq_true]
    exact fun c hc => isLegal_of_isDigit (Nat.isDigit_of_mem_toDigits (by decide) (by decide) hc)
  show isLegalText (Int.repr k)
  rw [Int.repr_eq_if]
  split
  · exact hnat _
  · rw [isLegalText_append, hnat]
    rfl

theorem isLegalText_decimal {k : Int} (h : Text.decimal? k = some s) : isLegalText s := by
  unfold Text.decimal? at h
  split at h
  · cases h
    exact isLegalText_toString k
  · cases h

variable {plan : Plan} {sources : Sources} {template : String}

theorem isLegalText_of_utters (h : plan.utters sources template = .ok ())
    (hs : plan.phrase sources template [] = .ok s) : isLegalText s := by
  rw [Plan.utters, hs, ok_bind] at h
  exact isLegalText_of_legal (onPage_eq_ok h)

theorem utters_of_introduces {found : Option Node} (h : plan.introduces sources template found = .ok ()) :
    plan.utters sources template = .ok () := by
  obtain ⟨_, hu, -⟩ := bind_eq_ok.mp h
  exact hu

/-! ### What the sections hold is plain -/

/-- All that is copied is plain, and no copy holds a heading over one of the sections. -/
structure Plan.CopiesPlainly (plan : Plan) (sources : Sources) : Prop where
  /-- The fields of the summary that are copied are plain. -/
  fields (field : SummaryField) (hf : field = .overview ∨ field = .newFeatures) (fragment : Node)
    (h : sources.summary.fragment field = .ok fragment) : fragment.IsPlain
  /-- The bodies of the notes are plain. -/
  notes (issue : Tracker.Issue) (hi : issue ∈ plan.issuesOf sources.notes) (note : Document)
    (hn : plan.noteFor issue = .ok (some note)) (body : Node)
    (hb : Tracker.noteBody issue.key note.root = .ok body) : body.IsPlain
  /-- No copy misleads the search for a section. -/
  apart (t : Section) (copied : List Node) (hc : copied ∈ plan.copies sources t) (s : Section) :
    anywhere (isHeader .mainSection s.title) copied = false

variable {copied : List Node} {issue : Tracker.Issue} {told : Told} {found : Option Node}

theorem isPlain_fieldCopy (h : plan.CopiesPlainly sources) {field : SummaryField}
    (hf : field = .overview ∨ field = .newFeatures) (hc : sources.fieldCopy field = .ok copied) :
    ∀ n ∈ copied, n.IsPlain := by
  obtain ⟨fragment, hfragment, hc⟩ := bind_eq_ok.mp hc
  cases hc
  exact isPlain_copyUnder (h.fields field hf fragment (mapError_eq_ok_iff.mp hfragment))

theorem isPlain_paragraph (hi : plan.introduces sources template found = .ok ())
    (hs : plan.phrase sources template [] = .ok s) : (Layout.paragraph s).IsPlain :=
  Layout.isPlain_said .paragraph (isLegalText_of_utters (utters_of_introduces hi) hs)

theorem isPlain_bugContent {ground : Section → Option Node}
    (hchecks : ∀ check ∈ plan.stepChecks sources ground .bugList, check = .ok ())
    (hc : plan.bugContent sources = .ok content) : ∀ n ∈ content, n.IsPlain := by
  rw [Plan.stepChecks, List.forall_mem_append, List.forall_mem_append, List.forall_mem_cons] at hchecks
  obtain ⟨⟨-, hintro, -⟩, hlists⟩ := hchecks
  obtain ⟨bugs, hbugs, hc⟩ := bind_eq_ok.mp hc
  obtain ⟨intro, hsaid, hc⟩ := bind_eq_ok.mp hc
  obtain ⟨width, hwidth, hc⟩ := bind_eq_ok.mp hc
  cases hc
  have hw : Text.decimal? plan.settings.wording.borderWidth = some width := by
    cases hd : Text.decimal? plan.settings.wording.borderWidth with
    | none =>
      rw [hd] at hwidth
      cases hwidth
    | some text =>
      rw [hd] at hwidth
      cases hwidth
      rfl
  rw [Plan.issuesOf_of_ok (mapError_eq_ok_iff.mp hbugs)] at hlists
  refine List.forall_mem_cons.mpr ⟨isPlain_paragraph hintro hsaid, List.forall_mem_singleton.mpr ?_⟩
  refine Layout.isPlain_table (isLegalText_decimal hw) (by decide) (List.forall_mem_map.mpr fun bug hb => ?_)
  have hlist := onPage_eq_ok (hlists _ (List.mem_map_of_mem hb))
  rw [inTurn_eq_ok_iff, List.forall_mem_cons, List.forall_mem_cons, List.forall_mem_singleton] at hlist
  obtain ⟨hkey, hurl, htitle⟩ := hlist
  exact Layout.isPlain_bugRow (isLegalText_of_legal hurl) (isLegalText_of_legal hkey) (isLegalText_of_legal htitle)

/-- What is told of an issue is plain: the names in its entry, and its details. -/
theorem isPlain_of_tell (h : plan.CopiesPlainly sources) (hi : issue ∈ plan.issuesOf sources.notes)
    (hchecks : plan.tells issue = .ok ()) (ht : plan.tell issue = .ok told) :
    isLegalText told.name ∧ isLegalText told.caption ∧ ∀ n ∈ told.details, n.IsPlain := by
  obtain ⟨note?, hnote, ht⟩ := bind_eq_ok.mp ht
  obtain ⟨summary, hsummary, ht⟩ := bind_eq_ok.mp ht
  obtain ⟨details, hdetails, ht⟩ := bind_eq_ok.mp ht
  cases ht
  rw [Plan.tells, hnote, ok_bind, hsummary, ok_bind] at hchecks
  obtain ⟨_, hlegal, -⟩ := bind_eq_ok.mp hchecks
  have hlegal := onPage_eq_ok hlegal
  rw [inTurn_eq_ok_iff, List.forall_mem_cons, List.forall_mem_singleton] at hlegal
  refine ⟨isLegalText_of_legal hlegal.2, isLegalText_of_legal hlegal.1, ?_⟩
  cases note? with
  | none =>
    cases hdetails
    exact List.forall_mem_nil _
  | some note =>
    obtain ⟨body, hbody, hdetails⟩ := bind_eq_ok.mp hdetails
    cases hdetails
    exact isPlain_copyUnder (h.notes issue hi note hnote body (mapError_eq_ok_iff.mp hbody))

theorem isPlain_of_tellAll {ground : Section → Option Node} {all : List Told} (h : plan.CopiesPlainly sources)
    (hchecks : ∀ check ∈ plan.stepChecks sources ground .issuesList, check = .ok ())
    (ha : plan.tellAll sources = .ok all) : ∀ told ∈ all,
      isLegalText told.name ∧ isLegalText told.caption ∧ ∀ n ∈ told.details, n.IsPlain := by
  rw [Plan.stepChecks, List.forall_mem_append] at hchecks
  obtain ⟨issues, hissues, ha⟩ := bind_eq_ok.mp ha
  have hall : plan.issuesOf sources.notes = issues := Plan.issuesOf_of_ok (mapError_eq_ok_iff.mp hissues)
  intro told ht
  obtain ⟨issue, hi, htell⟩ := exists_of_mem_mapM ha ht
  rw [← hall] at hi
  exact isPlain_of_tell h hi (hchecks.2 _ (List.mem_map_of_mem hi)) htell

theorem isPlain_issuesContent {all : List Told} (hs : (Layout.paragraph s).IsPlain)
    (h : ∀ told ∈ all, isLegalText told.name ∧ isLegalText told.caption ∧ ∀ n ∈ told.details, n.IsPlain) :
    ∀ n ∈ issuesContent s all, n.IsPlain := by
  have hentries : ∀ e ∈ all.map Told.entry, isLegalText e.1 ∧ isLegalText e.2 :=
    List.forall_mem_map.mpr fun told ht => ⟨(h told ht).1, (h told ht).2.1⟩
  refine List.forall_mem_append.mpr ⟨List.forall_mem_cons.mpr ⟨hs, List.forall_mem_singleton.mpr
    (Layout.isPlain_holder .list (Layout.isPlain_entries hentries))⟩, ?_⟩
  intro n hn
  obtain ⟨told, ht, hn⟩ := List.mem_flatMap.mp hn
  obtain ⟨hname, -, hdetails⟩ := h told ht
  have hline : (Layout.holder .line []).IsPlain := Layout.isPlain_holder .line (List.forall_mem_nil _)
  exact List.forall_mem_cons.mpr ⟨hline, Layout.isPlain_headed .issueDetail hname hdetails⟩ n hn

theorem isPlain_environmentContent {ground : Section → Option Node}
    (hchecks : ∀ check ∈ plan.stepChecks sources ground .environment, check = .ok ())
    (hc : plan.environmentContent sources = .ok content) : ∀ n ∈ content, n.IsPlain := by
  rw [Plan.stepChecks, List.forall_mem_cons] at hchecks
  obtain ⟨hintro, hstates⟩ := hchecks
  obtain ⟨intro, hsaid, hc⟩ := bind_eq_ok.mp hc
  obtain ⟨items, hitems, hc⟩ := bind_eq_ok.mp hc
  cases hc
  refine List.forall_mem_cons.mpr ⟨isPlain_paragraph hintro hsaid, List.forall_mem_singleton.mpr
    (Layout.isPlain_holder .list fun item hi => ?_)⟩
  obtain ⟨entry, he, hitem⟩ := exists_of_mem_mapM hitems hi
  obtain ⟨text, htext, hitem⟩ := bind_eq_ok.mp hitem
  cases hitem
  have hstate := hstates _ (List.mem_map_of_mem he)
  rw [Plan.states, htext, ok_bind] at hstate
  refine Layout.isPlain_labelled ?_ (isLegalText_of_legal (onPage_eq_ok hstate))
  cases entry.1 <;> decide

/-! ### The page is plain -/

theorem isPlain_page {d : Draft} (ht : isLegalText d.title) (hd : isLegalText d.delta)
    (he : ∀ e ∈ d.entries, isLegalText e.1 ∧ isLegalText e.2) (hb : ∀ s, ∀ n ∈ d.blocks s, n.IsPlain) :
    d.page.IsPlain := by
  have hfront : ∀ n ∈ d.front, n.IsPlain :=
    List.forall_mem_append.mpr ⟨Layout.isPlain_headed .banner ht
      (List.forall_mem_singleton.mpr (Layout.isPlain_said .paragraph hd)),
      List.forall_mem_singleton.mpr (Layout.isPlain_holder .list (Layout.isPlain_entries he))⟩
  have hsections : ∀ n ∈ d.sections Section.all, n.IsPlain := by
    intro n hn
    obtain ⟨s, -, hn⟩ := List.mem_flatMap.mp hn
    exact Layout.isPlain_headed .mainSection (isLegalText_title s) (hb s) n hn
  exact Layout.isPlain_holder .page (List.forall_mem_cons.mpr ⟨Layout.isPlain_said .title ht,
    List.forall_mem_singleton.mpr (Layout.isPlain_holder .body (List.forall_mem_append.mpr ⟨hfront, hsections⟩))⟩)

/-- **The page of plain documents is plain.** -/
theorem isPlain_page_of_assemble {start p : Progress} (hc : plan.CopiesPlainly sources)
    (h : outcome (plan.assemble sources) start.anew = (.ok (), p)) :
    ∃ page, p.pamphlet.page? = some page ∧ page.IsPlain := by
  obtain ⟨d, hd, hp⟩ := page_eq_of_assemble hc.apart h
  refine ⟨d.page, hp, ?_⟩
  have hchecks := assemble_eq_inTurn plan sources start
  rw [h] at hchecks
  have hchecks := inTurn_eq_ok_iff.mp hchecks.symm
  have hstep (step : Step) (hs : step ∈ Step.all) :
      ∀ check ∈ plan.stepChecks sources (plan.ground sources start) step, check = .ok () :=
    fun check hm => hchecks check (List.mem_flatMap.mpr ⟨step, hs, hm⟩)
  obtain ⟨title, htitle, hd⟩ := bind_eq_ok.mp hd
  obtain ⟨delta, hdelta, hd⟩ := bind_eq_ok.mp hd
  obtain ⟨overview, hoverview, hd⟩ := bind_eq_ok.mp hd
  obtain ⟨newFeatures, hnewFeatures, hd⟩ := bind_eq_ok.mp hd
  obtain ⟨bugs, hbugs, hd⟩ := bind_eq_ok.mp hd
  obtain ⟨intro, hintro, hd⟩ := bind_eq_ok.mp hd
  obtain ⟨told, htold, hd⟩ := bind_eq_ok.mp hd
  obtain ⟨environment, henvironment, hd⟩ := bind_eq_ok.mp hd
  cases hd
  have hopening := hstep .opening (by decide)
  have hissues := hstep .issuesList (by decide)
  rw [Plan.stepChecks, List.forall_mem_cons, List.forall_mem_singleton] at hopening
  have hall := isPlain_of_tellAll hc hissues htold
  rw [Plan.stepChecks, List.forall_mem_append, List.forall_mem_append, List.forall_mem_singleton] at hissues
  refine isPlain_page (isLegalText_of_utters hopening.1 htitle) (isLegalText_of_utters hopening.2 hdelta) ?_ ?_
  · refine List.forall_mem_append.mpr
      ⟨List.forall_mem_map.mpr fun s _ => ⟨isLegalText_title s, isLegalText_title s⟩,
        List.forall_mem_map.mpr fun t ht => ⟨(hall t ht).1, (hall t ht).2.1⟩⟩
  · intro s
    cases s with
    | overview => exact isPlain_fieldCopy hc (.inl rfl) hoverview
    | newFeatures => exact isPlain_fieldCopy hc (.inr rfl) hnewFeatures
    | bugFixes => exact isPlain_bugContent (hstep .bugList (by decide)) hbugs
    | issues => exact isPlain_issuesContent (isPlain_paragraph hissues.1.2 hintro) hall
    | buildEnvironment => exact isPlain_environmentContent (hstep .environment (by decide)) henvironment

end ReleaseNotes
