import Mathlib.Data.List.Forall2
import ReleaseNotes.Proofs.Contents

/-!
# The sections of the issues

The section of an issue is a heading with a block of its own. The block of an issue with a note holds a copy of
the body of that note, to which more may come if some copy misleads the steps that follow. The block of an issue
without a note stays empty: no search for a section ends at it, and nothing else is added to it
(`HoldsNote`, `exists_blocks_of_assemble`).
-/

namespace ReleaseNotes

open Markup

variable {α : Type} {plan : Plan} {sources : Sources} {start p p' : Progress} {issue : Tracker.Issue}
  {note? : Option Document} {content content' : List Node} {here block list q : Place}
  {calls calls' : List SectionCall} {n : Nat}

/-! ### What a block holds -/

/-- A node is a block with a copy of a note and perhaps more after that; or one that is empty, if there is no
note. -/
def IsFilled (issue : Tracker.Issue) : Option Document → Node → Prop
  | none, filled => filled = Layout.holder .block []
  | some note, filled => ∃ body around, Tracker.noteBody issue.key note.root = .ok body ∧
      (Layout.holder .block (copyUnder around body)).GrowsTo filled

/-- At a place stands the block of an issue, after the heading of its section. -/
structure HoldsNote (issue : Tracker.Issue) (note? : Option Document) (q : Place) (content : List Node) :
    Prop where
  /-- The heading. -/
  headed : ∃ r i heading, q = r ++ [i + 1] ∧ nodeAt? content (r ++ [i]) = some heading ∧
    (Layout.heading .issueDetail issue.sectionName).GrowsTo heading
  /-- The block. -/
  filled : ∃ filled, nodeAt? content q = some filled ∧ IsFilled issue note? filled

/-- An empty block stands only where nothing stands in it. -/
theorem not_prefix_of_empty {m : Node} (hq : nodeAt? content q = some (Layout.holder .block []))
    (hm : nodeAt? content here = some m) (hne : m ≠ Layout.holder .block []) : ¬ q <+: here := by
  rintro ⟨r, rfl⟩
  cases r with
  | nil =>
    rw [List.append_nil, hq, Option.some.injEq] at hm
    exact hne hm.symm
  | cons i r =>
    rw [nodeAt?_append (ne_nil_of_nodeAt? hq) (List.cons_ne_nil i r), hq, Option.bind_some] at hm
    rw [Layout.holder, Node.content, nodeAt?_of_nil] at hm
    cases hm

/-- What is added anywhere but in an empty block leaves the section of an issue as it is, as far as it goes. -/
theorem HoldsNote.addedAt (h : HoldsNote issue note? q content) (ha : AddedAt here content content')
    (hq : note? = none → ¬ q <+: here) : HoldsNote issue note? q content' := by
  obtain ⟨r, i, heading, hqr, hn, hg⟩ := h.headed
  obtain ⟨filled, hf, hfilled⟩ := h.filled
  obtain ⟨heading', hn', hg'⟩ := ha.grows.nodeAt? hn
  refine ⟨⟨r, i, heading', hqr, hn', hg.trans hg'⟩, ?_⟩
  cases note? with
  | none => exact ⟨filled, ha.nodeAt?_of_not_prefix hf (hq rfl), hfilled⟩
  | some note =>
    obtain ⟨filled', hf', hgf⟩ := ha.grows.nodeAt? hf
    obtain ⟨body, around, hb, hc⟩ := hfilled
    exact ⟨filled', hf', body, around, hb, hc.trans hgf⟩

/-- No search for a section ends at an empty block or in it. -/
theorem HoldsNote.not_prefix_next (h : HoldsNote issue none q content) {root heading : Place} {name : String}
    (hh : headingPlace? content root .mainSection name = some heading) : ¬ q <+: heading.next := by
  obtain ⟨r, i, before, rfl, hn, hg⟩ := h.headed
  obtain ⟨filled, hf, rfl⟩ := h.filled
  refine not_prefix_next_of_headingPlace? hf ?_ hn ?_ hh
  · rw [Layout.holder, anywhere_element, isNamed_element]
    rfl
  · rw [hg.isNamed_eq]
    exact isNamed_heading (by decide)

/-- What is added next under an element does not come to stand in a block that is there. -/
theorem HoldsNote.not_prefix_new (h : HoldsNote issue note? q content) (hq : ¬ q <+: here) {tag : Tag}
    {inner : List Node} (he : nodeAt? content here = some (.element tag inner)) {k : Nat}
    (hk : childCount inner ≤ k) : ¬ q <+: here ++ [k] := by
  obtain ⟨filled, hf, -⟩ := h.filled
  exact not_prefix_snoc_of_nodeAt? hf hq he hk

/-! ### The build environment -/

theorem Reads.ensures_holdsNote {work : Assembling α} (h : Reads work) :
    Ensures (fun p => HoldsNote issue note? q p.pamphlet.trees) work
      (fun _ p => HoldsNote issue note? q p.pamphlet.trees) (fun p => HoldsNote issue note? q p.pamphlet.trees) := by
  refine .of_after fun p hp => ?_
  rw [h p]
  exact hp

/-- Work that adds at a place that is not in an empty block. -/
theorem HoldsNote.ensures_onTrees {work : Editing α} (hq : note? = none → ¬ q <+: here)
    (h : ∀ content, AddedAt here content (outcome work content).2) :
    Ensures (fun p => HoldsNote issue note? q p.pamphlet.trees) (onTrees work)
      (fun _ p => HoldsNote issue note? q p.pamphlet.trees) (fun p => HoldsNote issue note? q p.pamphlet.trees) := by
  refine .of_after fun p hp => ?_
  rw [outcome_onTrees]
  exact hp.addedAt (h p.pamphlet.trees) hq

/-- A search for a section does not end in an empty block. -/
theorem ensures_holdsNote_blockOf (s : Section) :
    Ensures (fun p => HoldsNote issue note? q p.pamphlet.trees) (blockOf s)
      (fun block p => HoldsNote issue note? q p.pamphlet.trees ∧ (note? = none → ¬ q <+: block))
      (fun p => HoldsNote issue note? q p.pamphlet.trees) := by
  intro p hp
  rw [blockOf, outcome_onPamphlet, outcome_sectionPlace]
  cases p.pamphlet.root? with
  | none => exact hp
  | some root =>
    dsimp only
    cases hh : headingPlace? p.pamphlet.trees root .mainSection s.title with
    | none => exact hp
    | some heading =>
      refine ⟨hp, ?_⟩
      rintro rfl
      exact hp.not_prefix_next hh

/-- A list is added apart from every block that is there. -/
theorem HoldsNote.ensures_addList (hq : note? = none → ¬ q <+: here) :
    Ensures (fun p => HoldsNote issue note? q p.pamphlet.trees) (onTrees (addList here))
      (fun list p => HoldsNote issue note? q p.pamphlet.trees ∧ (note? = none → ¬ q <+: list))
      (fun p => HoldsNote issue note? q p.pamphlet.trees) := by
  intro p hp
  have hadded := hp.addedAt ((adds_addNode here (emptyElement PageElement.list.label)).addedAt p.pamphlet.trees) hq
  rcases adds_addNode here (emptyElement PageElement.list.label) p.pamphlet.trees with
    ⟨tag, inner, he, ho⟩ | ⟨fault, content, ho, -⟩
  · rw [ho] at hadded
    have ho' : outcome (onTrees (addList here)) p = _ := outcome_onTrees_of_ok ho
    rw [ho']
    exact ⟨hadded, fun hn => hp.not_prefix_new (hq hn) he (Nat.le_refl _)⟩
  · rw [ho] at hadded
    have ho' : outcome (onTrees (addList here)) p = _ := outcome_onTrees_of_error ho
    rw [ho']
    exact hadded

/-- The step after the issues keeps their sections. -/
theorem ensures_holdsNote_environment (plan : Plan) (sources : Sources) :
    Ensures (fun p => HoldsNote issue note? q p.pamphlet.trees) (plan.takeShownStep sources .environment)
      (fun _ p => HoldsNote issue note? q p.pamphlet.trees) (fun p => HoldsNote issue note? q p.pamphlet.trees) := by
  rw [takeShownStep_eq]
  refine (Reads.announce plan _).ensures_holdsNote.bind fun _ => (ensures_holdsNote_blockOf _).bind fun block =>
    .of_and fun hb => (Reads.sentence _ _ _ _).ensures_holdsNote.bind fun intro =>
      (HoldsNote.ensures_onTrees hb (adds_addParagraph block intro).addedAt).bind fun _ =>
        (HoldsNote.ensures_addList hb).bind fun list => .of_and fun hl => .forM fun entry _ => ?_
  exact (Reads.environmentText plan sources entry.2).ensures_holdsNote.bind fun text =>
    (HoldsNote.ensures_onTrees hl (adds_addLabelled list entry.1.text text).addedAt).bind fun _ => .pure fun _ => id

/-! ### The turn of an issue -/

/-- Entries keep what is kept by additions to their lists. -/
theorem ensures_addEntries {P : List Node → Prop} {tocs : List Place}
    (h : ∀ toc ∈ tocs, ∀ c c', P c → AddedAt toc c c' → P c') (name : String) (caption? : Option String) :
    Ensures P (addEntries name caption? tocs) (fun _ => P) P := by
  induction tocs with
  | nil => exact .pure fun _ => id
  | cons toc tocs ih =>
    obtain ⟨htoc, htocs⟩ := List.forall_mem_cons.mp h
    have hlink : Ensures P (liftM (localLink name caption?) : Editing Node) (fun _ => P) P := by
      cases localLink name caption? with
      | error fault => exact fun _ => id
      | ok entry => exact fun _ => id
    exact hlink.bind fun entry => .bind
      (.of_after fun c hc => htoc c _ hc ((adds_addItem toc entry).addedAt c)) fun _ => ih htocs

/-- A section that is added stands last where it was to be added, after additions to some lists. -/
theorem addSection_eq_ok {level : HeaderLevel} {name : String} {tocs : List Place} {caption? : Option String}
    {made : Place}
    (h : outcome (addSection here level name tocs caption?) content = (.ok made, content')) :
    ∃ mid tag inner, outcome (addEntries name caption? tocs) content = (.ok (), mid) ∧
      nodeAt? mid here = some (.element tag inner) ∧ made = here ++ [childCount inner + 1] ∧
      content' = appendAt here (Layout.headed level name []) mid := by
  obtain ⟨_, mid, hentries, h⟩ := outcome_bind_eq_ok.mp h
  rcases adds_addHeader here level name mid with ⟨tag, inner, he, ho⟩ | ⟨fault, c, ho, -⟩
  · rw [ho] at h
    cases h
    exact ⟨mid, tag, inner, hentries, he, rfl, rfl⟩
  · rw [ho] at h
    cases h

theorem announceIssue_addedAt {told : Option Document × String}
    (h : outcome (plan.announceIssue block issue) p = (.ok told, p')) :
    AddedAt block p.pamphlet.trees p'.pamphlet.trees := by
  obtain ⟨note?, q, hnote, h⟩ := outcome_bind_eq_ok.mp h
  obtain ⟨summary, q', hsummary, h⟩ := outcome_bind_eq_ok.mp h
  obtain ⟨_, q'', hline, h⟩ := outcome_bind_eq_ok.mp h
  cases h
  obtain ⟨-, rfl⟩ := orFail_eq_ok hsummary
  have hreads : q.pamphlet = p.pamphlet := by
    have hr := Reads.noteOf plan issue p
    rw [hnote] at hr
    exact hr
  have hadded := (adds_addNode block (emptyElement PageElement.line.label)).addedAt q.pamphlet.trees
  have ho : outcome (onTrees (addLine block)) q = _ := outcome_onTrees _ q
  rw [ho, Prod.mk.injEq] at hline
  rw [← hline.2, ← hreads]
  exact hadded

/-- The block of a section that has just been added is filled with a copy of the note, and nothing else is
touched. -/
theorem fillIssue_eq_ok {details : Place} {u : Unit}
    (he : nodeAt? p.pamphlet.trees details = some (Layout.holder .block []))
    (h : outcome (fillIssue issue details note?) p = (.ok u, p')) :
    AddedAt details p.pamphlet.trees p'.pamphlet.trees ∧
      ∃ filled, nodeAt? p'.pamphlet.trees details = some filled ∧ IsFilled issue note? filled := by
  cases note? with
  | none =>
    cases h
    exact ⟨.refl _ _, _, he, rfl⟩
  | some note =>
    obtain ⟨body, q, hread, h⟩ := outcome_bind_eq_ok.mp h
    obtain ⟨hbody, rfl⟩ := orFail_eq_ok hread
    have hadded := addedAt_addCopy details body p.pamphlet.trees
    rw [outcome_onTrees, outcome_addCopy he] at h
    rw [outcome_addCopy he] at hadded
    cases h
    refine ⟨hadded, _, nodeAt?_changeAt_self he rfl, body, _, hbody, Node.GrowsTo.refl _⟩

theorem onTrees_eq_ok {work : Editing α} {a : α} (h : outcome (onTrees work) p = (.ok a, p')) :
    ∃ content, outcome work p.pamphlet.trees = (.ok a, content) ∧ p' = p.withTrees content := by
  rcases ho : outcome work p.pamphlet.trees with ⟨fault | b, content⟩
  · rw [outcome_onTrees_of_error ho] at h
    cases h
  · rw [outcome_onTrees_of_ok ho] at h
    cases h
    exact ⟨content, rfl, rfl⟩

/-- A new section stands as a heading with an empty block, where nothing stood before. -/
theorem holdsNote_of_appendAt {tag : Tag} {inner : List Node}
    (he : nodeAt? content here = some (.element tag inner)) :
    HoldsNote issue none (here ++ [childCount inner + 1])
      (appendAt here (Layout.headed .issueDetail issue.sectionName []) content) := by
  have hheading := nodeAt?_appendAt_child (n := Layout.heading .issueDetail issue.sectionName) he rfl
    [Layout.holder .block []]
  have hblock := nodeAt?_appendAt_child (n := Layout.holder .block [])
    (nodeAt?_appendAt he [Layout.heading .issueDetail issue.sectionName]) rfl []
  rw [childCount_append, appendAt_appendAt] at hblock
  exact ⟨⟨here, _, _, rfl, hheading, Node.GrowsTo.refl _⟩, _, hblock, rfl⟩

/-- What a turn that comes to its end does to the sections of issues: it adds one, with a block that has not been
there before and is filled from the note, and keeps those that are there. -/
structure Turned (issue : Tracker.Issue) (note? : Option Document) (block details : Place)
    (content content' : List Node) : Prop where
  /-- The section is added. -/
  added : HoldsNote issue note? details content'
  /-- It stands in the block of all issues. -/
  inBlock : ∃ k, details = block ++ [k]
  /-- It has not been there before. -/
  fresh : nodeAt? content details = none
  /-- Nothing is taken away. -/
  grows : Grows content content'
  /-- The others are kept. -/
  kept {issue' : Tracker.Issue} {note' : Option Document} {q : Place} :
    (∃ k, q = block ++ [k]) → HoldsNote issue' note' q content → HoldsNote issue' note' q content'

theorem Entered.shows_of_announceIssue {told : Option Document × String} (hs : Entered list n (p, calls))
    (hc : Clear [list, tocPlace] block) (h : outcome (plan.announceIssue block issue) p = (.ok told, p')) :
    Shows [(list, (calls.drop n).map SectionCall.entry), (tocPlace, calls.map SectionCall.entry)]
      (calls.map SectionCall.heading) p' :=
  ((ensures_announceIssue plan issue (by exact hc)).of_ok hs.shows h).1

/-- What has been done by the end of a turn, part by part. -/
theorem recordIssue_parts {u : Unit} (hs : Entered list n (p, calls)) (hc : Clear [list, tocPlace] block)
    (h : outcome (plan.recordIssue block list issue) (p, calls) = (.ok u, (p', calls'))) :
    ∃ call told mid content, calls' = calls ++ [call] ∧
      outcome (plan.announceIssue block issue) p = (.ok told, mid) ∧
      outcome (addSection block .issueDetail issue.sectionName [tocPlace, list] (some (issue.caption told.2)))
        mid.pamphlet.trees = (.ok call.block, content) ∧
      outcome (fillIssue issue call.block told.1) (mid.withTrees content) = (.ok u, p') := by
  obtain ⟨told, ⟨q, calls1⟩, h1, h⟩ := outcome_bind_eq_ok.mp h
  obtain ⟨r, ⟨q', calls2⟩, h2, h⟩ := outcome_bind_eq_ok.mp h
  obtain ⟨details, ⟨q'', calls3⟩, h3, h4⟩ := outcome_bind_eq_ok.mp h
  obtain ⟨rfl, hannounce⟩ := unrecorded_eq_ok h1
  obtain ⟨rfl, hget⟩ := unrecorded_eq_ok h2
  obtain ⟨rfl, hfill⟩ := unrecorded_eq_ok h4
  cases hget
  have hshows := hs.shows_of_announceIssue hc hannounce
  have htoc : q.pamphlet.toc = tocPlace := by
    rw [Pamphlet.toc, show q.pamphlet.toc? = _ from hshows.toc?_eq]
    rfl
  have hadded := erases_recordSection block .issueDetail issue.sectionName [q.pamphlet.toc, list]
    (some (issue.caption told.2)) q calls2
  rw [h3] at hadded
  rw [htoc] at h3 hadded
  obtain ⟨content, hsection, rfl⟩ := onTrees_eq_ok (Prod.ext hadded.1.symm hadded.2.symm)
  exact ⟨_, told, q, content, recordSection_eq_ok h3, hannounce, hsection, hfill⟩

/-- What stands under an element after those that it holds has not stood there before it came to hold them. -/
theorem nodeAt?_eq_none_of_grows {tag : Tag} {inner : List Node} (hg : Grows content content')
    (he : nodeAt? content' here = some (.element tag inner)) {k : Nat} (hk : childCount inner ≤ k) :
    nodeAt? content (here ++ [k]) = none := by
  cases hn : nodeAt? content (here ++ [k]) with
  | none => rfl
  | some m =>
    obtain ⟨m', hm', -⟩ := hg.nodeAt? hn
    rw [nodeAt?_snoc_eq_none he hk] at hm'
    cases hm'

/-- The section of another issue is kept by the entries for one. -/
theorem HoldsNote.enter {es es' : List (String × String)} {headings : List (HeaderLevel × String)}
    (h : HoldsNote issue note? q p.pamphlet.trees) (hs : Shows [(list, es), (tocPlace, es')] headings p)
    {name : String} {caption? : Option String}
    (ho : outcome (addEntries name caption? [tocPlace, list]) p.pamphlet.trees = (.ok (), content)) :
    HoldsNote issue note? q content := by
  have hlists : ∀ toc ∈ [tocPlace, list], note? = none → ¬ q <+: toc := by
    rintro toc ht rfl
    obtain ⟨filled, hf, rfl⟩ := h.filled
    obtain ⟨es, hl⟩ : ∃ es, nodeAt? p.pamphlet.trees toc = some (Layout.holder .list es) := by
      rcases List.mem_cons.mp ht with rfl | ht
      · exact ⟨_, (hs.sheltered _ (.tail _ (.head _))).nodeAt?_eq⟩
      · rw [List.mem_singleton.mp ht]
        exact ⟨_, (hs.sheltered _ (.head _)).nodeAt?_eq⟩
    have htags : some (Tag.plain PageElement.list.label []) ≠ some (.plain PageElement.block.label []) := by decide
    exact not_prefix_of_empty hf hl fun h => htags (congrArg Node.tag? h)
  exact (ensures_addEntries (P := HoldsNote issue note? q)
    (fun toc ht c c' hc ha => hc.addedAt ha (hlists toc ht)) _ _).of_ok h ho

theorem recordIssue_turned {u : Unit} (hs : Entered list n (p, calls)) (hc : Clear [list, tocPlace] block)
    (h : outcome (plan.recordIssue block list issue) (p, calls) = (.ok u, (p', calls'))) :
    ∃ call note?, calls' = calls ++ [call] ∧ plan.noteFor issue = .ok note? ∧
      Turned issue note? block call.block p.pamphlet.trees p'.pamphlet.trees := by
  obtain ⟨call, told, mid, content, hcalls, hannounce, hsection, hfill⟩ := recordIssue_parts hs hc h
  refine ⟨call, told.1, hcalls, (announceIssue_eq_ok hannounce).1, ?_⟩
  have hline := announceIssue_addedAt hannounce
  have hshows := hs.shows_of_announceIssue hc hannounce
  obtain ⟨entered, tag, inner, hentries, he, hblock, rfl⟩ := addSection_eq_ok hsection
  rw [hblock] at hfill ⊢
  have hnew : HoldsNote issue none (block ++ [childCount inner + 1])
      (appendAt block (Layout.headed .issueDetail issue.sectionName []) entered) := holdsNote_of_appendAt he
  obtain ⟨empty, hempty, rfl⟩ := hnew.filled
  obtain ⟨hadded, filled, hf, hfilled⟩ := fillIssue_eq_ok hempty hfill
  have hgrows : Grows mid.pamphlet.trees entered := by
    have := grows_addEntries issue.sectionName (some (issue.caption told.2)) [tocPlace, list] mid.pamphlet.trees
    rwa [hentries] at this
  have hfresh := nodeAt?_eq_none_of_grows (hline.grows.trans hgrows) he (Nat.le_succ _)
  refine ⟨⟨?_, filled, hf, hfilled⟩, ⟨_, rfl⟩, hfresh,
    (hline.grows.trans hgrows).trans ((Grows.appendAt _ _ _).trans hadded.grows), ?_⟩
  · obtain ⟨r, i, heading, hr, hn, hg⟩ := hnew.headed
    obtain ⟨heading', hn', hg'⟩ := hadded.grows.nodeAt? hn
    exact ⟨r, i, heading', hr, hn', hg.trans hg'⟩
  · rintro issue' note' _ ⟨k, rfl⟩ hold
    have hin : ¬ block ++ [k] <+: block := by
      intro hp
      have := hp.length_le
      rw [List.length_append, List.length_singleton] at this
      omega
    have hdetails : ¬ block ++ [k] <+: block ++ [childCount inner + 1] := by
      intro hp
      obtain ⟨filled, hf, -⟩ := hold.filled
      rw [hp.eq_of_length (by simp), hfresh] at hf
      cases hf
    have hentered := (hold.addedAt hline fun _ => hin).enter hshows hentries
    exact (hentered.addedAt (.appendAt _ _ _) fun _ => hin).addedAt hadded fun _ => hdetails

/-! ### All issues -/

/-- Every issue has a section of its own, filled from its note. -/
theorem forM_recordIssue_turned {issues : List Tracker.Issue} {u : Unit} (hs : Entered list n (p, calls))
    (hc : Clear [list, tocPlace] block) (h1 : ¬ tocPlace <+: list) (h2 : ¬ list <+: tocPlace)
    (h : outcome (issues.forM (plan.recordIssue block list)) (p, calls) = (.ok u, (p', calls'))) :
    ∃ blocks, List.Forall₂ (fun issue q => ∃ note?, plan.noteFor issue = .ok note? ∧
        HoldsNote issue note? q p'.pamphlet.trees) issues blocks ∧ blocks.Nodup ∧
      (∀ q ∈ blocks, nodeAt? p.pamphlet.trees q = none) ∧
      ∀ issue note? q, (∃ k, q = block ++ [k]) → HoldsNote issue note? q p.pamphlet.trees →
        HoldsNote issue note? q p'.pamphlet.trees := by
  induction issues generalizing p calls with
  | nil =>
    cases h
    exact ⟨[], .nil, List.nodup_nil, nofun, fun _ _ _ _ => id⟩
  | cons issue issues ih =>
    rw [outcome_forM_cons] at h
    obtain ⟨_, ⟨q, calls1⟩, hturn, h⟩ := outcome_bind_eq_ok.mp h
    obtain ⟨call, note?, -, hnote, hturned⟩ := recordIssue_turned hs hc hturn
    obtain ⟨blocks, hblocks, hnodup, hfresh, hkept⟩ :=
      ih ((ensures_recordIssue plan issue hc h1 h2).of_ok hs hturn) h
    refine ⟨call.block :: blocks, .cons ⟨note?, hnote, hkept _ _ _ hturned.inBlock hturned.added⟩ hblocks,
      List.nodup_cons.mpr ⟨fun hb => ?_, hnodup⟩, List.forall_mem_cons.mpr ⟨hturned.fresh, fun b hb => ?_⟩,
      fun issue' note' b hb hold => hkept _ _ _ hb (hturned.kept hb hold)⟩
    · -- the block of this issue is there by the turns of the others
      obtain ⟨filled, hf, -⟩ := hturned.added.filled
      rw [hfresh _ hb] at hf
      cases hf
    · cases hn : nodeAt? p.pamphlet.trees b with
      | none => rfl
      | some m =>
        obtain ⟨m', hm', -⟩ := hturned.grows.nodeAt? hn
        rw [hfresh b hb] at hm'
        cases hm'

/-- In a finished pamphlet every issue has a section of its own, filled from its note, and both tables of contents
have an entry for it. -/
theorem exists_blocks_of_assemble (h : outcome (plan.assemble sources) start.anew = (.ok (), p')) :
    ∃ issues told blocks opened mid, Tracker.issues sources.notes plan.settings.tracker.noteFilename = .ok issues ∧
      issues.mapM plan.tell = .ok told ∧
      outcome (plan.reach sources .issuesList >>= fun _ => plan.openIssues sources) start.anew = (.ok opened, mid) ∧
      p'.pamphlet.toc? = some tocPlace ∧
      p'.pamphlet.Lists tocPlace (Section.all.map Section.entry ++ told.map Told.entry) ∧
      p'.pamphlet.Lists opened.2.1 (told.map Told.entry) ∧
      List.Forall₂ (fun issue q => ∃ note?, plan.noteFor issue = .ok note? ∧
        HoldsNote issue note? q p'.pamphlet.trees) issues blocks ∧ blocks.Nodup := by
  obtain ⟨opened, mid, r, calls, hopen, hread, hlisting, hissues, hlast⟩ := exists_recorded_of_assemble h
  have hopened : Entered opened.2.1 5 (mid, Section.all.map Section.call) :=
    hlisting.entered (s := (mid, Section.all.map Section.call))
  obtain ⟨blocks, hblocks, hnodup, -, -⟩ := forM_recordIssue_turned hopened hlisting.clear
    (hlisting.apart _ (.head _)).1 (hlisting.apart _ (.head _)).2 hissues
  have hentered := (hlisting.ensures_forM_recordIssue plan opened.2.2).of_ok hopened hissues
  obtain ⟨added, told, rfl, htold, hadded⟩ := forM_recordIssue_eq_ok hissues
  have hshows := hentered.shows
  rw [show 5 = (Section.all.map Section.call).length from rfl, List.drop_left, List.map_append, hadded] at hshows
  have hfinal := (ensures_takeShownStep plan sources rfl).of_ok hshows hlast
  refine ⟨opened.2.2, told, blocks, opened, mid, hread, htold, hopen, hfinal.toc?_eq,
    (hfinal.sheltered _ (.tail _ (.head _))).nodeAt?_eq, (hfinal.sheltered _ (.head _)).nodeAt?_eq,
    hblocks.imp fun issue q => ?_, hnodup⟩
  rintro ⟨note?, hnote, hholds⟩
  exact ⟨note?, hnote, (ensures_holdsNote_environment plan sources).of_ok hholds hlast⟩

end ReleaseNotes
