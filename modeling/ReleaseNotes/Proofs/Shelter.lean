import ReleaseNotes.Proofs.Draft

/-!
# Sheltered lists

A list of entries is sheltered when no search for a section ends at it or in it (`Sheltered`): then
only work that is given its place changes it. The steps of the assembly keep every sheltered list and
every heading that is there (`Shows`), whatever the searches for sections come to and wherever the
steps fail, as long as they work at places outside the lists (`Clear`).
-/

namespace ReleaseNotes

open Markup

variable {α β : Type} {content content' : List Node} {here q : Place} {entries : List (String × String)}
  {lists : List (Place × List (String × String))} {headings : List (HeaderLevel × String)}
  {p p' : Progress}

/-- A list of entries stands at a place, and right before it stands no heading of a section. -/
structure Sheltered (q : Place) (entries : List (String × String)) (content : List Node) : Prop where
  /-- The list. -/
  nodeAt?_eq : nodeAt? content q = some (Layout.holder .list (Layout.entries entries))
  /-- What stands before it. -/
  exists_before : ∃ r i before, q = r ++ [i + 1] ∧ nodeAt? content (r ++ [i]) = some before ∧
    before.isNamed HeaderLevel.mainSection.label = false

theorem Sheltered.addedAt (h : Sheltered q entries content) (ha : AddedAt here content content')
    (hq : ¬ q <+: here) : Sheltered q entries content' := by
  obtain ⟨r, i, before, rfl, hb, hn⟩ := h.exists_before
  obtain ⟨before', hb', hg⟩ := ha.grows.nodeAt? hb
  exact ⟨ha.nodeAt?_of_not_prefix h.nodeAt?_eq hq, r, i, before', rfl, hb', (hg.isNamed_eq _).trans hn⟩

theorem Sheltered.enter (h : Sheltered q entries content) (name caption : String) :
    Sheltered q (entries ++ [(name, caption)]) (appendAt q [Layout.entry name caption] content) := by
  obtain ⟨r, i, before, hq, hb, hn⟩ := h.exists_before
  obtain ⟨before', hb', hg⟩ := (Grows.appendAt q [Layout.entry name caption] content).nodeAt? hb
  refine ⟨?_, r, i, before', hq, hb', (hg.isNamed_eq _).trans hn⟩
  rw [nodeAt?_appendAt h.nodeAt?_eq, Layout.entries, Layout.entries, List.map_append]
  rfl

theorem Sheltered.exists_element (h : Sheltered q entries content) :
    ∃ tag inner, nodeAt? content q = some (.element tag inner) :=
  ⟨_, _, h.nodeAt?_eq⟩

/-- No search for a section ends at a sheltered list or in it. -/
theorem Sheltered.not_prefix_next (h : Sheltered q entries content) {root heading : Place} {name : String}
    (hh : headingPlace? content root .mainSection name = some heading) : ¬ q <+: heading.next := by
  obtain ⟨r, i, before, rfl, hb, hn⟩ := h.exists_before
  refine not_prefix_next_of_headingPlace? h.nodeAt?_eq ?_ hb hn hh
  rw [Layout.holder, anywhere_element, isNamed_element, anywhere_entries]
  rfl

/-- What is added next under an element does not come to stand in a sheltered list. -/
theorem Sheltered.not_prefix_new (h : Sheltered q entries content) (hq : ¬ q <+: here) {tag : Tag}
    {inner : List Node} (he : nodeAt? content here = some (.element tag inner)) {k : Nat}
    (hk : childCount inner ≤ k) : ¬ q <+: here ++ [k] :=
  not_prefix_snoc_of_nodeAt? h.nodeAt?_eq hq he hk

/-! ### What the steps keep -/

/-- A page is begun that has a table of contents, and some lists, all sheltered, and some headings
stand in it. -/
structure Shows (lists : List (Place × List (String × String))) (headings : List (HeaderLevel × String))
    (p : Progress) : Prop where
  /-- The page is where the opening puts it. -/
  root?_eq : p.pamphlet.root? = some pagePlace
  /-- The table of contents is where the opening puts it. -/
  toc?_eq : p.pamphlet.toc? = some tocPlace
  /-- The lists. -/
  sheltered : ∀ l ∈ lists, Sheltered l.1 l.2 p.pamphlet.trees
  /-- The headings. -/
  headed : ∀ h ∈ headings, ∃ r n, r ≠ [] ∧ nodeAt? p.pamphlet.trees (pagePlace ++ r) = some n ∧
    isHeader h.1 h.2 n = true

/-- A place in the page that is neither one of some others nor in one of them. -/
structure Clear (others : List Place) (here : Place) : Prop where
  /-- It is in the page. -/
  inPage : pagePlace <+: here
  /-- It is in none of the others. -/
  not_prefix : ∀ q ∈ others, ¬ q <+: here

theorem Shows.of_pamphlet_eq (h : Shows lists headings p) (he : p'.pamphlet = p.pamphlet) :
    Shows lists headings p' :=
  ⟨by rw [he]; exact h.root?_eq, by rw [he]; exact h.toc?_eq, by rw [he]; exact h.sheltered,
    by rw [he]; exact h.headed⟩

theorem Shows.exists_heading_of_grows (h : Shows lists headings p) (hg : Grows p.pamphlet.trees content) :
    ∀ h ∈ headings, ∃ r n, r ≠ [] ∧ nodeAt? content (pagePlace ++ r) = some n ∧
      isHeader h.1 h.2 n = true := by
  intro head hh
  obtain ⟨r, n, hr, hn, hi⟩ := h.headed head hh
  obtain ⟨n', hn', hg'⟩ := hg.nodeAt? hn
  exact ⟨r, n', hr, hn', isHeader_of_growsTo hg' hi⟩

theorem Shows.addedAt (h : Shows lists headings p) (ha : AddedAt here p.pamphlet.trees content)
    (hc : Clear (lists.map Prod.fst) here) : Shows lists headings (p.withTrees content) :=
  ⟨h.root?_eq, h.toc?_eq, fun l hl => (h.sheltered l hl).addedAt ha
    (hc.not_prefix l.1 (List.mem_map_of_mem hl)),
    h.exists_heading_of_grows ha.grows⟩

theorem Clear.snoc (hc : Clear (lists.map Prod.fst) here) (h : Shows lists headings p) {tag : Tag}
    {inner : List Node}
    (he : nodeAt? p.pamphlet.trees here = some (.element tag inner)) {k : Nat} (hk : childCount inner ≤ k) :
    Clear (lists.map Prod.fst) (here ++ [k]) :=
  ⟨hc.inPage.trans (List.prefix_append _ _),
    List.forall_mem_map.mpr fun l hl =>
      (h.sheltered l hl).not_prefix_new (hc.not_prefix l.1 (List.mem_map_of_mem hl)) he hk⟩

/-! ### Parts of the steps -/

theorem Reads.ensures_shows {work : Assembling α} (h : Reads work) :
    Ensures (Shows lists headings) work (fun _ => Shows lists headings) (Shows lists headings) :=
  .of_after fun p hp => hp.of_pamphlet_eq (h p)

/-- Work that adds at a clear place keeps what is shown. -/
theorem ensures_onTrees {work : Editing α} (hc : Clear (lists.map Prod.fst) here)
    (h : ∀ content, AddedAt here content (outcome work content).2) :
    Ensures (Shows lists headings) (onTrees work) (fun _ => Shows lists headings) (Shows lists headings) := by
  refine .of_after fun p hp => ?_
  rw [outcome_onTrees]
  exact hp.addedAt (h p.pamphlet.trees) hc

/-- Work that adds at a clear place and comes to the place of something new comes to a clear place. -/
theorem Adds.ensures_shows {work : Editing Place} {new : List Node} {f : Nat → Nat}
    (h : Adds here work new fun k => here ++ [f k]) (hf : ∀ k, k ≤ f k)
    (hc : Clear (lists.map Prod.fst) here) :
    Ensures (Shows lists headings) (onTrees work)
      (fun made p => Shows lists headings p ∧ Clear (lists.map Prod.fst) made) (Shows lists headings) := by
  intro p hp
  have hs := hp.addedAt (h.addedAt p.pamphlet.trees) hc
  rcases h p.pamphlet.trees with ⟨tag, inner, he, ho⟩ | ⟨fault, content, ho, -⟩
  · rw [ho] at hs
    rw [outcome_onTrees_of_ok ho]
    exact ⟨hs, hc.snoc hp he (hf _)⟩
  · rw [ho] at hs
    rw [outcome_onTrees_of_error ho]
    exact hs

/-- The block of a section is clear, wherever it is found. -/
theorem ensures_blockOf (s : Section) :
    Ensures (Shows lists headings) (blockOf s)
      (fun block p => Shows lists headings p ∧ Clear (lists.map Prod.fst) block) (Shows lists headings) := by
  intro p hp
  rw [blockOf, outcome_onPamphlet, outcome_sectionPlace, hp.root?_eq]
  dsimp only
  cases hh : headingPlace? p.pamphlet.trees pagePlace .mainSection s.title with
  | none => exact hp
  | some heading =>
    refine ⟨hp, ?_, List.forall_mem_map.mpr fun l hl => (hp.sheltered l hl).not_prefix_next hh⟩
    obtain ⟨page, hr⟩ : ∃ n, nodeAt? p.pamphlet.trees pagePlace = some n := by
      cases hr : nodeAt? p.pamphlet.trees pagePlace with
      | none => simp [headingPlace?, placesBelow, hr] at hh
      | some n => exact ⟨n, rfl⟩
    rw [headingPlace?_eq hr] at hh
    obtain ⟨k, r, m, rfl, -, -⟩ := exists_of_firstHeader? hh
    cases r with
    | nil =>
      rw [Place.next_snoc]
      exact List.prefix_append _ _
    | cons j r => exact List.prefix_append pagePlace (Place.next (_ :: j :: r))

theorem ensures_addTable (hc : Clear (lists.map Prod.fst) here) (border : Int) (labels : List String) :
    Ensures (Shows lists headings) (onTrees (addTable here border labels))
      (fun table p => Shows lists headings p ∧ Clear (lists.map Prod.fst) table) (Shows lists headings) := by
  cases hw : Text.decimal? border with
  | none =>
    intro p hp
    obtain ⟨fault, content, ho, ha⟩ := addTable_of_none here hw labels p.pamphlet.trees
    rw [outcome_onTrees_of_error ho]
    exact hp.addedAt ha hc
  | some width => exact (adds_addTable here hw labels).ensures_shows (fun _ => Nat.le_refl _) hc

theorem ensures_copyField (sources : Sources) (s : Section) (field : SummaryField) :
    Ensures (Shows lists headings) (copyField sources s field) (fun _ => Shows lists headings)
      (Shows lists headings) :=
  (ensures_blockOf s).bind fun block => .of_and fun hc => (Reads.orFail _ _).ensures_shows.bind
    fun fragment => ensures_onTrees hc (addedAt_addCopy block fragment)

theorem ensures_listBugs (plan : Plan) (sources : Sources) :
    Ensures (Shows lists headings) (plan.listBugs sources) (fun _ => Shows lists headings)
      (Shows lists headings) := by
  refine (ensures_blockOf .bugFixes).bind fun block => .of_and fun hc =>
    (Reads.readReport _ _ _).ensures_shows.bind fun bugs => (Reads.sentence _ _ _ _).ensures_shows.bind
      fun intro => (ensures_onTrees hc (adds_addParagraph block intro).addedAt).bind fun _ => ?_
  exact (ensures_addTable hc _ _).bind fun table => .of_and fun ht =>
    .forM fun bug _ => ensures_onTrees ht (adds_addBug _ table bug).addedAt

theorem ensures_addField (plan : Plan) (sources : Sources) (hc : Clear (lists.map Prod.fst) here)
    (entry : Headline × SummaryField) :
    Ensures (Shows lists headings) (plan.addField sources here entry) (fun _ => Shows lists headings)
      (Shows lists headings) :=
  (Reads.environmentText plan sources entry.2).ensures_shows.bind fun text =>
    (ensures_onTrees hc (adds_addLabelled here entry.1.text text).addedAt).bind fun _ => .pure fun _ => id

theorem ensures_listEnvironment (plan : Plan) (sources : Sources) :
    Ensures (Shows lists headings) (plan.listEnvironment sources) (fun _ => Shows lists headings)
      (Shows lists headings) := by
  refine (ensures_blockOf .buildEnvironment).bind fun block => .of_and fun hc =>
    (Reads.sentence _ _ _ _).ensures_shows.bind fun intro =>
      (ensures_onTrees hc (adds_addParagraph block intro).addedAt).bind fun _ => ?_
  exact ((adds_addNode block _).ensures_shows (fun _ => Nat.le_refl _) hc).bind fun list =>
    .of_and fun hl => .forM fun entry _ => ensures_addField plan sources hl entry

/-- A step that adds no section keeps all that is shown. -/
theorem ensures_takeStep (plan : Plan) (sources : Sources) {step : Step} (h : step.addsNoSection = true) :
    Ensures (Shows lists headings) (plan.takeStep sources step) (fun _ => Shows lists headings)
      (Shows lists headings) := by
  cases step with
  | opening | issuesList => cases h
  | overview => exact ensures_copyField sources .overview .overview
  | newFeatures => exact ensures_copyField sources .newFeatures .newFeatures
  | bugList => exact ensures_listBugs plan sources
  | environment => exact ensures_listEnvironment plan sources

end ReleaseNotes
