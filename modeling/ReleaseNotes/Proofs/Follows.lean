import ReleaseNotes.Proofs.Assembling

/-!
# Work that follows its checks

Work that may fail can be said to make some checks, one after the other (`inTurn`): it fails where the
first of them fails, and for the same reason. `Follows P m checks Q` says so of every run from a state with
`P`, and that a run that passes them all leaves a state with `Q`. It goes through sequences, in which the
checks of one part follow those of the other (`Follows.bind`), and through loops. The additions to a
pamphlet follow their checks wherever the elements that they need are there (`Offers`): what is left to
check is whether a document can hold their texts.
-/

namespace ReleaseNotes

open Markup

variable {ε σ α β : Type}

/-! ### Checks in turn -/

/-- A result without its value. -/
def passed (made : Except ε α) : Except ε Unit :=
  made.map fun _ => ()

/-- What some checks come to, made one after the other until one of them fails. -/
def inTurn (checks : List (Except ε Unit)) : Except ε Unit :=
  checks.forM id

theorem inTurn_cons (check : Except ε Unit) (checks : List (Except ε Unit)) :
    inTurn (check :: checks) = check >>= fun _ => inTurn checks := rfl

@[simp] theorem inTurn_singleton (check : Except ε Unit) : inTurn [check] = check := by
  cases check <;> rfl

theorem inTurn_pair (check check' : Except ε Unit) : inTurn [check, check'] = check >>= fun _ => check' := by
  rw [inTurn_cons, inTurn_singleton]

theorem inTurn_append (checks more : List (Except ε Unit)) :
    inTurn (checks ++ more) = inTurn checks >>= fun _ => inTurn more := by
  induction checks with
  | nil => rfl
  | cons check checks ih =>
    rw [List.cons_append, inTurn_cons, inTurn_cons, ih]
    cases check <;> rfl

/-- Checks come to nothing else than the first of them that fails. -/
theorem inTurn_eq_error_iff {checks : List (Except ε Unit)} {e : ε} :
    inTurn checks = .error e ↔
      ∃ before after, checks = before ++ .error e :: after ∧ ∀ check ∈ before, check = .ok () := by
  induction checks with
  | nil => exact ⟨nofun, fun ⟨before, after, h, _⟩ => absurd h.symm (by simp)⟩
  | cons check checks ih =>
    rw [inTurn_cons]
    cases check with
    | error e' =>
      refine ⟨fun h => ⟨[], checks, by cases h; rfl, nofun⟩, ?_⟩
      rintro ⟨_ | ⟨check, before⟩, after, h, hb⟩
      · cases h
        rfl
      · cases h
        cases hb _ (.head _)
    | ok u =>
      refine ih.trans ⟨?_, ?_⟩
      · rintro ⟨before, after, rfl, hb⟩
        exact ⟨.ok () :: before, after, rfl, List.forall_mem_cons.mpr ⟨rfl, hb⟩⟩
      · rintro ⟨_ | ⟨check, before⟩, after, h, hb⟩
        · cases h
        · rw [List.cons_append, List.cons.injEq] at h
          exact ⟨before, after, h.2, (List.forall_mem_cons.mp hb).2⟩

theorem inTurn_eq_ok_iff {checks : List (Except ε Unit)} :
    inTurn checks = .ok () ↔ ∀ check ∈ checks, check = .ok () := by
  induction checks with
  | nil => exact ⟨fun _ => nofun, fun _ => rfl⟩
  | cons check checks ih =>
    rw [inTurn_cons, List.forall_mem_cons, ← ih]
    cases check with
    | error e => exact ⟨nofun, fun h => nomatch h.1⟩
    | ok u => exact ⟨fun h => ⟨rfl, h⟩, And.right⟩

/-- Values that are read one after the other are checked one after the other. -/
theorem passed_mapM (f : α → Except ε β) (l : List α) :
    passed (l.mapM f) = inTurn (l.map fun a => passed (f a)) := by
  induction l with
  | nil => rfl
  | cons a l ih =>
    rw [List.mapM_cons, List.map_cons, inTurn_cons, ← ih]
    cases f a with
    | error e => rfl
    | ok b => cases List.mapM f l <;> rfl

theorem inTurn_map_mapError {ε' : Type} (f : ε → ε') (checks : List (Except ε Unit)) :
    inTurn (checks.map (·.mapError f)) = (inTurn checks).mapError f := by
  induction checks with
  | nil => rfl
  | cons check checks ih =>
    rw [List.map_cons, inTurn_cons, inTurn_cons, ih]
    cases check <;> rfl

/-! ### Work that follows its checks -/

/-- From every state with `P` some work fails where its checks fail and for the same reason, and it
leaves a state with `Q` if all of them pass. -/
def Follows (P : σ → Prop) (m : ExceptT ε (StateM σ) α) (checks : List (Except ε Unit))
    (Q : α → σ → Prop) : Prop :=
  ∀ s, P s → match outcome m s with
    | (.ok a, t) => inTurn checks = .ok () ∧ Q a t
    | (.error e, _) => inTurn checks = .error e

section Follows

variable {P P' : σ → Prop} {Q Q' : α → σ → Prop} {m : ExceptT ε (StateM σ) α}
  {checks more : List (Except ε Unit)}

theorem Follows.mono (h : Follows P m checks Q) (hP : ∀ s, P' s → P s) (hQ : ∀ a s, Q a s → Q' a s) :
    Follows P' m checks Q' := by
  intro s hs
  have := h s (hP s hs)
  revert this
  rcases outcome m s with ⟨e | a, t⟩
  · exact id
  · exact fun h => ⟨h.1, hQ a t h.2⟩

theorem Follows.congr (h : Follows P m checks Q) (hc : inTurn checks = inTurn more) :
    Follows P m more Q := by
  intro s hs
  rw [← hc]
  exact h s hs

theorem Follows.of_passed (h : ∀ s, P s → passed (outcome m s).1 = inTurn checks)
    (hQ : ∀ s a t, P s → outcome m s = (.ok a, t) → Q a t) : Follows P m checks Q := by
  intro s hs
  have h := h s hs
  have hQ := hQ s
  rw [← h]
  revert hQ
  rcases outcome m s with ⟨e | a, t⟩
  · exact fun _ => rfl
  · exact fun hQ => ⟨rfl, hQ a t hs rfl⟩

theorem Follows.pure {a : α} (h : ∀ s, P s → Q a s) :
    Follows P (pure a : ExceptT ε (StateM σ) α) [] Q :=
  fun s hs => ⟨rfl, h s hs⟩

theorem Follows.bind {R : β → σ → Prop} {f : α → ExceptT ε (StateM σ) β} (hm : Follows P m checks Q)
    (hf : ∀ a, Follows (Q a) (f a) more R) : Follows P (m >>= f) (checks ++ more) R := by
  intro s hs
  have := hm s hs
  revert this
  rw [outcome_bind, inTurn_append]
  rcases outcome m s with ⟨e | a, t⟩
  · intro h
    exact (congrArg (· >>= fun _ => inTurn more) h).trans rfl
  · rintro ⟨h, hq⟩
    rw [h]
    exact hf a t hq

/-- Work that checks nothing, and what comes after it. -/
theorem Follows.andThen {R : β → σ → Prop} {f : α → ExceptT ε (StateM σ) β} (hm : Follows P m [] Q)
    (hf : ∀ a, Follows (Q a) (f a) more R) : Follows P (m >>= f) more R :=
  hm.bind hf

/-- Work that checks one thing, and what comes after it. -/
theorem Follows.check {R : β → σ → Prop} {c : Except ε Unit} {f : α → ExceptT ε (StateM σ) β}
    (hm : Follows P m [c] Q) (hf : ∀ a, Follows (Q a) (f a) more R) : Follows P (m >>= f) (c :: more) R :=
  hm.bind hf

/-- Work whose result is put aside in the end. -/
theorem Follows.finish {R : β → σ → Prop} {g : α → β} (hm : Follows P m checks Q)
    (hf : ∀ a s, Q a s → R (g a) s) : Follows P (m >>= fun a => Pure.pure (g a)) checks R := by
  rw [← List.append_nil checks]
  exact hm.bind fun a => .pure (hf a)

/-- What does not depend on the state may be taken out of what holds before. -/
theorem Follows.of_and {c : Prop} (h : c → Follows P m checks Q) :
    Follows (fun s => P s ∧ c) m checks Q :=
  fun s hs => h hs.2 s hs.1

theorem Follows.liftM {made : Except ε α} (h : inTurn checks = passed made) :
    Follows P (liftM made : ExceptT ε (StateM σ) α) checks fun a s => P s ∧ made = .ok a := by
  intro s hs
  cases made with
  | error e => exact h
  | ok a => exact ⟨h, hs, rfl⟩

theorem Follows.ite {b : Bool} {e : ε} (h : Follows P m checks Q) :
    Follows P (if b = true then m else throw e) ((if b = true then .ok () else .error e) :: checks) Q := by
  intro s hs
  cases b with
  | true => exact h s hs
  | false => exact rfl

theorem Follows.get {next : σ → ExceptT ε (StateM σ) α} (h : ∀ s, P s → Follows P (next s) checks Q) :
    Follows P (get >>= next) checks Q :=
  fun s hs => h s hs s hs

/-- A loop whose every turn keeps `I`. -/
theorem Follows.forM {I : σ → Prop} {f : β → ExceptT ε (StateM σ) PUnit} {c : β → Except ε Unit}
    (h : ∀ b, Follows I (f b) [c b] fun _ => I) (l : List β) :
    Follows I (l.forM f) (l.map c) fun _ => I := by
  induction l with
  | nil => exact .pure fun _ => id
  | cons b l ih => exact (h b).check fun _ => ih

/-- A loop that collects what its turns come to. -/
theorem Follows.mapM {I : σ → Prop} {f : β → ExceptT ε (StateM σ) α} {c : β → Except ε Unit}
    {ε' : Type} {g : β → Except ε' α} (h : ∀ b, Follows I (f b) [c b] fun a s => I s ∧ g b = .ok a)
    (l : List β) : Follows I (l.mapM f) (l.map c) fun as s => I s ∧ l.mapM g = .ok as := by
  induction l with
  | nil => exact .pure fun _ hs => ⟨hs, rfl⟩
  | cons b l ih =>
    rw [List.mapM_cons, List.map_cons]
    refine (h b).check fun a => .of_and fun ha => ih.finish fun as s hs => ⟨hs.1, ?_⟩
    rw [List.mapM_cons, ha, ok_bind, hs.2, ok_bind]
    rfl

end Follows

/-! ### Additions -/

section Additions

variable {places tocs : List Place} {content content' : List Node} {here list row table : Place}

/-- At some places stand elements. -/
def Offers (places : List Place) (content : List Node) : Prop :=
  ∀ q ∈ places, ∃ tag inner, nodeAt? content q = some (.element tag inner)

theorem Offers.of_grows (h : Offers places content) (hg : Grows content content') :
    Offers places content' := by
  intro q hq
  obtain ⟨tag, inner, he⟩ := h q hq
  obtain ⟨n, hn, hgn⟩ := hg.nodeAt? he
  obtain ⟨inner', rfl, -⟩ := hgn.exists_of_element
  exact ⟨tag, inner', hn⟩

theorem Offers.cons {q : Place} {tag : Tag} {inner : List Node}
    (he : nodeAt? content q = some (.element tag inner)) (h : Offers places content) :
    Offers (q :: places) content :=
  List.forall_mem_cons.mpr ⟨⟨tag, inner, he⟩, h⟩

theorem Offers.tail {q : Place} (h : Offers (q :: places) content) : Offers places content :=
  (List.forall_mem_cons.mp h).2

/-- A document can hold a text. -/
def legal (s : String) : Except EditFault Unit :=
  if isLegalText s then .ok () else .error .illegalText

theorem passed_textElement (e : PageElement) (s : String) : passed (textElement e s) = legal s := by
  unfold textElement legal
  split <;> rfl

theorem follows_textElement {P : List Node → Prop} (e : PageElement) (s : String) :
    Follows P (liftM (textElement e s)) [legal s] fun n content => P content ∧ textElement e s = .ok n :=
  .liftM ((inTurn_singleton _).trans (passed_textElement e s).symm)

theorem passed_link (address s : String) : passed (link address s) = inTurn [legal s, legal address] := by
  unfold link legal
  cases isLegalText s <;> cases isLegalText address <;> rfl

theorem follows_addNode (hh : here ∈ places) (tag : Tag) (inner : List Node) :
    Follows (Offers places) (addNode here (.element tag inner)) [] fun q => Offers (q :: places) := by
  intro content hs
  obtain ⟨_, inner', he⟩ := hs here hh
  rw [outcome_addNode he]
  exact ⟨rfl, .cons (nodeAt?_appendAt_child he rfl []) (hs.of_grows (.appendAt _ _ _))⟩

theorem follows_changeHere {f : Node → Node} (hf : ∀ n : Node, n.GrowsTo (f n)) :
    Follows (Offers places) (changeHere here f) [] fun _ => Offers places :=
  fun _ hs => ⟨rfl, hs.of_grows (.changeAt fun n _ => hf n)⟩

/-- Nodes put at the end of what was added last. -/
theorem follows_append (new : List Node) (a : α) :
    Follows (Offers (here :: places)) (changeHere here (Node.mapContent (· ++ new)) >>= fun _ => pure a) []
      fun _ => Offers places :=
  (follows_changeHere fun n => .mapContent (fun c => .append c new) n).finish fun _ _ h => h.tail

theorem follows_addTextCell (hr : row ∈ places) (s : String) :
    Follows (Offers places) (addTextCell row s) [legal s] fun _ => Offers places :=
  (follows_addNode hr _ _).andThen fun _ => .ite (follows_append _ _)

/-- The row of a bug holds its key, the address of its page and its title. -/
theorem follows_addBug (ht : table ∈ places) (pages : String) (bug : Tracker.Issue) :
    Follows (Offers places) (addBug pages table bug)
      [legal bug.key, legal (bug.pageUrl pages), legal bug.title] fun _ => Offers places := by
  refine (follows_addNode ht _ _).andThen fun row => (follows_addNode (.head _) _ _).andThen fun cell => ?_
  refine Follows.bind (.liftM (passed_link _ _).symm) fun page => .of_and fun hp => ?_
  rw [link_eq_ok hp]
  refine (follows_addNode (.head _) _ _).andThen fun _ =>
    (follows_addTextCell (.tail _ (.tail _ (.head _))) bug.title).finish fun _ _ h => h.tail.tail.tail

theorem follows_addLabelled (hl : list ∈ places) (label s : String) :
    Follows (Offers places) (addLabelled list label s) [legal label, legal s] fun _ => Offers places :=
  (follows_addNode hl _ _).andThen fun _ => (follows_textElement .bold label).check fun _ => .of_and fun _ =>
    .ite (follows_append _ _)

theorem follows_addHeadings (hr : row ∈ places) (headings : List String) :
    Follows (Offers places) (addHeadings row headings) (headings.map legal) fun _ => Offers places := by
  induction headings with
  | nil => exact .pure fun _ => id
  | cons heading headings ih =>
    refine (follows_addNode hr _ _).andThen fun cell => (follows_textElement .bold heading).check fun bold =>
      .of_and fun hb => ?_
    rw [textElement_eq_ok hb]
    exact (follows_addNode (.head _) _ _).andThen fun _ => ih.mono (fun _ h => h.tail.tail) fun _ _ => id

/-- The border of a table can be written. -/
def writable (border : Int) : Except EditFault Unit :=
  if (Text.decimal? border).isSome then .ok () else .error .oversized

theorem follows_addTable (hh : here ∈ places) (border : Int) (headings : List String) :
    Follows (Offers places) (addTable here border headings) (writable border :: headings.map legal)
      fun table => Offers (table :: places) := by
  intro content hs
  obtain ⟨tag, inner, he⟩ := hs here hh
  rw [outcome_addTable he, writable]
  cases Text.decimal? border with
  | none => rfl
  | some width =>
    have hrow (table : Place) : Follows (Offers (table :: places))
        (addRow table >>= fun row => addHeadings row headings >>= fun _ => pure table) (headings.map legal)
        fun table => Offers (table :: places) :=
      (follows_addNode (.head _) _ _).andThen fun row => (follows_addHeadings (.head _) headings).finish
        fun _ _ h => h.tail
    exact hrow (here ++ [childCount inner]) _
      (.cons (nodeAt?_appendAt_child he rfl []) (hs.of_grows (.appendAt _ _ _)))

theorem follows_addHeader (hh : here ∈ places) (level : HeaderLevel) (name : String) :
    Follows (Offers places) (addHeader here level name) [legal name] fun made => Offers (made :: places) := by
  intro content hs
  obtain ⟨tag, inner, he⟩ := hs here hh
  rw [outcome_addHeader he, inTurn_singleton, legal]
  cases isLegalText name with
  | false => rfl
  | true =>
    -- the block stands after the heading
    have hb := nodeAt?_appendAt_child (n := Layout.holder .block []) (nodeAt?_appendAt he
      [Layout.heading level name]) rfl []
    rw [childCount_append, appendAt_appendAt] at hb
    exact ⟨rfl, .cons hb (hs.of_grows (.appendAt _ _ _))⟩

theorem follows_addEntries (ht : tocs ⊆ places) (name : String) (caption? : Option String) :
    Follows (Offers places) (addEntries name caption? tocs)
      (tocs.flatMap fun _ => [legal (caption?.getD name), legal name]) fun _ => Offers places := by
  induction tocs with
  | nil => exact .pure fun _ => id
  | cons toc tocs ih =>
    have hlink : inTurn [legal (caption?.getD name), legal name] = passed (localLink name caption?) := by
      rw [localLink_eq]
      unfold legal
      cases isLegalText (caption?.getD name) <;> cases isLegalText name <;> rfl
    obtain ⟨hm, ht⟩ := List.cons_subset.mp ht
    refine Follows.bind (.liftM hlink) fun entry => .of_and fun he => ?_
    rw [link_eq_ok he]
    have hitem : Follows (Offers places) (addItem toc (Layout.linked ("#" ++ name) (caption?.getD name))) []
        fun _ => Offers places :=
      (follows_addNode hm _ _).andThen fun _ => (follows_addNode (.head _) _ _).finish
        fun _ _ h => h.tail.tail
    exact hitem.andThen fun _ => ih ht

theorem follows_addSection (hh : here ∈ places) (ht : tocs ⊆ places) (level : HeaderLevel) (name : String)
    (caption? : Option String) :
    Follows (Offers places) (addSection here level name tocs caption?)
      (tocs.flatMap (fun _ => [legal (caption?.getD name), legal name]) ++ [legal name])
      fun made => Offers (made :: places) :=
  (follows_addEntries ht name caption?).bind fun _ => follows_addHeader hh level name

theorem follows_addParagraph (hh : here ∈ places) (s : String) :
    Follows (Offers places) (addParagraph here s) [legal s] fun _ => Offers places := by
  intro content hs
  obtain ⟨tag, inner, he⟩ := hs here hh
  rw [outcome_addParagraph he, inTurn_singleton, legal]
  cases isLegalText s with
  | false => rfl
  | true => exact ⟨rfl, hs.of_grows (.appendAt _ _ _)⟩

theorem follows_addCopy (hh : here ∈ places) (source : Node) :
    Follows (Offers places) (addCopy here source) [] fun _ => Offers places := by
  intro content hs
  obtain ⟨tag, inner, he⟩ := hs here hh
  have hg := (addedAt_addCopy here source content).grows
  rw [outcome_addCopy he] at hg ⊢
  exact ⟨rfl, hs.of_grows hg⟩

/-! ### Additions to whatever was found -/

/-- Something can be put under what was found. -/
def carries : Option Node → Except EditFault Unit
  | some (.element _ _) => .ok ()
  | some _ => .error .childless
  | none => .error .noHolder

/-- Text can be added to what was found. -/
def continues (s : String) : Option Node → Except EditFault Unit
  | some (.element _ _) | some (.comment _) | some (.instruction _ _) => legal s
  | some (.text _) | some (.reference _) => .error .fixedText
  | none => .error .noNode

/-- A copy of what a node holds can be added to what was found. What is no element takes text at most. -/
def takesCopy (source : Node) : Option Node → List (Except EditFault Unit)
  | some (.element _ _) => []
  | found => [if source.leadingText.isEmpty then .ok () else continues source.leadingText found,
      if source.children.isEmpty then .ok () else carries found]

variable {found : Option Node}

theorem follows_addParagraph_found (s : String) :
    Follows (fun content => nodeAt? content here = found ∧ Offers places content) (addParagraph here s)
      [legal s, carries found] fun _ => Offers (here :: places) := by
  refine (follows_textElement .paragraph s).check fun n => .of_and fun hn => ?_
  rw [textElement_eq_ok hn]
  rintro content ⟨hf, ho⟩
  rw [inTurn_singleton, ← hf, attach, outcome_bind_of_ok (outcome_get content)]
  cases he : nodeAt? content here with
  | none => rfl
  | some m =>
    dsimp only
    cases m with
    | element tag inner =>
      rw [Layout.holder, outcome_addNode he]
      exact ⟨rfl, .cons (nodeAt?_appendAt he _) (ho.of_grows (.appendAt _ _ _))⟩
    | _ =>
      rw [addNode, nodeHere, bind_assoc, outcome_bind_of_ok (outcome_get content), he]
      rfl

theorem carries_some (n : Node) : carries (some n) = if n.tag?.isSome then .ok () else .error .childless := by
  cases n <;> rfl

/-- What is added to something changes nothing about what it can carry. -/
theorem carries_of_addedAt (h : AddedAt here content content') :
    carries (nodeAt? content' here) = carries (nodeAt? content here) := by
  obtain ⟨f, hf, rfl⟩ := h
  cases hn : nodeAt? content here with
  | none => rw [changeAt_self fun m hm => by simp [hn] at hm, hn]
  | some n =>
    rw [nodeAt?_changeAt_self hn ((hf.isText n).trans (isText_of_nodeAt? hn)), carries_some, carries_some,
      (hf n).1.tag?_eq]

theorem passed_addText (s : String) (content : List Node) :
    passed (outcome (addText here s) content).1 =
      if s.isEmpty then .ok () else continues s (nodeAt? content here) := by
  unfold addText
  cases s.isEmpty with
  | true => rfl
  | false =>
    rw [if_neg Bool.false_ne_true, if_neg Bool.false_ne_true, nodeHere, bind_assoc,
      outcome_bind_of_ok (outcome_get content)]
    cases nodeAt? content here with
    | none => rfl
    | some n =>
      rw [continues.eq_def, legal]
      cases n with
      | text s | reference name => rfl
      | _ =>
        show passed (outcome (ite _ _ _) content).1 = ite _ _ _
        split <;> rfl

theorem passed_addCopied (hne : ∀ tag inner, nodeAt? content here ≠ some (.element tag inner))
    (copied : List Node) : passed (outcome (addCopied here copied) content).1 =
      if copied.isEmpty then .ok () else carries (nodeAt? content here) := by
  rw [addCopied, outcome_bind_of_ok (outcome_get content)]
  cases h : nodeAt? content here with
  | none => cases copied <;> rfl
  | some n =>
    cases n with
    | element tag inner => exact absurd h (hne tag inner)
    | _ => cases copied <;> rfl

/-- A copy added to whatever was found. -/
theorem follows_addCopy_found (source : Node) (found : Option Node) :
    Follows (fun content => nodeAt? content here = found) (addCopy here source) (takesCopy source found)
      fun _ _ => True := by
  rintro content rfl
  by_cases he : ∃ tag inner, nodeAt? content here = some (.element tag inner)
  · obtain ⟨tag, inner, he⟩ := he
    rw [outcome_addCopy he, he]
    exact ⟨rfl, trivial⟩
  · have hne : ∀ tag inner, nodeAt? content here ≠ some (.element tag inner) :=
      fun tag inner h => he ⟨tag, inner, h⟩
    have ht : takesCopy source (nodeAt? content here) = [if source.leadingText.isEmpty then .ok () else
        continues source.leadingText (nodeAt? content here),
          if source.children.isEmpty then .ok () else carries (nodeAt? content here)] := by
      unfold takesCopy
      split
      · rename_i tag inner h
        exact absurd h (hne tag inner)
      · rfl
    -- what is no element does not become one, and it carries what it carried
    have htext : Follows (· = content) (addText here source.leadingText)
        [if source.leadingText.isEmpty then .ok () else continues source.leadingText (nodeAt? content here)]
        fun _ content' => (∀ tag inner, nodeAt? content' here ≠ some (.element tag inner)) ∧
          carries (nodeAt? content' here) = carries (nodeAt? content here) := by
      refine .of_passed ?_ ?_
      · rintro _ rfl
        exact (passed_addText _ _).trans (inTurn_singleton _).symm
      · rintro _ _ content' rfl ho
        have ha := addedAt_addText hne source.leadingText
        rw [ho] at ha
        exact ⟨ha.ne_element hne, carries_of_addedAt ha⟩
    have hchildren (copied : List Node) : Follows (fun content' =>
          (∀ tag inner, nodeAt? content' here ≠ some (.element tag inner)) ∧
          carries (nodeAt? content' here) = carries (nodeAt? content here)) (addCopied here copied)
        [if copied.isEmpty then .ok () else carries (nodeAt? content here)] fun _ _ => True := by
      refine .of_passed ?_ fun _ _ _ _ _ => trivial
      rintro content' ⟨hne', hc⟩
      rw [passed_addCopied hne', hc, inTurn_singleton]
    rw [outcome_addCopy_of_ne hne, ht]
    exact (htext.check fun _ => hchildren source.children) content rfl

end Additions

end ReleaseNotes
