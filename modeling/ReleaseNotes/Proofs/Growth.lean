import ReleaseNotes.Markup.Edit
import ReleaseNotes.Proofs.Place

/-!
# Growth

Content grows when it is added to and nothing that stood in it is moved, removed or altered
(`Grows`): an element keeps its tag and its place and grows inside, a run of text that something
stands after stays as it is, and a run that stands last may be continued. After all of that anything
may follow. Growth is a preorder. A change at a place is growth if the node there grows, and a node
that stood at a place stands there, grown, ever after (`Grows.nodeAt?`).
-/

namespace ReleaseNotes.Markup

/-- The first content has grown to the second. -/
inductive Grows : List Node → List Node → Prop where
  /-- After everything that was there anything may follow. -/
  | new (more : List Node) : Grows [] more
  /-- An element keeps its tag, and its content grows. -/
  | element (tag : Tag) {inner inner' rest rest' : List Node} :
      Grows inner inner' → Grows rest rest' → Grows (.element tag inner :: rest)
        (.element tag inner' :: rest')
  /-- A run of text stays as it is. -/
  | text (s : String) {rest rest' : List Node} : Grows rest rest' → Grows (.text s :: rest) (.text s :: rest')
  /-- The run of text that stands last may be continued. -/
  | lastText (s t : String) (rest' : List Node) : Grows [.text s] (.text (s ++ t) :: rest')
  /-- A comment, whose text is all that it has, may be continued. -/
  | comment (s t : String) {rest rest' : List Node} :
      Grows rest rest' → Grows (.comment s :: rest) (.comment (s ++ t) :: rest')
  /-- The data of a processing instruction may be continued. -/
  | instruction (target s t : String) {rest rest' : List Node} :
      Grows rest rest' → Grows (.instruction target s :: rest) (.instruction target (s ++ t) :: rest')
  /-- A reference to an entity stays as it is. -/
  | reference (name : String) {rest rest' : List Node} :
      Grows rest rest' → Grows (.reference name :: rest) (.reference name :: rest')

/-- A node has grown to another one. -/
def Node.GrowsTo (n n' : Node) : Prop := Grows [n] [n']

variable {content content' : List Node} {n n' m : Node} {f : Node → Node} {i : Nat} {p : Place}

theorem Grows.cons_of_growsTo {rest rest' : List Node} (h : n.GrowsTo n') (hn : n.isText = false)
    (hr : Grows rest rest') : Grows (n :: rest) (n' :: rest') := by
  cases h with
  | element tag hi _ => exact .element tag hi hr
  | text s _ => cases hn
  | lastText s t _ => cases hn
  | comment s t _ => exact .comment s t hr
  | instruction target s t _ => exact .instruction target s t hr
  | reference name _ => exact .reference name hr

mutual

theorem Node.GrowsTo.refl : ∀ n : Node, n.GrowsTo n
  | .element tag content => .element tag (Grows.refl content) (.new [])
  | .text s => .text s (.new [])
  | .comment s => by simpa using show Node.GrowsTo _ _ from Grows.comment s "" (.new [])
  | .instruction target s => by
    simpa using show Node.GrowsTo _ _ from Grows.instruction target s "" (.new [])
  | .reference name => .reference name (.new [])

theorem Grows.refl : ∀ content : List Node, Grows content content
  | [] => .new []
  | n :: rest => by
    cases hn : n.isText with
    | true =>
      cases n with
      | text s => exact .text s (Grows.refl rest)
      | _ => cases hn
    | false => exact .cons_of_growsTo (Node.GrowsTo.refl n) hn (Grows.refl rest)

end

theorem Grows.trans {content'' : List Node} (h : Grows content content') (h' : Grows content' content'') :
    Grows content content'' := by
  induction h generalizing content'' with
  | new more => exact .new content''
  | element tag _ _ ihi ihr =>
    cases h' with
    | element _ hi hr => exact .element tag (ihi hi) (ihr hr)
  | text s h ih =>
    cases h' with
    | text _ hr => exact .text s (ih hr)
    | lastText _ t rest' =>
      cases h
      exact .lastText s t rest'
  | lastText s t rest' =>
    cases h' with
    | text _ hr => exact .lastText s t _
    | lastText _ t' _ =>
      rw [String.append_assoc]
      exact .lastText s (t ++ t') _
  | comment s t _ ih =>
    cases h' with
    | comment _ t' hr =>
      rw [String.append_assoc]
      exact .comment s (t ++ t') (ih hr)
  | instruction target s t _ ih =>
    cases h' with
    | instruction _ _ t' hr =>
      rw [String.append_assoc]
      exact .instruction target s (t ++ t') (ih hr)
  | reference name _ ih =>
    cases h' with
    | reference _ hr => exact .reference name (ih hr)

theorem Node.GrowsTo.trans {n'' : Node} (h : n.GrowsTo n') (h' : n'.GrowsTo n'') : n.GrowsTo n'' :=
  Grows.trans h h'

/-! ### What grown nodes keep -/

/-- A grown element has the tag of the old one. -/
theorem Node.GrowsTo.exists_of_element {tag : Tag} {inner : List Node}
    (h : (Node.element tag inner).GrowsTo n') : ∃ inner', n' = .element tag inner' ∧ Grows inner inner' := by
  cases h with
  | element _ hi _ => exact ⟨_, rfl, hi⟩

theorem Node.GrowsTo.tag?_eq (h : n.GrowsTo n') : n'.tag? = n.tag? := by
  cases h <;> rfl

theorem Node.GrowsTo.isNamed_eq (h : n.GrowsTo n') (label : String) : n'.isNamed label = n.isNamed label := by
  rw [Node.isNamed, Node.isNamed, Node.localName?, Node.localName?, h.tag?_eq]

theorem Node.GrowsTo.attribute?_eq (h : n.GrowsTo n') (label : String) :
    n'.attribute? label = n.attribute? label := by
  rw [Node.attribute?, Node.attribute?, h.tag?_eq]

theorem Node.GrowsTo.grows_content (h : n.GrowsTo n') : Grows n.content n'.content := by
  cases h with
  | element _ hi _ => exact hi
  | _ => exact Grows.new []

theorem Node.GrowsTo.isText_eq (h : n.GrowsTo n') : n'.isText = n.isText := by
  cases h <;> rfl

/-- A child keeps its number. -/
theorem Grows.childAt? (h : Grows content content') (hc : childAt? content i = some n) :
    ∃ n', Markup.childAt? content' i = some n' ∧ n.GrowsTo n' := by
  induction h generalizing i with
  | new more => cases hc
  | text s _ ih =>
    rw [childAt?_cons_of_isText rfl] at hc ⊢
    exact ih hc
  | lastText s t rest' => simp [Markup.childAt?, Node.isText] at hc
  | element tag hi hr _ ih =>
    cases i with
    | zero =>
      rw [childAt?_cons_zero rfl, Option.some.injEq] at hc
      exact ⟨_, childAt?_cons_zero rfl, hc ▸ .element tag hi (.new [])⟩
    | succ i =>
      rw [childAt?_cons_succ rfl] at hc ⊢
      exact ih hc
  | comment s t hr ih =>
    cases i with
    | zero =>
      rw [childAt?_cons_zero rfl, Option.some.injEq] at hc
      exact ⟨_, childAt?_cons_zero rfl, hc ▸ .comment s t (.new [])⟩
    | succ i =>
      rw [childAt?_cons_succ rfl] at hc ⊢
      exact ih hc
  | instruction target s t hr ih =>
    cases i with
    | zero =>
      rw [childAt?_cons_zero rfl, Option.some.injEq] at hc
      exact ⟨_, childAt?_cons_zero rfl, hc ▸ .instruction target s t (.new [])⟩
    | succ i =>
      rw [childAt?_cons_succ rfl] at hc ⊢
      exact ih hc
  | reference name hr ih =>
    cases i with
    | zero =>
      rw [childAt?_cons_zero rfl, Option.some.injEq] at hc
      exact ⟨_, childAt?_cons_zero rfl, hc ▸ .reference name (.new [])⟩
    | succ i =>
      rw [childAt?_cons_succ rfl] at hc ⊢
      exact ih hc

/-- A node keeps its place. -/
theorem Grows.nodeAt? (h : Grows content content') (hp : nodeAt? content p = some n) :
    ∃ n', Markup.nodeAt? content' p = some n' ∧ n.GrowsTo n' := by
  induction p generalizing content content' with
  | nil => cases hp
  | cons i p ih =>
    cases p with
    | nil => exact h.childAt? hp
    | cons j p =>
      rw [nodeAt?_cons (List.cons_ne_nil j p)] at hp ⊢
      obtain ⟨m, hi, hm⟩ := Option.bind_eq_some_iff.mp hp
      obtain ⟨m', hi', hg⟩ := h.childAt? hi
      rw [hi']
      exact ih hg.grows_content hm

/-! ### Changes that are growth -/

theorem Grows.append_left (before : List Node) {rest rest' : List Node} (h : Grows rest rest') :
    Grows (before ++ rest) (before ++ rest') := by
  induction before with
  | nil => exact h
  | cons n before ih =>
    cases hn : n.isText with
    | true =>
      cases n with
      | text s => exact .text s ih
      | _ => cases hn
    | false => exact .cons_of_growsTo (Node.GrowsTo.refl n) hn ih

theorem Grows.append (content more : List Node) : Grows content (content ++ more) := by
  simpa using Grows.append_left content (.new more)

theorem Grows.appendText (content : List Node) (s : String) : Grows content (appendText content s) := by
  unfold Markup.appendText
  split
  · exact .refl content
  · split
    · rename_i t ht
      obtain ⟨before, rfl⟩ := List.getLast?_eq_some_iff.mp ht
      rw [List.dropLast_concat]
      exact .append_left before (.lastText t s [])
    · exact .append content _

theorem Grows.appendContent (content more : List Node) : Grows content (appendContent content more) := by
  unfold Markup.appendContent
  split
  · exact (Grows.appendText content _).trans (.append _ _)
  · exact .append content more

theorem Node.GrowsTo.mapContent {g : List Node → List Node} (h : ∀ c, Grows c (g c)) (n : Node) :
    n.GrowsTo (n.mapContent g) := by
  cases n with
  | element tag inner => exact .element tag (h inner) (.new [])
  | _ => exact Node.GrowsTo.refl _

theorem Grows.changeChild (h : ∀ n, Markup.childAt? content i = some n → n.GrowsTo (f n)) :
    Grows content (changeChild f content i) := by
  cases hc : Markup.childAt? content i with
  | none =>
    rw [changeChild_of_none hc]
    exact .refl content
  | some n =>
    obtain ⟨before, after, rfl, rfl⟩ := exists_eq_append_of_childAt? hc
    have hn := (mem_of_childAt? hc).2
    rw [changeChild_mid hn]
    exact .append_left before (.cons_of_growsTo (h n hc) hn (.refl after))

/-- A change at a place is growth if the node there grows. -/
theorem Grows.changeAt (h : ∀ n, Markup.nodeAt? content p = some n → n.GrowsTo (f n)) :
    Grows content (changeAt f content p) := by
  induction p generalizing content with
  | nil => exact .refl content
  | cons i p ih =>
    cases p with
    | nil => exact Grows.changeChild h
    | cons j p =>
      refine Grows.changeChild fun n hn => ?_
      cases n with
      | element tag inner =>
        refine .element tag (ih fun m hm => h m ?_) (.new [])
        rw [nodeAt?_cons (List.cons_ne_nil j p), hn]
        exact hm
      | _ => exact Node.GrowsTo.refl _

theorem Grows.appendAt (p : Place) (new content : List Node) : Grows content (appendAt p new content) :=
  .changeAt fun n _ => .mapContent (fun c => .append c new) n

end ReleaseNotes.Markup
