import ReleaseNotes.Markup.Document

/-!
# From tokens to trees

What is known of the tokens of a document carries over to the tree that is read from them, one kind of token
at a time (`Entities.Carries`). What is known of a tag or of some content may depend on the declarations around
it, nearest first. It is an invariant of the elements that are open while a document is read (`AreOpen`), and
so it holds of the root element (`Entities.Carries.of_assemble`, `of_read_of_carries`).
-/

namespace ReleaseNotes.Markup

variable {e : Entities} {known : Token → Prop} {ofTag : List (List Namespace) → Tag → Prop}
  {ofContent : List (List Namespace) → List Node → Prop} {opened outer : List Opened} {o : Opened}
  {before : List Node} {noted noted' : List Notice} {found rest : List Token} {root : Node}

/-- Whether a token is a document type. -/
def Token.isDoctype : Token → Bool
  | .doctype _ => true
  | _ => false

/-- What is known of tokens makes something known of the tags and the content that are read from them. The
content of an element that is still open is given newest first. -/
structure Entities.Carries (e : Entities) (known : Token → Prop) (ofTag : List (List Namespace) → Tag → Prop)
    (ofContent : List (List Namespace) → List Node → Prop) : Prop where
  empty {scope} : ofContent scope []
  text {scope before s asIs} : known (.chars s asIs) → ofContent scope before → ofContent scope (pushText before s)
  comment {scope before s} : known (.comment s) → ofContent scope before → ofContent scope (.comment s :: before)
  instruction {scope before target data} : known (.instruction target data) → ofContent scope before →
    ofContent scope (.instruction target data :: before)
  reference {scope before name notices} : e.check entityDepth name = .ok notices → ofContent scope before →
    ofContent scope (.reference name :: before)
  tag {scope name written closed tag notices} : known (.opening name written closed) →
    scope.length < nestingLimit → resolveTag e scope name written = .ok (tag, notices) → ofTag scope tag
  element {scope before tag inner} : ofTag scope tag → ofContent (tag.declared :: scope) inner →
    ofContent scope before → ofContent scope (.element tag inner.reverse :: before)

/-- What is known of the open elements, innermost first. -/
def AreOpen (ofTag : List (List Namespace) → Tag → Prop) (ofContent : List (List Namespace) → List Node → Prop) :
    List Opened → Prop
  | [] => True
  | o :: outer =>
    (ofTag (outer.map (·.tag.declared)) o.tag ∧ ofContent ((o :: outer).map (·.tag.declared)) o.before) ∧
      AreOpen ofTag ofContent outer

theorem AreOpen.add (h : AreOpen ofTag ofContent (o :: outer))
    (hb : ofContent ((o :: outer).map (·.tag.declared)) before) :
    AreOpen ofTag ofContent (⟨o.written, o.tag, before⟩ :: outer) :=
  ⟨⟨h.1.1, hb⟩, h.2⟩

/-- What is known of the open elements of a document and of the tokens after them is known of the element that
is read in the end. -/
theorem Entities.Carries.of_assemble (hc : e.Carries known ofTag ofContent)
    (h : assemble e opened noted found = .ok (root, noted', rest)) (ho : AreOpen ofTag ofContent opened)
    (hk : ∀ token ∈ found.takeWhile (!·.isDoctype), known token) : ofContent [] [root] := by
  induction found generalizing opened noted with
  | nil => cases opened <;> cases h
  | cons token found ih =>
    cases opened with
    | nil => cases h
    | cons o outer =>
      have hb := ho.1.2
      unfold assemble at h
      cases token with
      | doctype d => cases h
      | chars s asIs =>
        obtain ⟨ht, hk⟩ := List.forall_mem_cons.mp hk
        exact ih h (ho.add (hc.text ht hb)) hk
      | comment s =>
        obtain ⟨ht, hk⟩ := List.forall_mem_cons.mp hk
        exact ih h (ho.add (hc.comment ht hb)) hk
      | instruction target data =>
        obtain ⟨ht, hk⟩ := List.forall_mem_cons.mp hk
        exact ih h (ho.add (hc.instruction ht hb)) hk
      | reference name =>
        obtain ⟨notices, he, h⟩ := bind_eq_ok.mp h
        exact ih h (ho.add (hc.reference he hb)) (List.forall_mem_cons.mp hk).2
      | opening name written closed =>
        obtain ⟨ht, hk⟩ := List.forall_mem_cons.mp hk
        dsimp only at h
        split at h
        · cases h
        · next hd =>
          obtain ⟨⟨tag, notices⟩, htag, h⟩ := bind_eq_ok.mp h
          dsimp only at h
          have htag : ofTag ((o :: outer).map (·.tag.declared)) tag :=
            hc.tag ht (by rw [List.length_map]; exact Nat.not_le.mp hd) htag
          split at h
          · exact ih h (ho.add (hc.element htag hc.empty hb)) hk
          · exact ih h ⟨⟨htag, hc.empty⟩, ho⟩ hk
      | closing name =>
        obtain ⟨-, hk⟩ := List.forall_mem_cons.mp hk
        dsimp only at h
        split at h
        · cases outer with
          | nil =>
            cases h
            exact hc.element ho.1.1 hb hc.empty
          | cons parent further => exact ih h (ho.2.add (hc.element ho.1.1 hb ho.2.1.2)) hk
        · cases h

/-! ### Documents -/

theorem suffix_of_readProlog {d? : Option Doctype} {d : Doctype}
    (h : readProlog d? noted found = .ok (d, noted', rest)) : rest <:+ found := by
  induction found generalizing d? noted with
  | nil => cases h
  | cons token found ih =>
    unfold readProlog at h
    split at h
    · exact (ih h).trans (List.suffix_cons _ _)
    · cases h
      exact List.suffix_rfl
    · split at h
      · exact (ih h).trans (List.suffix_cons _ _)
      · cases h

/-- What comes after the root element does not change it. -/
theorem root_of_verdict {isPage : Bool} {document : Document} (h : (if rest.all isOutside then
        match verdict (noted.reverse ++ (rest.map outsideNotices).flatten) with
        | some fault => .error fault
        | none => .ok ⟨root, isPage⟩
      else .error .trailing : Except Fault Document) = .ok document) : document.root = root := by
  split at h
  · split at h
    · cases h
    · cases h
      rfl
  · cases h

/-- What is known of the tokens of every text carries over to every document that is read. -/
theorem of_read_of_carries (hc : ∀ e : Entities, e.Carries known ofTag ofContent)
    (hk : ∀ {cs found}, tokens cs = .ok found → ∀ token ∈ found, known token) {octets : List UInt8}
    {document : Document} (h : Document.read octets = .ok document) : ofContent [] [document.root] := by
  obtain ⟨⟨cs, isDamaged⟩, -, h⟩ := bind_eq_ok.mp h
  obtain ⟨document', hd, h⟩ := bind_eq_ok.mp h
  split at h
  · cases h
  cases h
  simp only [Document.ofChars, bind_eq_ok] at hd
  obtain ⟨⟨declaration, body⟩, -, found, hfound, ⟨d, noted, rest⟩, hrest, h⟩ := hd
  have hknown : ∀ token ∈ rest, known token := fun token ht =>
    hk hfound token ((suffix_of_readProlog hrest).subset ht)
  dsimp only at h
  split at h
  · obtain ⟨hopening, hknown⟩ := List.forall_mem_cons.mp hknown
    obtain ⟨⟨tag, notices⟩, htag, h⟩ := bind_eq_ok.mp h
    have htag : ofTag [] tag := (hc _).tag hopening (by decide) htag
    split at h
    · rw [root_of_verdict h]
      exact (hc ⟨d, false⟩).element htag (hc ⟨d, false⟩).empty (hc ⟨d, false⟩).empty
    · obtain ⟨⟨root, noted', rest'⟩, ha, h⟩ := bind_eq_ok.mp h
      rw [root_of_verdict h]
      exact (hc _).of_assemble ha ⟨⟨htag, (hc ⟨d, false⟩).empty⟩, trivial⟩ fun token ht =>
        hknown token ((List.takeWhile_sublist _).subset ht)
  · cases h

end ReleaseNotes.Markup
