import Mathlib.Data.List.Chain
import Mathlib.Data.List.Nodup
import ReleaseNotes.Proofs.Rereading
import ReleaseNotes.Proofs.Scoped

/-!
# Documents as they are read

A document that is read is sound (`isSound_of_read`), and so is whatever stands in it (`Node.IsSound.of_mem_family`).
Its text is legal. No two runs of text stand side by side in it, since a text grows the run before it. And every
name is in the namespace that its prefix stands for, since names are read under the nearest declaration of their
prefix, and no tag declares a prefix twice.
-/

namespace ReleaseNotes.Markup

variable {scope : List (List Namespace)} {n m : Node} {content : List Node} {d : Namespace} {tag : Tag}
  {outer : List Namespace}

/-! ### Names -/

theorem declaration?_eq_find? (scope : List (List Namespace)) (short? : Option String) :
    declaration? scope short? = scope.flatten.find? (·.short? == short?) :=
  List.find?_flatten.symm

theorem holdsIn_of_declaration? {short? : Option String} (hx : short? ≠ some "xml")
    (h : declaration? scope short? = some d) : d.HoldsIn scope.flatten := by
  rw [Namespace.HoldsIn, short?_of_declaration? h, holding?, if_neg hx, ← declaration?_eq_find?, h]
  rfl

theorem holdsIn_of_spaceOf? {short : String} (h : spaceOf? scope short = some d) : d.HoldsIn scope.flatten := by
  unfold spaceOf? at h
  split at h
  · cases h
    rfl
  · next hx => exact holdsIn_of_declaration? (fun he => hx (beq_iff_eq.mpr (Option.some.inj he))) h

/-- An attribute is in the namespace that its prefix stands for. -/
theorem holdsIn_of_resolveAttribute {name : String} (h : (resolveAttribute scope name).1.space? = some d) :
    d.HoldsIn scope.flatten := by
  unfold resolveAttribute at h
  split at h
  · cases h
  · split at h
    · next hs =>
      cases h
      exact holdsIn_of_spaceOf? hs
    · cases h

/-- An element is in the namespace that its prefix stands for, or its lack of one. -/
theorem holdsIn_of_resolveElement {name : String} (h : (resolveElement scope name).1.space? = some d) :
    d.HoldsIn scope.flatten := by
  unfold resolveElement at h
  split at h
  · split at h
    · next hs =>
      cases h
      exact holdsIn_of_spaceOf? hs
    · cases h
  · split at h
    · next hs =>
      dsimp only at h
      split at h
      · cases h
      · cases h
        exact holdsIn_of_declaration? (Option.some_ne_none _).symm hs
    · cases h

/-! ### Tags -/

/-- The prefix that needs no declaration is not declared. -/
theorem short?_ne_of_declare? {name : String} {pieces : List Piece} {notices : List Notice}
    (h : declare? name pieces = some (some d, notices)) : d.short? ≠ some "xml" := by
  unfold declare? at h
  dsimp only at h
  split at h
  · rw [declareDefault_eq (Option.some.inj h)]
    nofun
  · split at h
    · next short _ =>
      rintro hx
      have hshort := Option.some.inj h
      rw [declareShort_eq hshort] at hx
      rw [Option.some.inj hx, declareShort] at hshort
      rw [if_pos (beq_self_eq_true _)] at hshort
      split at hshort <;> cases hshort
    · cases h

theorem map_eq_of_mapM_eq_ok {α β γ ε : Type} {f : α → Except ε β} {g : α → γ} {k : β → γ} {l : List α} {r : List β}
    (hf : ∀ a b, f a = .ok b → g a = k b) (h : l.mapM f = .ok r) : l.map g = r.map k := by
  rw [← List.forall₂_eq_eq_eq, List.forall₂_map_left_iff, List.forall₂_map_right_iff]
  exact (mapM_eq_ok_iff_forall₂.mp h).imp hf

/-- What a tag that is read declares is written in it, each declaration under a name of its own. -/
theorem declared_of_resolveTag {e : Entities} {name : String} {written : List (String × List Piece)}
    {notices : List Notice} (h : resolveTag e scope name written = .ok (tag, notices)) :
    (tag.declared.map Namespace.written).Nodup ∧ ∀ d ∈ tag.declared, d.short? ≠ some "xml" := by
  unfold resolveTag at h
  split at h
  · cases h
  · next hn =>
    obtain ⟨explained, he, h⟩ := bind_eq_ok.mp h
    have hnames : explained.map Prod.fst = written.map Prod.fst := by
      refine (map_eq_of_mapM_eq_ok (fun v b hb => ?_) he).symm
      obtain ⟨⟨pieces, notices⟩, -, hb⟩ := bind_eq_ok.mp hb
      cases hb
      rfl
    cases h
    dsimp only
    rw [List.filterMap_filterMap]
    constructor
    · have hsublist : ((explained.filterMap fun v => (declare? v.1 v.2.1).bind Prod.fst).map
          Namespace.written).Sublist ((explained.filter fun _ => true).map Prod.fst) := by
        refine map_sublist_of_filterMap fun v d hd => ⟨rfl, ?_⟩
        obtain ⟨⟨d?, notices⟩, hv, rfl⟩ := Option.bind_eq_some_iff.mp hd
        exact (written_of_declare? hv).1
      rw [List.filter_true, hnames] at hsublist
      exact hsublist.nodup (firstRepeated?_eq_none_iff.mp hn)
    · intro d hd
      obtain ⟨v, -, hd⟩ := List.mem_filterMap.mp hd
      obtain ⟨⟨d?, notices⟩, hv, rfl⟩ := Option.bind_eq_some_iff.mp hd
      exact short?_ne_of_declare? hv

/-- The names of a tag that is read are in the namespaces that their prefixes stand for. -/
theorem spaces_of_resolveTag {e : Entities} {name : String} {written : List (String × List Piece)}
    {notices : List Notice} (h : resolveTag e scope name written = .ok (tag, notices)) :
    ∀ d ∈ tag.spaces, d.HoldsIn (tag.declared ++ scope.flatten) := by
  unfold resolveTag at h
  split at h
  · cases h
  obtain ⟨explained, -, h⟩ := bind_eq_ok.mp h
  cases h
  intro d hd
  change d.HoldsIn (List.flatten (_ :: scope))
  rcases List.mem_append.mp hd with hd | hd
  · exact holdsIn_of_resolveElement (Option.mem_toList.mp hd)
  · obtain ⟨a, ha, hd⟩ := List.mem_filterMap.mp hd
    obtain ⟨resolved, hr, rfl⟩ := List.mem_map.mp ha
    obtain ⟨v, -, rfl⟩ := List.mem_map.mp hr
    exact holdsIn_of_resolveAttribute hd

theorem isScoped_of_resolveTag {e : Entities} {name : String} {written : List (String × List Piece)}
    {notices : List Notice} (h : resolveTag e scope name written = .ok (tag, notices)) :
    tag.IsScoped scope.flatten := by
  obtain ⟨hdistinct, hfree⟩ := declared_of_resolveTag h
  refine ⟨?_, ?_, spaces_of_resolveTag h⟩
  · have hwritten : tag.declared.map Namespace.written =
        (tag.declared.map Namespace.short?).map fun short? => (short?.map ("xmlns:" ++ ·)).getD "xmlns" := by
      rw [List.map_map]
      rfl
    rw [hwritten] at hdistinct
    exact hdistinct.of_map _
  · intro hx
    obtain ⟨d, hd, hshort⟩ := List.mem_map.mp hx
    exact hfree d hd hshort

/-! ### Trees -/

/-- No two runs of text stand side by side. -/
def AreApart (content : List Node) : Prop :=
  content.IsChain fun m n => ¬ (m.isText ∧ n.isText)

/-- A node as documents have it when they are read, inside of some declarations. -/
structure Node.IsSound (outer : List Namespace) (n : Node) : Prop where
  /-- A document can hold all of its text. -/
  legal : n.HasLegalText
  /-- Its names are in the namespaces that their prefixes stand for. -/
  names : n.IsScoped outer
  /-- No two runs of text in it stand side by side. -/
  apart : ∀ m ∈ n.family, AreApart m.content

theorem areApart_cons (h : AreApart content) (hn : n.isText = false) : AreApart (n :: content) :=
  List.isChain_cons.mpr ⟨fun _ _ ht => Bool.false_ne_true (hn.symm.trans ht.1), h⟩

theorem areApart_pushText (h : AreApart content) (s : String) : AreApart (pushText content s) := by
  unfold pushText
  split
  · obtain ⟨hfirst, hrest⟩ := List.isChain_cons.mp h
    exact List.isChain_cons.mpr ⟨hfirst, hrest⟩
  · next hnot =>
    refine List.isChain_cons.mpr ⟨fun m hm ht => ?_, h⟩
    obtain ⟨rest, rfl⟩ := List.head?_eq_some_iff.mp hm
    cases m with
    | text t => exact hnot t rest rfl
    | _ => exact Bool.false_ne_true ht.2

theorem isSound_leaf (hf : n.family = [n]) (hs : isLegalText n.ownText) (hn : n.IsScoped outer)
    (hc : n.content = []) : n.IsSound outer where
  legal := by
    rw [Node.HasLegalText, hf]
    exact List.forall_mem_singleton.mpr hs
  names := hn
  apart := by
    rw [hf]
    exact List.forall_mem_singleton.mpr (hc ▸ .nil)

theorem isSound_text {s : String} (hs : isLegalText s) : (Node.text s).IsSound outer :=
  isSound_leaf (by rw [Node.family]) hs trivial rfl

theorem isSound_element (ht : tag.IsScoped outer) (ha : AreApart content)
    (hc : ∀ n ∈ content, n.IsSound (tag.declared ++ outer)) : (Node.element tag content).IsSound outer where
  legal := hasLegalText_element tag fun n hn => (hc n hn).legal
  names := by
    rw [Node.IsScoped]
    exact ⟨ht, areScoped_iff.mpr fun n hn => (hc n hn).names⟩
  apart := by
    rw [Node.family]
    exact List.forall_mem_cons.mpr ⟨ha, forall_mem_familyOfAll_iff.mpr fun n hn => (hc n hn).apart⟩

theorem carries_isSound (e : Entities) :
    e.Carries (Token.isLegal ·) (fun scope tag => tag.IsScoped scope.flatten)
      fun scope content => AreApart content ∧ ∀ n ∈ content, n.IsSound scope.flatten where
  empty := ⟨.nil, List.forall_mem_nil _⟩
  text ht hb := by
    refine ⟨areApart_pushText hb.1 _, fun n hn => ?_⟩
    have hlegal := hasLegalText_pushText (fun n hn => (hb.2 n hn).legal) ht n hn
    unfold pushText at hn
    split at hn
    · rcases List.mem_cons.mp hn with rfl | hn
      · exact isSound_text (hlegal _ (Node.mem_family _))
      · exact hb.2 n (List.mem_cons_of_mem _ hn)
    · rcases List.mem_cons.mp hn with rfl | hn
      · exact isSound_text (hlegal _ (Node.mem_family _))
      · exact hb.2 n hn
  comment _ hb := ⟨areApart_cons hb.1 rfl,
    List.forall_mem_cons.mpr ⟨isSound_leaf (by rw [Node.family]) rfl trivial rfl, hb.2⟩⟩
  instruction _ hb := ⟨areApart_cons hb.1 rfl,
    List.forall_mem_cons.mpr ⟨isSound_leaf (by rw [Node.family]) rfl trivial rfl, hb.2⟩⟩
  reference _ hb := ⟨areApart_cons hb.1 rfl,
    List.forall_mem_cons.mpr ⟨isSound_leaf (by rw [Node.family]) rfl trivial rfl, hb.2⟩⟩
  tag _ _ h := isScoped_of_resolveTag h
  element ht hc hb := by
    refine ⟨areApart_cons hb.1 rfl, List.forall_mem_cons.mpr ⟨isSound_element ht ?_ ?_, hb.2⟩⟩
    · exact List.isChain_reverse.mpr (hc.1.imp fun m n h ht => h ⟨ht.2, ht.1⟩)
    · exact fun n hn => hc.2 n (List.mem_reverse.mp hn)

/-- **A document that is read is sound.** -/
theorem isSound_of_read {octets : List UInt8} {document : Document} (h : Document.read octets = .ok document) :
    document.root.IsSound [] :=
  List.forall_mem_singleton.mp (of_read_of_carries carries_isSound isLegal_of_tokens h).2

mutual

theorem Node.IsScoped.exists_of_mem_family : ∀ (n : Node) {outer : List Namespace}, n.IsScoped outer →
    m ∈ n.family → ∃ inner, m.IsScoped inner
  | .element tag content, outer, h, hm => by
    rw [Node.family, List.mem_cons] at hm
    rcases hm with rfl | hm
    · exact ⟨outer, h⟩
    · rw [Node.IsScoped] at h
      exact AreScoped.exists_of_mem_familyOfAll content h.2 hm
  | .text _, outer, h, hm | .comment _, outer, h, hm | .instruction _ _, outer, h, hm
  | .reference _, outer, h, hm => by
    rw [Node.family, List.mem_singleton] at hm
    exact ⟨outer, hm ▸ h⟩

theorem AreScoped.exists_of_mem_familyOfAll : ∀ (content : List Node) {outer : List Namespace},
    AreScoped outer content → m ∈ familyOfAll content → ∃ inner, m.IsScoped inner
  | [], _, _, hm => by
    rw [familyOfAll] at hm
    cases hm
  | n :: content, _, h, hm => by
    rw [AreScoped] at h
    rw [familyOfAll, List.mem_append] at hm
    rcases hm with hm | hm
    · exact Node.IsScoped.exists_of_mem_family n h.1 hm
    · exact AreScoped.exists_of_mem_familyOfAll content h.2 hm

end

/-- Whatever stands in a sound node is sound. -/
theorem Node.IsSound.of_mem_family (h : n.IsSound outer) (hm : m ∈ n.family) : ∃ inner, m.IsSound inner := by
  obtain ⟨inner, hs⟩ := Node.IsScoped.exists_of_mem_family n h.names hm
  exact ⟨inner, fun k hk => h.legal k (Node.family_subset hk n hm), hs,
    fun k hk => h.apart k (Node.family_subset hk n hm)⟩

/-- What is found below a sound node is a sound element. -/
theorem Node.IsSound.of_descendant? {label : String} (h : n.IsSound outer) (hm : n.descendant? label = some m) :
    ∃ tag held inner, m = .element tag held ∧ (Node.element tag held).IsSound inner := by
  obtain ⟨inner, hs⟩ := h.of_mem_family (mem_familyOfAll_of_mem_content (List.mem_of_find?_eq_some hm))
  have hn : m.isNamed label := List.find?_some hm
  cases m with
  | element tag held => exact ⟨tag, held, inner, rfl, hs⟩
  | _ => cases hn

end ReleaseNotes.Markup
