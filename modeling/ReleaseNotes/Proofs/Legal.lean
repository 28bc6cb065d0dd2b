import ReleaseNotes.Proofs.Addition
import ReleaseNotes.Proofs.Heading
import ReleaseNotes.Proofs.Nesting
import ReleaseNotes.Settings.Basic
import ReleaseNotes.Tracker.Note
import ReleaseNotes.Tracker.Report

/-!
# The text of documents

A document that is read holds no text that another document could not hold (`hasLegalText_of_read`): its
characters are checked as they are read, a reference by number stands for a character that has been
checked, and runs of text are only ever joined. So what the elements of a document say can always be put
in a pamphlet (`Node.HasLegalText.directText`).
-/

namespace ReleaseNotes.Markup

/-! ### Letters -/

/-- Whether a document can hold what a letter stands for. -/
def Letter.isLegal : Letter → Bool
  | .plain c | .coded c => Markup.isLegal c
  | .entity _ => true

theorem isLegal_of_numbered? {cs : List Char} {c : Char} (h : numbered? cs = some c) : isLegal c := by
  have hchar {n : Nat} (h : (if n.isValidChar ∧ isLegal (Char.ofNat n) then some (Char.ofNat n) else none) =
      some c) : isLegal c := by
    split at h
    · rename_i hn
      cases h
      exact hn.2
    · cases h
  unfold numbered? at h
  dsimp only at h
  split at h
  · obtain ⟨n, -, h⟩ := Option.bind_eq_some_iff.mp h
    exact hchar h
  · obtain ⟨n, -, h⟩ := Option.bind_eq_some_iff.mp h
    exact hchar h

theorem isLegal_of_mem_predefined : ∀ entry ∈ predefined, isLegal entry.2 := by decide

theorem isLegal_of_readReference {cs : List Char} {letter : Letter} (h : readReference cs = .ok letter) :
    letter.isLegal := by
  unfold readReference at h
  split at h
  · split at h
    · rename_i hc
      cases h
      exact isLegal_of_numbered? hc
    · cases h
  · split at h
    · split at h
      · rename_i hf
        cases h
        exact isLegal_of_mem_predefined _ (List.mem_of_find?_eq_some hf)
      · cases h
        rfl
    · cases h

theorem isLegal_of_readLetters {held? : Option (List Char)} {cs : List Char} {letters : List Letter}
    (h : readLetters held? cs = .ok letters) : ∀ letter ∈ letters, letter.isLegal := by
  induction cs generalizing held? letters with
  | nil =>
    unfold readLetters at h
    split at h
    · cases h
    · cases h
      nofun
  | cons c cs ih =>
    unfold readLetters at h
    split at h
    · split at h
      · obtain ⟨letter, hl, h⟩ := bind_eq_ok.mp h
        obtain ⟨more, hm, h⟩ := bind_eq_ok.mp h
        cases h
        exact List.forall_mem_cons.mpr ⟨isLegal_of_readReference hl, ih hm⟩
      · exact ih h
    · split at h
      · exact ih h
      · split at h
        · rename_i hc
          obtain ⟨more, hm, h⟩ := bind_eq_ok.mp h
          cases h
          exact List.forall_mem_cons.mpr ⟨hc, ih hm⟩
        · cases h

/-! ### Tokens -/

/-- Whether a document can hold the text of a token. -/
def Token.isLegal : Token → Bool
  | .chars s _ => isLegalText s
  | _ => true

theorem isLegalText_ofList (cs : List Char) : isLegalText (String.ofList cs) = cs.all isLegal := by
  rw [isLegalText, String.toList_ofList]

theorem isLegal_of_charTokens {run : List Char} {asIs : Bool} {letters : List Letter}
    (hr : run.all isLegal) (hl : ∀ letter ∈ letters, letter.isLegal) :
    ∀ token ∈ charTokens run asIs letters, token.isLegal := by
  have hrun (asIs : Bool) (run : List Char) (hr : run.all isLegal) :
      (Token.chars (String.ofList run.reverse) asIs).isLegal :=
    (isLegalText_ofList _).trans (List.all_reverse.trans hr)
  induction letters generalizing run asIs with
  | nil =>
    unfold charTokens
    split
    · nofun
    · exact List.forall_mem_singleton.mpr (hrun asIs run hr)
  | cons letter letters ih =>
    obtain ⟨h, hrest⟩ := List.forall_mem_cons.mp hl
    cases letter with
    | plain c | coded c => exact ih (List.all_cons.trans (Bool.and_eq_true_iff.mpr ⟨h, hr⟩)) hrest
    | entity name =>
      have hmore : ∀ token ∈ Token.reference name :: charTokens [] true letters, token.isLegal :=
        List.forall_mem_cons.mpr ⟨rfl, ih rfl hrest⟩
      unfold charTokens
      dsimp only
      split
      · exact hmore
      · exact List.forall_mem_cons.mpr ⟨hrun asIs run hr, hmore⟩

theorem isLegal_of_readText {raw : List Char} {found : List Token} (h : readText raw = .ok found) :
    ∀ token ∈ found, token.isLegal := by
  unfold readText at h
  split at h
  · cases h
  · obtain ⟨letters, hl, h⟩ := bind_eq_ok.mp h
    cases h
    exact isLegal_of_charTokens rfl (isLegal_of_readLetters hl)

theorem all_isLegal_of_readUntil {mark : String} {cs inner rest : List Char}
    (h : readUntil mark cs = .ok (inner, rest)) : inner.all isLegal := by
  unfold readUntil at h
  split at h
  · cases h
  · split at h
    · rename_i hl
      cases h
      exact hl
    · cases h

theorem isLegal_of_readLiteral {cs rest : List Char} {token : Token} (h : readLiteral cs = .ok (token, rest)) :
    token.isLegal := by
  obtain ⟨⟨inner, _⟩, hi, h⟩ := bind_eq_ok.mp h
  cases h
  exact (isLegalText_ofList inner).trans (all_isLegal_of_readUntil hi)

/-- Of what a less-than sign begins, only a literal section is text. -/
theorem isLegal_of_readMarked {cs rest : List Char} {token : Token} (h : readMarked cs = .ok (token, rest)) :
    token.isLegal := by
  unfold readMarked at h
  split at h
  · obtain ⟨_, -, h⟩ := bind_eq_ok.mp h
    obtain ⟨_, -, h⟩ := bind_eq_ok.mp h
    cases h
    rfl
  split at h
  · exact isLegal_of_readLiteral h
  split at h
  · obtain ⟨_, -, h⟩ := bind_eq_ok.mp h
    cases h
    rfl
  split at h
  · simp only [readInstruction, bind_eq_ok] at h
    obtain ⟨_, -, h⟩ := h
    split at h
    · cases h
    split at h
    · cases h
      rfl
    · simp only [bind_eq_ok] at h
      obtain ⟨_, -, _, -, h⟩ := h
      cases h
      rfl
  · obtain ⟨_, -, h⟩ := bind_eq_ok.mp h
    obtain ⟨_, -, h⟩ := bind_eq_ok.mp h
    cases h
    rfl
  · obtain ⟨_, -, h⟩ := bind_eq_ok.mp h
    obtain ⟨_, -, h⟩ := bind_eq_ok.mp h
    cases h
    rfl

/-- All text among the tokens of a text can be held by a document. -/
theorem isLegal_of_tokens {cs : List Char} {found : List Token} (h : tokens cs = .ok found) :
    ∀ token ∈ found, token.isLegal := by
  fun_induction tokens cs generalizing found with
  | case1 =>
    cases h
    nofun
  | case2 => cases h
  | case3 => cases h
  | case4 inner token rest hfirst _ more hmore ih =>
    cases h
    exact List.forall_mem_cons.mpr ⟨isLegal_of_readMarked hfirst, ih hmore⟩
  | case5 => cases h
  | case6 => cases h
  | case7 c inner _ run hrun _ more hmore ih =>
    cases h
    exact List.forall_mem_append.mpr ⟨isLegal_of_readText hrun, ih hmore⟩

/-! ### Trees -/

/-- A document could hold every run of text in a node. -/
def Node.HasLegalText (n : Node) : Prop :=
  ∀ m ∈ n.family, isLegalText m.ownText

variable {n m k : Node} {content : List Node}

theorem hasLegalText_element (tag : Tag) (h : ∀ n ∈ content, n.HasLegalText) :
    (Node.element tag content).HasLegalText := by
  rw [Node.HasLegalText, Node.family]
  exact List.forall_mem_cons.mpr ⟨rfl, forall_mem_familyOfAll_iff.mpr h⟩

theorem hasLegalText_text {s : String} (h : isLegalText s) : (Node.text s).HasLegalText := by
  rw [Node.HasLegalText, Node.family]
  exact List.forall_mem_singleton.mpr h

theorem hasLegalText_pushText {s : String} (h : ∀ n ∈ content, n.HasLegalText) (hs : isLegalText s) :
    ∀ n ∈ pushText content s, n.HasLegalText := by
  unfold pushText
  split
  · rename_i t older
    obtain ⟨ht, h⟩ := List.forall_mem_cons.mp h
    have ht : isLegalText t := ht _ (Node.mem_family _)
    refine List.forall_mem_cons.mpr ⟨hasLegalText_text ?_, h⟩
    rw [isLegalText_append, ht, hs]
    rfl
  · exact List.forall_mem_cons.mpr ⟨hasLegalText_text hs, h⟩

theorem hasLegalText_of_leaf (hf : n.family = [n]) (hn : n.ownText = "") : n.HasLegalText := by
  rw [Node.HasLegalText, hf]
  exact List.forall_mem_singleton.mpr (by rw [hn]; rfl)

theorem carries_hasLegalText (e : Entities) :
    e.Carries (Token.isLegal ·) (fun _ _ => True) fun _ content => ∀ n ∈ content, n.HasLegalText where
  empty := List.forall_mem_nil _
  text ht hb := hasLegalText_pushText hb ht
  comment _ hb := List.forall_mem_cons.mpr ⟨hasLegalText_of_leaf (by rw [Node.family]) rfl, hb⟩
  instruction _ hb := List.forall_mem_cons.mpr ⟨hasLegalText_of_leaf (by rw [Node.family]) rfl, hb⟩
  reference _ hb := List.forall_mem_cons.mpr ⟨hasLegalText_of_leaf (by rw [Node.family]) rfl, hb⟩
  tag _ _ _ := trivial
  element _ h hb :=
    List.forall_mem_cons.mpr ⟨hasLegalText_element _ fun n hn => h n (List.mem_reverse.mp hn), hb⟩

/-- **A document that is read holds legal text only.** -/
theorem hasLegalText_of_read {octets : List UInt8} {document : Document}
    (h : Document.read octets = .ok document) : document.root.HasLegalText :=
  List.forall_mem_singleton.mp (of_read_of_carries carries_hasLegalText isLegal_of_tokens h)

/-! ### What elements say -/

mutual

/-- What stands in something that stands in a node stands in that node. -/
theorem Node.family_subset (hk : k ∈ m.family) : ∀ n : Node, m ∈ n.family → k ∈ n.family
  | .element tag content, hm => by
    rw [Node.family] at hm ⊢
    obtain rfl | hm := List.mem_cons.mp hm
    · rwa [Node.family] at hk
    · exact List.mem_cons_of_mem _ (familyOfAll_subset hk content hm)
  | .text s, hm | .comment s, hm | .instruction target data, hm | .reference name, hm => by
    obtain rfl := List.mem_singleton.mp hm
    exact hk

theorem familyOfAll_subset (hk : k ∈ m.family) : ∀ content : List Node, m ∈ familyOfAll content →
    k ∈ familyOfAll content
  | [], hm => by rw [familyOfAll] at hm; exact (List.not_mem_nil hm).elim
  | n :: content, hm => by
    rw [familyOfAll] at hm ⊢
    obtain hm | hm := List.mem_append.mp hm
    · exact List.mem_append_left _ (Node.family_subset hk n hm)
    · exact List.mem_append_right _ (familyOfAll_subset hk content hm)

end

theorem isLegalText_join {texts : List String} (h : ∀ s ∈ texts, isLegalText s) :
    isLegalText (String.join texts) := by
  rw [isLegalText, String.toList_join, List.all_flatMap]
  exact List.all_eq_true.mpr h

namespace Node.HasLegalText

theorem of_mem (h : n.HasLegalText) (hm : m ∈ familyOfAll n.content) : m.HasLegalText :=
  fun _ hk => h _ (mem_familyOfAll_of_mem_content (familyOfAll_subset hk n.content hm))

theorem descendant? {label : String} (h : n.HasLegalText) (hm : n.descendant? label = some m) :
    m.HasLegalText :=
  h.of_mem (List.mem_of_find?_eq_some hm)

theorem descendants {label : String} (h : n.HasLegalText) (hm : m ∈ n.descendants label) : m.HasLegalText :=
  h.of_mem (List.mem_of_mem_filter hm)

/-- What an element says can be held by a document. -/
theorem directText (h : n.HasLegalText) : isLegalText n.directText :=
  isLegalText_join <| List.forall_mem_map.mpr fun m hm =>
    h m (mem_familyOfAll_of_mem_content (family_subset_familyOfAll hm m.mem_family))

end Node.HasLegalText

/-! ### Texts made of other texts -/

variable {s t : String}

theorem isLegalText_of_subset (h : isLegalText s) (hs : t.toList ⊆ s.toList) : isLegalText t :=
  List.all_eq_true.mpr fun c hc => List.all_eq_true.mp h c (hs hc)

theorem subset_of_mem_wordsFrom {run cs word : List Char} (h : word ∈ Text.wordsFrom run cs) :
    word ⊆ run ++ cs := by
  induction cs generalizing run with
  | nil =>
    unfold Text.wordsFrom at h
    split at h
    · cases h
    · obtain rfl := List.mem_singleton.mp h
      exact fun c hc => List.mem_append_left _ (List.mem_reverse.mp hc)
  | cons c cs ih =>
    have hrest : [] ++ cs ⊆ run ++ c :: cs :=
      List.subset_append_of_subset_right _ (List.subset_cons_self c cs)
    unfold Text.wordsFrom at h
    split at h
    · split at h
      · exact List.Subset.trans (ih h) hrest
      · obtain rfl | h := List.mem_cons.mp h
        · exact fun c hc => List.mem_append_left _ (List.mem_reverse.mp hc)
        · exact List.Subset.trans (ih h) hrest
    · refine List.Subset.trans (ih h) fun c' hc' => ?_
      simp only [List.cons_append, List.mem_cons, List.mem_append] at hc' ⊢
      tauto

theorem isLegalText_intercalate {texts : List String} (hs : isLegalText s) (h : ∀ t ∈ texts, isLegalText t) :
    isLegalText (s.intercalate texts) := by
  induction texts with
  | nil => rfl
  | cons t texts ih =>
    obtain ⟨ht, h⟩ := List.forall_mem_cons.mp h
    cases texts with
    | nil => rwa [String.intercalate_singleton]
    | cons t' texts =>
      rw [String.intercalate_cons_of_ne_nil (List.cons_ne_nil _ _), isLegalText_append, isLegalText_append, ht,
        hs, ih h]
      rfl

theorem isLegalText_joinWords (h : isLegalText s) : isLegalText (Text.joinWords s) := by
  refine isLegalText_intercalate rfl (List.forall_mem_map.mpr fun word hw => isLegalText_of_subset h ?_)
  rw [String.toList_ofList]
  exact subset_of_mem_wordsFrom hw

theorem dropWhileEnd_subset {α : Type} (p : α → Bool) (l : List α) : Text.dropWhileEnd p l ⊆ l := by
  intro a ha
  rw [Text.dropWhileEnd, List.mem_reverse] at ha
  exact List.mem_reverse.mp ((List.dropWhile_suffix p).subset ha)

theorem isLegalText_dropSlashes (h : isLegalText s) : isLegalText (Text.dropSlashes s) := by
  refine isLegalText_of_subset h ?_
  rw [Text.dropSlashes, String.toList_ofList]
  exact dropWhileEnd_subset _ _

/-- What is left of a title is legal if the title is. -/
theorem isLegalText_of_stripTitle (h : isLegalText s) (ht : Tracker.stripTitle s = .ok t) : isLegalText t := by
  unfold Tracker.stripTitle at ht
  split at ht
  · rename_i c rest hrest
    cases ht
    refine isLegalText_of_subset h ?_
    rw [String.toList_ofList]
    have hb : Tracker.dropBlank rest <:+ rest := by
      unfold Tracker.dropBlank
      split
      · split
        · exact List.suffix_cons _ _
        · exact List.suffix_rfl
      · exact List.suffix_rfl
    have hd : c :: rest <:+ s.toList := hrest ▸ List.dropWhile_suffix _
    exact ((hb.trans (List.suffix_cons c rest)).trans hd).subset
  · cases ht

end ReleaseNotes.Markup
