import Mathlib.Data.List.TakeDrop
import ReleaseNotes.Proofs.Spelling

/-!
# What is read is proper

Whatever the reader takes for a name is a name (`isNameText_of_readName`), and so for all other parts of a
text: each token that is read could be written again and read as the same (`Token.IsRead`), up to the
document type, after which entities may be declared (`isRead_of_tokens`).
-/

namespace ReleaseNotes.Markup

variable {cs inner rest : List Char} {s : String}

/-! ### Names, marks and gaps -/

theorem isNameText_of_readName (h : readName cs = .ok (s, rest)) : isNameText s ∧ rest <:+ cs := by
  unfold readName takeName? at h
  cases cs with
  | nil => cases h
  | cons c cs =>
    dsimp only at h
    by_cases hc : isNameStart c
    · rw [if_pos hc] at h
      cases h
      refine ⟨?_, List.dropWhile_suffix _⟩
      rw [isNameText, String.toList_ofList, List.takeWhile_cons_of_pos (isNameChar_of_isNameStart hc),
        List.head?_cons, Option.any_some, hc, Bool.true_and, List.all_cons, isNameChar_of_isNameStart hc,
        Bool.true_and]
      exact List.all_takeWhile
    · rw [if_neg hc] at h
      cases h

theorem suffix_of_needMark {mark : String} (h : needMark mark cs = .ok rest) : rest <:+ cs := by
  unfold needMark at h
  split at h
  · cases h
    exact List.drop_suffix _ _
  · cases h

theorem suffix_skipGap (cs : List Char) : skipGap cs <:+ cs :=
  List.dropWhile_suffix _

theorem head_skipGap {c : Char} (h : c ∈ (skipGap cs).head?) : isGap c = false := by
  have := List.head?_dropWhile_not isGap cs
  rw [skipGap, Option.mem_def] at h
  rwa [h] at this

theorem suffix_of_needGap (h : needGap cs = .ok rest) : rest <:+ cs ∧ ∀ c ∈ rest.head?, isGap c = false := by
  unfold needGap at h
  split at h
  · split at h
    · cases h
      exact ⟨(suffix_skipGap _).trans (List.suffix_cons _ _), fun c => head_skipGap⟩
    · cases h
  · cases h

theorem readUntil_eq_ok {mark : String} {m : List Char} (hmark : mark.toList = m) (hm : m ≠ [])
    (h : readUntil mark cs = .ok (inner, rest)) :
    cs = inner ++ (m ++ rest) ∧ ¬ m <:+: inner ++ m.dropLast ∧ inner.all isLegal := by
  unfold readUntil at h
  rw [hmark] at h
  split at h
  · cases h
  · rename_i hcut
    split at h
    · rename_i hl
      cases h
      obtain ⟨hcs, hu⟩ := (cutAt?_eq_some_iff hm).mp hcut
      exact ⟨hcs, hu, hl⟩
    · cases h

/-! ### Values -/

/-- A value as it is read: if it refers to no entity it is a legal text. -/
def IsReadValue (pieces : List Piece) : Prop :=
  pieces.all Piece.isChars → ∃ s, isLegalText s ∧ pieces = textPieces s

theorem isReadValue_piecesFrom {letters : List Letter} (hl : ∀ letter ∈ letters, letter.isLegal)
    {run : List Char} (hr : run.all isLegal) : IsReadValue (piecesFrom run letters) := by
  have hrun {run : List Char} (hr : run.all isLegal) : isLegalText (String.ofList run.reverse) :=
    (isLegalText_ofList _).trans (List.all_reverse.trans hr)
  induction letters generalizing run with
  | nil =>
    intro _
    refine ⟨String.ofList run.reverse, hrun hr, ?_⟩
    rw [piecesFrom, textPieces]
    cases run <;> simp
  | cons letter letters ih =>
    obtain ⟨h, hrest⟩ := List.forall_mem_cons.mp hl
    cases letter with
    | plain c | coded c =>
      rw [piecesFrom]
      exact ih hrest (List.all_cons.trans (Bool.and_eq_true_iff.mpr ⟨h, hr⟩))
    | entity name =>
      intro hp
      rw [piecesFrom] at hp
      split at hp
      · cases hp
      · rw [List.all_cons, List.all_cons, Bool.and_eq_true, Bool.and_eq_true] at hp
        cases hp.2.1

theorem isReadValue_of_readValue {raw : List Char} {pieces : List Piece} (h : readValue raw = .ok pieces) :
    IsReadValue pieces := by
  unfold readValue at h
  split at h
  · cases h
  · obtain ⟨letters, hletters, h⟩ := bind_eq_ok.mp h
    cases h
    exact isReadValue_piecesFrom (isLegal_of_readLetters hletters) rfl

theorem readAttribute_eq_ok {found : String × List Piece} (h : readAttribute cs = .ok (found, rest)) :
    isNameText found.1 ∧ IsReadValue found.2 ∧ rest <:+ cs := by
  obtain ⟨⟨name, afterName⟩, hname, h⟩ := bind_eq_ok.mp h
  obtain ⟨afterMark, hmark, h⟩ := bind_eq_ok.mp h
  obtain ⟨hname, hsuffix⟩ := isNameText_of_readName hname
  have hsuffix : skipGap afterMark <:+ cs :=
    (suffix_skipGap _).trans ((suffix_of_needMark hmark).trans ((suffix_skipGap _).trans hsuffix))
  split at h
  · rename_i quote more heq
    rw [heq] at hsuffix
    split at h
    · split at h
      · rename_i raw after hcut
        obtain ⟨pieces, hpieces, h⟩ := bind_eq_ok.mp h
        cases h
        obtain ⟨hmore, -⟩ := (cutAt?_eq_some_iff (List.cons_ne_nil _ _)).mp hcut
        refine ⟨hname, isReadValue_of_readValue hpieces, ?_⟩
        rw [hmore] at hsuffix
        exact ((List.suffix_append _ _).trans (List.suffix_append _ _)).trans
          ((List.suffix_cons _ _).trans hsuffix)
      · cases h
    · cases h
  · cases h

theorem readAttributes_eq_ok {found : List (String × List Piece)} {closed : Bool}
    (h : readAttributes cs = .ok ((found, closed), rest)) :
    (∀ a ∈ found, isNameText a.1 ∧ IsReadValue a.2) ∧ rest <:+ cs := by
  fun_induction readAttributes cs generalizing found closed rest with
  | case1 cs more inside =>
    cases h
    exact ⟨List.forall_mem_nil _, (List.suffix_cons _ _).trans (inside ▸ suffix_skipGap cs)⟩
  | case2 cs more inside =>
    cases h
    exact ⟨List.forall_mem_nil _,
      ((List.suffix_cons _ _).trans (List.suffix_cons _ _)).trans (inside ▸ suffix_skipGap cs)⟩
  | case3 => cases h
  | case4 => cases h
  | case5 cs _ first after others closed' rest' hmore _ _ hfirst _ ih =>
    cases h
    obtain ⟨hname, hvalue, hafter⟩ := readAttribute_eq_ok hfirst
    obtain ⟨hothers, hrest⟩ := ih hmore
    exact ⟨List.forall_mem_cons.mpr ⟨⟨hname, hvalue⟩, hothers⟩,
      hrest.trans (hafter.trans (suffix_skipGap cs))⟩
  | case6 => cases h

/-! ### What a less-than sign begins -/

/-- A token other than a document type, as it is read from a text without carriage returns. -/
def Token.IsRead : Token → Prop
  | .opening name attributes _ => isNameText name ∧ ∀ a ∈ attributes, isNameText a.1 ∧ IsReadValue a.2
  | .chars s _ => isLegalText s
  | .comment s => IsCommentText s
  | .instruction target data => IsInstructionText target data
  | .closing _ => True
  | .reference _ => True
  | .doctype _ => True

theorem not_mem_of_suffix {a : Char} {l l' : List Char} (h : l' <:+ l) (ha : a ∉ l) : a ∉ l' :=
  fun hm => ha (h.subset hm)

theorem readComment_eq_ok {token : Token} (hr : '\r' ∉ cs) (h : readComment cs = .ok (token, rest)) :
    token.IsRead ∧ rest <:+ cs := by
  obtain ⟨⟨inner, after⟩, hinner, h⟩ := bind_eq_ok.mp h
  obtain ⟨after', hmark, h⟩ := bind_eq_ok.mp h
  cases h
  obtain ⟨rfl, hu, hl⟩ := readUntil_eq_ok (show "--".toList = ['-', '-'] from rfl) (List.cons_ne_nil _ _) hinner
  have hcomment : IsCommentText (String.ofList inner) :=
    ⟨(isLegalText_ofList inner).trans hl, by
      rw [String.toList_ofList]
      exact fun hm => hr (List.mem_append_left _ hm), by rwa [String.toList_ofList]⟩
  exact ⟨hcomment, (suffix_of_needMark hmark).trans
    ((List.suffix_append _ _).trans (List.suffix_append _ _))⟩

theorem readInstruction_eq_ok {token : Token} (hr : '\r' ∉ cs) (h : readInstruction cs = .ok (token, rest)) :
    token.IsRead ∧ rest <:+ cs := by
  simp only [readInstruction, bind_eq_ok] at h
  obtain ⟨⟨target, after⟩, htarget, h⟩ := h
  obtain ⟨hname, hafter⟩ := isNameText_of_readName htarget
  split at h
  · cases h
  rename_i hfree
  have hfree : target ≠ "xml" := by simpa using hfree
  split at h
  · cases h
    have hempty : IsInstructionText target "" :=
      ⟨hname, hfree, rfl, by decide, by decide, fun _ h => by cases h⟩
    exact ⟨hempty, (List.drop_suffix _ _).trans hafter⟩
  · simp only [bind_eq_ok] at h
    obtain ⟨afterGap, hgap, ⟨data, afterData⟩, hdata, h⟩ := h
    cases h
    obtain ⟨hsuffix, hhead⟩ := suffix_of_needGap hgap
    obtain ⟨rfl, hu, hl⟩ := readUntil_eq_ok (show "?>".toList = ['?', '>'] from rfl) (List.cons_ne_nil _ _) hdata
    have hinstruction : IsInstructionText target (String.ofList data) :=
      ⟨hname, hfree, (isLegalText_ofList data).trans hl, by
        rw [String.toList_ofList]
        exact fun hm => hr ((hsuffix.trans hafter).subset (List.mem_append_left _ hm)),
        by rwa [String.toList_ofList], by
        rw [String.toList_ofList]
        intro c hc
        refine hhead c ?_
        cases data with
        | nil => cases hc
        | cons d data => exact hc⟩
    exact ⟨hinstruction, ((List.suffix_append _ _).trans (List.suffix_append _ _)).trans (hsuffix.trans hafter)⟩

theorem readLiteral_eq_ok {token : Token} (h : readLiteral cs = .ok (token, rest)) :
    token.IsRead ∧ rest <:+ cs := by
  obtain ⟨⟨inner, after⟩, hinner, h⟩ := bind_eq_ok.mp h
  cases h
  obtain ⟨rfl, -, hl⟩ :=
    readUntil_eq_ok (show "]]>".toList = [']', ']', '>'] from rfl) (List.cons_ne_nil _ _) hinner
  exact ⟨(isLegalText_ofList inner).trans hl, (List.suffix_append _ _).trans (List.suffix_append _ _)⟩

theorem readClosing_eq_ok {token : Token} (h : readClosing cs = .ok (token, rest)) :
    token.IsRead ∧ rest <:+ cs := by
  obtain ⟨⟨name, after⟩, hname, h⟩ := bind_eq_ok.mp h
  obtain ⟨after', hmark, h⟩ := bind_eq_ok.mp h
  cases h
  exact ⟨trivial, (suffix_of_needMark hmark).trans ((suffix_skipGap _).trans (isNameText_of_readName hname).2)⟩

theorem readOpening_eq_ok {token : Token} (h : readOpening cs = .ok (token, rest)) :
    token.IsRead ∧ rest <:+ cs := by
  obtain ⟨⟨name, after⟩, hname, h⟩ := bind_eq_ok.mp h
  obtain ⟨⟨⟨attributes, closed⟩, after'⟩, hattributes, h⟩ := bind_eq_ok.mp h
  cases h
  obtain ⟨hname, hafter⟩ := isNameText_of_readName hname
  obtain ⟨hvalues, hrest⟩ := readAttributes_eq_ok hattributes
  exact ⟨⟨hname, hvalues⟩, hrest.trans hafter⟩

/-- What a less-than sign begins is read for a proper token, unless it is a document type. -/
theorem readMarked_eq_ok {token : Token} (hr : '\r' ∉ cs) (h : readMarked cs = .ok (token, rest)) :
    (∃ d, token = .doctype d) ∨ (token.IsRead ∧ rest <:+ cs) := by
  unfold readMarked at h
  split at h
  · obtain ⟨ht, hs⟩ := readComment_eq_ok (not_mem_of_suffix (List.drop_suffix 3 cs) hr) h
    exact .inr ⟨ht, hs.trans (List.drop_suffix 3 cs)⟩
  split at h
  · obtain ⟨ht, hs⟩ := readLiteral_eq_ok h
    exact .inr ⟨ht, hs.trans (List.drop_suffix 8 cs)⟩
  split at h
  · obtain ⟨⟨d, after⟩, -, h⟩ := bind_eq_ok.mp h
    cases h
    exact .inl ⟨d, rfl⟩
  split at h
  · obtain ⟨ht, hs⟩ := readInstruction_eq_ok (not_mem_of_suffix (List.suffix_cons _ _) hr) h
    exact .inr ⟨ht, hs.trans (List.suffix_cons _ _)⟩
  · obtain ⟨ht, hs⟩ := readClosing_eq_ok h
    exact .inr ⟨ht, hs.trans (List.suffix_cons _ _)⟩
  · exact .inr (readOpening_eq_ok h)

/-! ### Tokens -/

theorem mem_charTokens {token : Token} {run : List Char} {asIs : Bool} {letters : List Letter}
    (h : token ∈ charTokens run asIs letters) :
    (∃ s asIs, token = .chars s asIs) ∨ ∃ name, token = .reference name := by
  induction letters generalizing run asIs with
  | nil =>
    unfold charTokens at h
    split at h
    · cases h
    · exact .inl ⟨_, _, List.mem_singleton.mp h⟩
  | cons letter letters ih =>
    cases letter with
    | plain c | coded c => exact ih h
    | entity name =>
      unfold charTokens at h
      dsimp only at h
      split at h
      · exact (List.mem_cons.mp h).elim (fun h => .inr ⟨_, h⟩) ih
      · rcases List.mem_cons.mp h with h | h
        · exact .inl ⟨_, _, h⟩
        · exact (List.mem_cons.mp h).elim (fun h => .inr ⟨_, h⟩) ih

theorem readText_eq_ok {raw : List Char} {found : List Token} (h : readText raw = .ok found) :
    ∀ token ∈ found, token.isDoctype = false ∧ token.IsRead := by
  intro token ht
  have hlegal := isLegal_of_readText h token ht
  unfold readText at h
  split at h
  · cases h
  · obtain ⟨letters, -, h⟩ := bind_eq_ok.mp h
    cases h
    rcases mem_charTokens ht with ⟨s, asIs, rfl⟩ | ⟨name, rfl⟩
    · exact ⟨rfl, hlegal⟩
    · exact ⟨rfl, trivial⟩

/-- The tokens of a text without carriage returns are proper up to its document type. -/
theorem isRead_of_tokens {found : List Token} (hr : '\r' ∉ cs) (h : tokens cs = .ok found) :
    ∀ token ∈ found.takeWhile (!·.isDoctype), token.IsRead := by
  fun_induction tokens cs generalizing found with
  | case1 =>
    cases h
    exact List.forall_mem_nil _
  | case2 => cases h
  | case3 => cases h
  | case4 inner token rest hfirst _ more hmore ih =>
    cases h
    rcases readMarked_eq_ok (not_mem_of_suffix (List.suffix_cons _ _) hr) hfirst with ⟨d, rfl⟩ | ⟨ht, hs⟩
    · exact List.forall_mem_nil _
    · have hrest := ih (not_mem_of_suffix (hs.trans (List.suffix_cons _ _)) hr) hmore
      rw [List.takeWhile_cons]
      split
      · exact List.forall_mem_cons.mpr ⟨ht, hrest⟩
      · exact List.forall_mem_nil _
  | case5 => cases h
  | case6 => cases h
  | case7 c inner _ run hrun _ more hmore ih =>
    cases h
    have hread := readText_eq_ok hrun
    have hrest := ih (not_mem_of_suffix ((List.dropWhile_suffix _).trans (List.suffix_cons _ _)) hr) hmore
    rw [List.takeWhile_append_of_pos fun token ht => by rw [(hread token ht).1]; rfl]
    exact List.forall_mem_append.mpr ⟨fun token ht => (hread token ht).2, hrest⟩

end ReleaseNotes.Markup
