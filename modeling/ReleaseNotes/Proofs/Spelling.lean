import ReleaseNotes.Proofs.Legal
import ReleaseNotes.Proofs.Readable

/-!
# How names, values and references are spelled

The parts of a tag and the characters of a text are read as they were written: a name is taken whole
(`readName_append`), a mark is found where it stands first (`cutAt?_eq_some_iff`), a character is read as
it is meant however it is escaped (`IsEscape.readLetters_cons`), and so are all values in a tag
(`readAttributes_written`).
-/

namespace ReleaseNotes.Markup

variable {c : Char} {cs rest : List Char} {s : String}

/-! ### Names and marks -/

theorem exists_of_isNameText (h : isNameText s) :
    ∃ c cs, s.toList = c :: cs ∧ isNameStart c ∧ ∀ d ∈ s.toList, isNameChar d := by
  rw [isNameText, Bool.and_eq_true] at h
  obtain ⟨hs, hall⟩ := h
  cases hcs : s.toList with
  | nil =>
    rw [hcs] at hs
    cases hs
  | cons c cs =>
    rw [hcs] at hs hall
    exact ⟨c, cs, rfl, hs, List.all_eq_true.mp hall⟩

/-- A name is taken whole if what follows it cannot continue it. -/
theorem readName_append (h : isNameText s) (rest : List Char) (hr : ∀ d ∈ rest.head?, isNameChar d = false) :
    readName (s.toList ++ rest) = .ok (s, rest) := by
  obtain ⟨c, cs, hs, hc, hall⟩ := exists_of_isNameText h
  have htake : (s.toList ++ rest).takeWhile isNameChar = s.toList := by
    rw [List.takeWhile_append_of_pos hall]
    cases rest with
    | nil => exact List.append_nil _
    | cons d rest => rw [List.takeWhile_cons_of_neg (by simp [hr d rfl]), List.append_nil]
  have hdrop : (s.toList ++ rest).dropWhile isNameChar = rest := by
    rw [List.dropWhile_append_of_pos hall]
    cases rest with
    | nil => rfl
    | cons d rest => exact List.dropWhile_cons_of_neg (by simp [hr d rfl])
  rw [hs, List.cons_append] at htake hdrop
  rw [readName, hs, List.cons_append, takeName?, if_pos hc, htake, hdrop, ← hs, String.ofList_toList]

theorem needMark_append (mark : String) (rest : List Char) : needMark mark (mark.toList ++ rest) = .ok rest := by
  rw [needMark, if_pos (List.isPrefixOf_iff_prefix.mpr (List.prefix_append _ _)), ← String.length_toList,
    List.drop_left]

/-- A mark is found where it stands first. -/
theorem cutAt?_eq_some_iff {mark inner : List Char} (hm : mark ≠ []) :
    cutAt? mark cs = some (inner, rest) ↔
      cs = inner ++ (mark ++ rest) ∧ ¬ mark <:+: inner ++ mark.dropLast := by
  have hfront (inner : List Char) : inner ++ mark.dropLast <+: inner ++ (mark ++ rest) :=
    (List.prefix_append_right_inj inner).mpr ((List.dropLast_prefix mark).trans (List.prefix_append mark rest))
  have hshort : mark.dropLast.length < mark.length := by
    rw [List.length_dropLast]
    exact Nat.sub_lt (List.length_pos_iff.mpr hm) Nat.one_pos
  induction cs generalizing inner with
  | nil => simp [cutAt?, hm]
  | cons c cs ih =>
    rw [cutAt?]
    split
    · rename_i hp
      obtain ⟨tail, ht⟩ := List.isPrefixOf_iff_prefix.mp hp
      rw [← ht, List.drop_left, Option.some.injEq, Prod.mk.injEq]
      constructor
      · rintro ⟨rfl, rfl⟩
        exact ⟨rfl, fun hi => absurd hi.length_le (Nat.not_le.mpr hshort)⟩
      · rintro ⟨hcs, hi⟩
        cases inner with
        | nil => exact ⟨rfl, List.append_cancel_left hcs⟩
        | cons d inner =>
          refine absurd (List.IsPrefix.isInfix ?_) hi
          refine List.prefix_of_prefix_length_le (List.prefix_append mark tail) (hcs ▸ hfront (d :: inner)) ?_
          rw [List.length_append, List.length_cons, List.length_dropLast]
          omega
    · rename_i hp
      have hp (l : List Char) (hl : l <+: c :: cs) : ¬ mark <+: l := fun hm =>
        hp (List.isPrefixOf_iff_prefix.mpr (hm.trans hl))
      rw [Option.map_eq_some_iff]
      constructor
      · rintro ⟨⟨before, after⟩, hfound, heq⟩
        cases heq
        obtain ⟨rfl, hi⟩ := ih.mp hfound
        refine ⟨rfl, fun h => ?_⟩
        rw [List.cons_append, List.infix_cons_iff] at h
        exact h.elim (hp _ ((List.prefix_cons_inj c).mpr (hfront before))) hi
      · rintro ⟨hcs, hi⟩
        cases inner with
        | nil => exact absurd (hcs ▸ List.prefix_append mark rest) (hp _ List.prefix_rfl)
        | cons d inner =>
          rw [List.cons_append, List.cons.injEq] at hcs
          obtain ⟨rfl, hcs⟩ := hcs
          refine ⟨(inner, rest), ih.mpr ⟨hcs, fun h => hi ?_⟩, rfl⟩
          rw [List.cons_append, List.infix_cons_iff]
          exact .inr h

/-! ### Letters -/

/-- A way to write characters: each as itself or as a reference to it. The ampersand only begins
references, and none of the characters to avoid is written. -/
structure IsEscape (escape : Char → List Char) (avoided : List Char) : Prop where
  cases : ∀ c, (escape c = [c] ∧ c ≠ '&') ∨
    ∃ name, escape c = '&' :: (name ++ [';']) ∧ ';' ∉ name ∧ readReference name = .ok (.coded c)
  avoids : ∀ c, ∀ d ∈ escape c, d ∉ avoided

theorem not_mem_of_all {avoided written : List Char} (h : written.all (fun d => !avoided.contains d) = true)
    {d : Char} (hd : d ∈ written) : d ∉ avoided := by
  have := List.all_eq_true.mp h d hd
  simpa using this

theorem isEscape_text : IsEscape escapeText ['<', '>', '\r'] where
  cases c := by
    by_cases hc : c ∈ ['&', '<', '>', '\r']
    · refine .inr ?_
      simp only [List.mem_cons, List.not_mem_nil, or_false] at hc
      rcases hc with rfl | rfl | rfl | rfl
      · exact ⟨"amp".toList, rfl, by decide, rfl⟩
      · exact ⟨"lt".toList, rfl, by decide, rfl⟩
      · exact ⟨"gt".toList, rfl, by decide, rfl⟩
      · exact ⟨"#13".toList, rfl, by decide, rfl⟩
    · refine .inl ⟨?_, fun h => hc (h ▸ List.mem_cons_self)⟩
      unfold escapeText
      split <;> simp_all
  avoids c d hd := by
    unfold escapeText at hd
    split at hd
    · exact not_mem_of_all rfl hd
    · exact not_mem_of_all rfl hd
    · exact not_mem_of_all rfl hd
    · exact not_mem_of_all rfl hd
    · simp_all

theorem isEscape_value : IsEscape escapeValue ['<', '\x22', '\t', '\n', '\r'] where
  cases c := by
    by_cases hc : c ∈ ['\x22', '\t', '\n']
    · refine .inr ?_
      simp only [List.mem_cons, List.not_mem_nil, or_false] at hc
      rcases hc with rfl | rfl | rfl
      · exact ⟨"quot".toList, rfl, by decide, rfl⟩
      · exact ⟨"#9".toList, rfl, by decide, rfl⟩
      · exact ⟨"#10".toList, rfl, by decide, rfl⟩
    · have he : escapeValue c = escapeText c := by
        unfold escapeValue
        split <;> simp_all
      exact he ▸ isEscape_text.cases c
  avoids c d hd := by
    unfold escapeValue at hd
    split at hd
    · exact not_mem_of_all rfl hd
    · exact not_mem_of_all rfl hd
    · exact not_mem_of_all rfl hd
    · unfold escapeText at hd
      split at hd
      · exact not_mem_of_all rfl hd
      · exact not_mem_of_all rfl hd
      · exact not_mem_of_all rfl hd
      · exact not_mem_of_all rfl hd
      · simp_all

/-- How a character is read: as itself, or through a reference if it is written as one. -/
def letterOf (escape : Char → List Char) (c : Char) : Letter :=
  if escape c = [c] then .plain c else .coded c

section Escape

variable {escape : Char → List Char} {avoided : List Char} {more : List Letter}

theorem readLetters_held (held : List Char) {name : List Char} (hn : ';' ∉ name) {letter : Letter}
    (hl : readReference (held.reverse ++ name) = .ok letter) (hm : readLetters none rest = .ok more) :
    readLetters (some held) (name ++ ';' :: rest) = .ok (letter :: more) := by
  induction name generalizing held with
  | nil =>
    rw [List.append_nil] at hl
    rw [List.nil_append, readLetters, if_pos (beq_self_eq_true _), hl, hm]
    rfl
  | cons d name ih =>
    rw [List.mem_cons, not_or] at hn
    rw [List.cons_append, readLetters, if_neg (by simpa using Ne.symm hn.1)]
    exact ih _ hn.2 (by rwa [List.reverse_cons, List.append_assoc])

/-- A legal character is read as it is meant, however it is written. -/
theorem IsEscape.readLetters_cons (h : IsEscape escape avoided) (hc : isLegal c)
    (hm : readLetters none rest = .ok more) :
    readLetters none (escape c ++ rest) = .ok (letterOf escape c :: more) := by
  rcases h.cases c with ⟨he, ha⟩ | ⟨name, he, hn, hr⟩
  · rw [letterOf, if_pos he, he, List.singleton_append, Markup.readLetters, if_neg (by simpa using ha), if_pos hc, hm]
    rfl
  · have hne : escape c ≠ [c] := by
      rw [he]
      simp
    rw [letterOf, if_neg hne, he, List.cons_append, List.append_assoc, Markup.readLetters]
    exact readLetters_held [] hn hr hm

theorem IsEscape.readLetters (h : IsEscape escape avoided) (hcs : cs.all isLegal) :
    readLetters none (cs.flatMap escape) = .ok (cs.map (letterOf escape)) := by
  induction cs with
  | nil => rfl
  | cons c cs ih =>
    rw [List.all_cons, Bool.and_eq_true] at hcs
    rw [List.flatMap_cons, List.map_cons]
    exact h.readLetters_cons hcs.1 (ih hcs.2)

theorem IsEscape.not_mem (h : IsEscape escape avoided) {d : Char} (hd : d ∈ avoided) (cs : List Char) :
    d ∉ cs.flatMap escape := by
  intro hm
  obtain ⟨c, -, hm⟩ := List.mem_flatMap.mp hm
  exact h.avoids c d hm hd

end Escape

/-! ### Values -/

theorem piecesFrom_map_letterOf (escape : Char → List Char) (run cs : List Char) :
    piecesFrom run (cs.map (letterOf escape)) = textPieces (String.ofList (run.reverse ++ cs)) := by
  induction cs generalizing run with
  | nil =>
    rw [List.map_nil, piecesFrom, textPieces, List.append_nil]
    cases run <;> simp
  | cons c cs ih =>
    have hcons : piecesFrom (c :: run) (cs.map (letterOf escape)) =
        textPieces (String.ofList (run.reverse ++ c :: cs)) := by
      rw [ih, List.reverse_cons, List.append_assoc, List.singleton_append]
    rw [List.map_cons, letterOf]
    split
    · exact hcons
    · exact hcons

/-- A value is read as it was written. -/
theorem readValue_escaped (h : isLegalText s) : readValue (s.toList.flatMap escapeValue) = .ok (textPieces s) := by
  have hgap : (s.toList.flatMap escapeValue).map (fun c => if isGap c then ' ' else c) =
      s.toList.flatMap escapeValue := by
    refine (List.map_congr_left fun c hc => ?_).trans (List.map_id _)
    have hne (d : Char) (hd : d ∈ ['\t', '\n', '\r']) : c ≠ d := fun h =>
      isEscape_value.not_mem (List.mem_cons_of_mem _ (List.mem_cons_of_mem _ hd)) s.toList (h ▸ hc)
    rw [id_eq, ite_eq_right_iff]
    intro hg
    simp_all [isGap]
  rw [readValue, if_neg, hgap, isEscape_value.readLetters h, ok_bind, piecesFrom_map_letterOf, List.reverse_nil,
    List.nil_append, String.ofList_toList]
  rw [List.contains_iff_mem]
  exact isEscape_value.not_mem (by decide) _

/-- How a name and its value are written in a tag. -/
def writeValue (v : String × String) : List Char :=
  ' ' :: (v.1.toList ++ '=' :: '\x22' :: (v.2.toList.flatMap escapeValue ++ ['\x22']))

variable {v : String × String}

theorem isGap_eq_false_of_isNameStart (h : isNameStart c) : isGap c = false := by
  by_contra hg
  rw [Bool.not_eq_false] at hg
  have hc : c = ' ' ∨ c = '\t' ∨ c = '\n' ∨ c = '\r' := by simpa [isGap, or_assoc] using hg
  rcases hc with rfl | rfl | rfl | rfl <;> exact absurd h (by decide)

theorem skipGap_name (h : isNameText s) (rest : List Char) : skipGap (s.toList ++ rest) = s.toList ++ rest := by
  obtain ⟨c, cs, hs, hc, -⟩ := exists_of_isNameText h
  rw [hs, List.cons_append, skipGap,
    List.dropWhile_cons_of_neg (by rw [isGap_eq_false_of_isNameStart hc]; exact Bool.false_ne_true)]

/-- A name and its value are read as they were written. -/
theorem readAttribute_written (hn : isNameText v.1) (hl : isLegalText v.2) (rest : List Char) :
    readAttribute (v.1.toList ++ '=' :: '\x22' :: (v.2.toList.flatMap escapeValue ++ '\x22' :: rest)) =
      .ok ((v.1, textPieces v.2), rest) := by
  have hcut : cutAt? ['\x22'] (v.2.toList.flatMap escapeValue ++ '\x22' :: rest) =
      some (v.2.toList.flatMap escapeValue, rest) := by
    refine (cutAt?_eq_some_iff (List.cons_ne_nil _ _)).mpr ⟨rfl, fun h => ?_⟩
    rw [List.dropLast_singleton, List.append_nil] at h
    exact isEscape_value.not_mem (by decide) _ (h.subset List.mem_cons_self)
  have hname := readName_append hn ('=' :: '\x22' :: (v.2.toList.flatMap escapeValue ++ '\x22' :: rest))
    (by rintro d ⟨⟩; decide)
  have hmark : needMark "=" (skipGap ('=' :: '\x22' :: (v.2.toList.flatMap escapeValue ++ '\x22' :: rest))) =
      .ok ('\x22' :: (v.2.toList.flatMap escapeValue ++ '\x22' :: rest)) := needMark_append "=" _
  have hquote : skipGap ('\x22' :: (v.2.toList.flatMap escapeValue ++ '\x22' :: rest)) =
      '\x22' :: (v.2.toList.flatMap escapeValue ++ '\x22' :: rest) := rfl
  rw [readAttribute, hname, ok_bind]
  dsimp only
  rw [hmark, ok_bind, hquote]
  dsimp only
  rw [if_pos (show ('\x22' == '\x22' || '\x22' == '\x27') = true from rfl), hcut]
  dsimp only
  rw [readValue_escaped hl, ok_bind]

theorem readAttributes_of_end {closed : Bool} (h : cs = (if closed then "/>" else ">").toList ++ rest) :
    readAttributes cs = .ok (([], closed), rest) := by
  have hskip : skipGap cs = cs := by
    rw [h]
    cases closed <;> rfl
  rw [readAttributes.eq_def]
  cases closed with
  | false =>
    have hs : skipGap cs = '>' :: rest := hskip.trans h
    split
    · rename_i heq
      cases hs.symm.trans heq
      rfl
    · rename_i heq
      cases hs.symm.trans heq
    · rename_i hn _
      exact (hn _ hs).elim
  | true =>
    have hs : skipGap cs = '/' :: '>' :: rest := hskip.trans h
    split
    · rename_i heq
      cases hs.symm.trans heq
    · rename_i heq
      cases hs.symm.trans heq
      rfl
    · rename_i hn
      exact (hn _ hs).elim

theorem readAttributes_of_readAttribute {inner after : List Char} {found : String × List Piece}
    {others : List (String × List Piece)} {closed : Bool} (hg : cs.head?.any isGap) (hs : skipGap cs = inner)
    (hne : ∀ d ∈ inner.head?, d ≠ '>' ∧ d ≠ '/') (hf : readAttribute inner = .ok (found, after))
    (hmore : readAttributes after = .ok ((others, closed), rest)) :
    readAttributes cs = .ok ((found :: others, closed), rest) := by
  subst hs
  rw [readAttributes.eq_def]
  split
  · rename_i heq
    exact absurd rfl (hne '>' (heq ▸ rfl)).1
  · rename_i heq
    exact absurd rfl (hne '/' (heq ▸ rfl)).2
  · rw [if_pos hg]
    split
    · rename_i hfault
      cases hf.symm.trans hfault
    · rename_i hfound
      cases hf.symm.trans hfound
      rw [hmore]

/-- All values in a tag are read as they were written. -/
theorem readAttributes_written {values : List (String × String)}
    (h : ∀ v ∈ values, isNameText v.1 ∧ isLegalText v.2) (closed : Bool) (rest : List Char) :
    readAttributes (values.flatMap writeValue ++ ((if closed then "/>" else ">").toList ++ rest)) =
      .ok ((values.map fun v => (v.1, textPieces v.2), closed), rest) := by
  induction values with
  | nil => exact readAttributes_of_end rfl
  | cons v values ih =>
    obtain ⟨⟨hn, hl⟩, h⟩ := List.forall_mem_cons.mp h
    rw [List.flatMap_cons, List.map_cons, writeValue]
    simp only [List.cons_append, List.append_assoc, List.nil_append]
    refine readAttributes_of_readAttribute rfl ((List.dropWhile_cons_of_pos rfl).trans (skipGap_name hn _)) ?_
      (readAttribute_written hn hl _) (ih h)
    obtain ⟨c, cs, hs, hc, -⟩ := exists_of_isNameText hn
    rw [hs]
    rintro d ⟨⟩
    exact ⟨fun h => absurd (h ▸ hc) (by decide), fun h => absurd (h ▸ hc) (by decide)⟩

end ReleaseNotes.Markup
