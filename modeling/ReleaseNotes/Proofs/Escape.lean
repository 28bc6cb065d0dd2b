import Mathlib.Tactic.SplitIfs
import ReleaseNotes.Proofs.Run
import ReleaseNotes.Terminal.Line

/-!
# Escaped texts on a terminal

A text that is escaped and stands inside of a look can always be shown, whatever it is
(`exists_message_of_look`). None of its own tags is carried out: each of them has an odd number of
backslashes in front (`partsFrom_escapedFrom`). Only the end of the look may be lost, to backslashes at the
end of the text.
-/

namespace ReleaseNotes.Terminal

variable {cs inner after closing : List Char} {b k m : Nat}

/-! ### Tags -/

/-- What may stand between the brackets of a tag. -/
def IsInner : List Char → Prop
  | [] => False
  | c :: rest => beginsTag c = true ∧ ∀ d ∈ rest, d ≠ ']' ∧ d ≠ '['

instance : DecidablePred IsInner
  | [] => .isFalse id
  | c :: rest => @instDecidableAnd (beginsTag c = true) _ inferInstance (List.decidableBAll _ rest)

theorem takeTagRest_eq_some_iff :
    takeTagRest cs = some (inner, after) ↔
      (∀ d ∈ inner, d ≠ ']' ∧ d ≠ '[') ∧ cs = inner ++ ']' :: after := by
  induction cs generalizing inner with
  | nil => simp [takeTagRest]
  | cons c rest ih =>
    rw [takeTagRest]
    by_cases hc : c = ']'
    · cases inner with
      | nil => simp [hc, eq_comm]
      | cons d inner =>
        simp only [hc, beq_self_eq_true, if_true, Option.some.injEq, Prod.mk.injEq]
        grind
    · by_cases ho : c = '['
      · cases inner with
        | nil => simp [ho]
        | cons d inner => grind
      · cases inner with
        | nil => simp [hc, ho]
        | cons d inner => simp [hc, ho, ih]; grind

theorem takeTag_eq_some_iff :
    takeTag cs = some (inner, after) ↔ IsInner inner ∧ cs = bracketed inner ++ after := by
  rw [takeTag.eq_def]
  split
  case h_1 c rest =>
    cases inner with
    | nil => simp [IsInner]
    | cons d inner =>
      by_cases hc : beginsTag c
      · simp [hc, takeTagRest_eq_some_iff, IsInner, bracketed]; grind
      · simp [hc, IsInner, bracketed]; grind
  case h_2 h =>
    constructor
    · rintro ⟨⟩
    · rintro ⟨hi, rfl⟩
      cases inner with
      | nil => cases hi
      | cons d inner => exact (h d (inner ++ ']' :: after) (by simp [bracketed])).elim

theorem IsInner.takeTag_append (h : IsInner inner) (cs : List Char) :
    takeTag (bracketed inner ++ cs) = some (inner, cs) :=
  takeTag_eq_some_iff.mpr ⟨h, rfl⟩

/-! ### Parts -/

theorem partsFrom_replicate (b m : Nat) (cs : List Char) :
    partsFrom b 0 (List.replicate m '\\' ++ cs) = partsFrom (b + m) 0 cs := by
  induction m generalizing b with
  | zero => rfl
  | succ m ih =>
    rw [List.replicate_succ, List.cons_append, partsFrom]
    simp [ih, Nat.add_comm, Nat.add_left_comm]

theorem partsFrom_passed (passed cs : List Char) :
    partsFrom 0 passed.length (passed ++ cs) = partsFrom 0 0 cs := by
  induction passed with
  | nil => rfl
  | cons c passed ih =>
    rw [List.cons_append, partsFrom]
    simpa using ih

/-- A tag is a part, with the backslashes right before it. -/
theorem IsInner.partsFrom_append (h : IsInner inner) (b : Nat) (cs : List Char) :
    partsFrom b 0 (bracketed inner ++ cs) = .tag b inner :: partsFrom 0 0 cs := by
  have ht := h.takeTag_append cs
  have hp := partsFrom_passed (inner ++ [']']) cs
  rw [bracketed, List.cons_append, List.cons_append] at ht ⊢
  rw [partsFrom, ht]
  simpa using hp

/-- A character that begins no tag is shown, after the backslashes before it. -/
theorem partsFrom_of_shown {c : Char} (hc : c ≠ '\\') (ht : takeTag (c :: cs) = none) (b : Nat) :
    partsFrom b 0 (c :: cs) = List.replicate b (.shown '\\') ++ .shown c :: partsFrom 0 0 cs := by
  rw [partsFrom, ht]
  simp [hc]

/-! ### Escaping -/

/-- How a text is escaped from some place on. -/
def escapedFrom (backslashes skip : Nat) (cs : List Char) : List Char :=
  (partsFrom backslashes skip cs).flatMap Part.escaped

theorem flatMap_escaped_backslashes (b : Nat) :
    (List.replicate b (Part.shown '\\')).flatMap Part.escaped = List.replicate b '\\' := by
  induction b with
  | zero => rfl
  | succ b ih => simp [List.replicate_succ, Part.escaped, ih]

theorem escapedFrom_nil (b k : Nat) : escapedFrom b k [] = List.replicate b '\\' := by
  rw [escapedFrom, partsFrom, flatMap_escaped_backslashes]

theorem escapedFrom_backslash (b : Nat) (cs : List Char) :
    escapedFrom b 0 ('\\' :: cs) = escapedFrom (b + 1) 0 cs := by
  rw [escapedFrom, partsFrom]
  rfl

theorem IsInner.escapedFrom_append (h : IsInner inner) (b : Nat) (cs : List Char) :
    escapedFrom b 0 (bracketed inner ++ cs) =
      List.replicate (2 * b + 1) '\\' ++ (bracketed inner ++ escapedFrom 0 0 cs) := by
  rw [escapedFrom, h.partsFrom_append, List.flatMap_cons, Part.escaped, List.append_assoc]
  rfl

theorem escapedFrom_of_shown {c : Char} (hc : c ≠ '\\') (ht : takeTag (c :: cs) = none) (b : Nat) :
    escapedFrom b 0 (c :: cs) = List.replicate b '\\' ++ c :: escapedFrom 0 0 cs := by
  rw [escapedFrom, partsFrom_of_shown hc ht, List.flatMap_append, flatMap_escaped_backslashes]
  rfl

/-- Goes through a text as it is escaped: backslashes, tags, and other characters. -/
theorem escaping_induction {motive : Nat → List Char → Prop} (nil : ∀ b, motive b [])
    (backslash : ∀ b cs, motive (b + 1) cs → motive b ('\\' :: cs))
    (tag : ∀ b inner cs, IsInner inner → motive 0 cs → motive b (bracketed inner ++ cs))
    (shown : ∀ b c cs, c ≠ '\\' → takeTag (c :: cs) = none → motive 0 cs → motive b (c :: cs))
    (b : Nat) (cs : List Char) : motive b cs := by
  induction h : cs.length using Nat.strongRecOn generalizing b cs with
  | _ n ih =>
    subst h
    cases cs with
    | nil => exact nil b
    | cons c cs =>
      by_cases hc : c = '\\'
      · subst hc
        exact backslash b cs (ih _ (by simp) _ _ rfl)
      · cases ht : takeTag (c :: cs) with
        | none => exact shown b c cs hc ht (ih _ (by simp) _ _ rfl)
        | some found =>
          obtain ⟨hi, he⟩ := takeTag_eq_some_iff.mp ht
          rw [he]
          exact tag b _ _ hi (ih _ (by rw [he]; simp [bracketed]; omega) _ _ rfl)

/-! ### No new tags -/

theorem takeTagRest_replicate_append (m : Nat) (cs : List Char) :
    takeTagRest (List.replicate m '\\' ++ cs) = none ↔ takeTagRest cs = none := by
  induction m with
  | zero => simp
  | succ m ih => simp [List.replicate_succ, takeTagRest, ih]

/-- What is no rest of a tag is none after it has been escaped, if a tag follows. -/
theorem takeTagRest_escapedFrom (m : Nat) (closing : List Char) (b : Nat) (cs : List Char)
    (h : takeTagRest cs = none) :
    takeTagRest (escapedFrom b 0 cs ++ (List.replicate m '\\' ++ bracketed closing)) = none := by
  revert h
  induction b, cs using escaping_induction with
  | nil b =>
    intro _
    rw [escapedFrom_nil, takeTagRest_replicate_append, takeTagRest_replicate_append]
    simp [bracketed, takeTagRest]
  | backslash b cs ih =>
    intro h
    rw [escapedFrom_backslash]
    exact ih (by simpa [takeTagRest] using h)
  | tag b inner cs hi ih =>
    intro _
    rw [hi.escapedFrom_append, List.append_assoc, takeTagRest_replicate_append]
    simp [bracketed, takeTagRest]
  | shown b c cs hc ht ih =>
    intro h
    rw [escapedFrom_of_shown hc ht, List.append_assoc, takeTagRest_replicate_append, List.cons_append]
    rw [takeTagRest] at h ⊢
    split_ifs at h ⊢ <;> simp_all

theorem exists_escapedFrom_succ (b : Nat) (cs : List Char) : ∃ rest, escapedFrom (b + 1) 0 cs = '\\' :: rest := by
  induction b, cs using escaping_induction with
  | nil b => exact ⟨_, by rw [escapedFrom_nil, List.replicate_succ]⟩
  | backslash b cs ih =>
    rw [escapedFrom_backslash]
    exact ih
  | tag b inner cs hi ih => exact ⟨_, by rw [hi.escapedFrom_append, List.replicate_succ, List.cons_append]⟩
  | shown b c cs hc ht ih => exact ⟨_, by rw [escapedFrom_of_shown hc ht, List.replicate_succ, List.cons_append]⟩

/-- A character that begins no tag begins none after the text has been escaped, if a tag follows. -/
theorem takeTag_escapedFrom (m : Nat) (closing : List Char) {c : Char} (hc : c ≠ '\\')
    (h : takeTag (c :: cs) = none) :
    takeTag (c :: (escapedFrom 0 0 cs ++ (List.replicate m '\\' ++ bracketed closing))) = none := by
  by_cases ho : c = '['
  · subst ho
    -- No tag begins with two brackets or with a bracket and a backslash.
    have hb (rest : List Char) : takeTag ('[' :: '\\' :: rest) = none := rfl
    cases cs with
    | nil =>
      rw [escapedFrom_nil]
      cases m with
      | zero => rfl
      | succ m => exact hb _
    | cons d cs =>
      by_cases hd : d = '\\'
      · obtain ⟨rest, hr⟩ := exists_escapedFrom_succ 0 cs
        rw [hd, escapedFrom_backslash, hr]
        exact hb _
      · cases ht : takeTag (d :: cs) with
        | some found =>
          obtain ⟨hi, he⟩ := takeTag_eq_some_iff.mp ht
          rw [he, hi.escapedFrom_append]
          exact hb _
        | none =>
          rw [escapedFrom_of_shown hd ht]
          have hr := takeTagRest_escapedFrom m closing 0 cs
          simp_all [takeTag]
  · rw [takeTag.eq_def]
    split <;> simp_all

/-- Whether a part is shown as it stands. -/
def Part.isKept : Part → Bool
  | .shown _ => true
  | .tag n _ => n % 2 == 1

/-- In an escaped text with a tag after it, that tag is the only one that may be carried out. -/
theorem partsFrom_escapedFrom (hclosing : IsInner closing) (m b : Nat) (cs : List Char) :
    ∃ before n, partsFrom 0 0 (escapedFrom b 0 cs ++ (List.replicate m '\\' ++ bracketed closing)) =
      before ++ [.tag n closing] ∧ ∀ part ∈ before, part.isKept := by
  induction b, cs using escaping_induction with
  | nil b =>
    have := hclosing.partsFrom_append (0 + b + m) []
    rw [List.append_nil] at this
    exact ⟨[], _, by rw [escapedFrom_nil, partsFrom_replicate, partsFrom_replicate, this]; rfl, by simp⟩
  | backslash b cs ih =>
    rw [escapedFrom_backslash]
    exact ih
  | tag b inner cs hi ih =>
    obtain ⟨before, n, hp, hk⟩ := ih
    refine ⟨.tag (0 + (2 * b + 1)) inner :: before, n, ?_, by simpa [Part.isKept] using hk⟩
    rw [hi.escapedFrom_append, List.append_assoc, partsFrom_replicate, List.append_assoc, hi.partsFrom_append,
      hp, List.cons_append]
  | shown b c cs hc ht ih =>
    obtain ⟨before, n, hp, hk⟩ := ih
    refine ⟨List.replicate (0 + b) (.shown '\\') ++ .shown c :: before, n, ?_, ?_⟩
    · rw [escapedFrom_of_shown hc ht, List.append_assoc, partsFrom_replicate, List.cons_append,
        partsFrom_of_shown hc (takeTag_escapedFrom m closing hc ht), hp]
      simp
    · intro part hm
      rcases List.mem_append.mp hm with hm | hm
      · rw [List.eq_of_mem_replicate hm]
        rfl
      · rcases List.mem_cons.mp hm with rfl | hm
        · rfl
        · exact hk part hm

/-! ### Looks -/

/-- A word that may stand in a tag that gives a look, and in the one that ends it. -/
structure IsLook (look : List Char) : Prop where
  inner : IsInner look
  closing : IsInner ('/' :: look)
  ends : ∃ name, afterTag [] look = .ok [name] ∧ afterTag [name] ('/' :: look) = .ok []

theorem isLook_red : IsLook "red".toList :=
  ⟨by decide, by decide, "red", rfl, rfl⟩

/-- Parts that are shown as they stand leave the tags after them to be carried out as they are. -/
theorem exists_shownFrom_append {before rest : List Part} {opened : List String}
    (h : ∀ run, ∃ runs, shownFrom opened run rest = .ok runs) (hk : ∀ part ∈ before, part.isKept)
    (run : List Char) : ∃ runs, shownFrom opened run (before ++ rest) = .ok runs := by
  induction before generalizing run with
  | nil => exact h run
  | cons part before ih =>
    have ih := ih fun p hp => hk p (.tail _ hp)
    cases part with
    | shown c => exact ih (c :: run)
    | tag n inner =>
      obtain ⟨runs, hr⟩ := ih []
      have hn : (n % 2 == 1) = true := hk _ (.head _)
      rw [List.cons_append, shownFrom, hn]
      exact ⟨_, by rw [if_pos rfl, hr]; rfl⟩

/-- The text that has begun comes first. -/
theorem exists_of_shownFrom {ps : List Part} {opened : List String} {run : List Char} {runs : List (List Char)}
    (h : shownFrom opened run ps = .ok runs) : ∃ more others, runs = (run.reverse ++ more) :: others := by
  induction ps generalizing run with
  | nil =>
    cases h
    exact ⟨[], [], by simp⟩
  | cons part ps ih =>
    cases part with
    | shown c =>
      obtain ⟨more, others, rfl⟩ := ih (show shownFrom opened (c :: run) ps = .ok runs from h)
      exact ⟨c :: more, others, by simp⟩
    | tag n inner =>
      rw [shownFrom] at h
      split at h
      · cases hr : shownFrom opened [] ps with
        | error fault =>
          rw [hr] at h
          cases h
        | ok runs =>
          rw [hr] at h
          cases h
          exact ⟨[], _, by rw [List.append_nil]⟩
      · cases ha : afterTag opened inner with
        | error fault =>
          rw [ha] at h
          cases h
        | ok opened' =>
          rw [ha] at h
          cases hr : shownFrom opened' [] ps with
          | error fault =>
            rw [ok_bind, hr] at h
            cases h
          | ok runs =>
            rw [ok_bind, hr] at h
            cases h
            exact ⟨[], _, by rw [List.append_nil]⟩

/-! ### Messages -/

/-- Whether a character is shown as it is wherever it stands. -/
def isOrdinary (c : Char) : Bool :=
  c != '[' && c != '\\' && c != '\n' && c != '\t' && !isSilent c

theorem partsFrom_of_ordinary {announcement : List Char} (h : announcement.all isOrdinary) (cs : List Char) :
    partsFrom 0 0 (announcement ++ cs) = announcement.map .shown ++ partsFrom 0 0 cs := by
  induction announcement with
  | nil => rfl
  | cons c announcement ih =>
    simp only [List.all_cons, Bool.and_eq_true, isOrdinary, bne_iff_ne] at h
    obtain ⟨⟨⟨⟨⟨ho, hc⟩, -⟩, -⟩, -⟩, hr⟩ := h
    have ht : takeTag (c :: (announcement ++ cs)) = none := by
      rw [takeTag.eq_def]
      split <;> simp_all
    rw [List.cons_append, partsFrom_of_shown hc ht, ih hr]
    rfl

theorem shownFrom_of_ordinary (opened : List String) (run announcement : List Char) (rest : List Part) :
    shownFrom opened run (announcement.map .shown ++ rest) = shownFrom opened (announcement.reverse ++ run) rest := by
  induction announcement generalizing run with
  | nil => rfl
  | cons c announcement ih =>
    rw [List.map_cons, List.cons_append, shownFrom, ih, List.reverse_cons, List.append_assoc]
    rfl

theorem dropBefore_of_ordinary {announcement : List Char} (h : announcement.all isOrdinary) (cs : List Char) :
    dropBefore (announcement ++ cs) = announcement ++ dropBefore cs := by
  induction announcement with
  | nil => rfl
  | cons c announcement ih =>
    rw [List.all_cons, Bool.and_eq_true] at h
    rw [List.cons_append, dropBefore, ih h.2]
    · rfl
    · rintro rest rfl
      simp [isOrdinary] at h

theorem expandTabs_of_ordinary {announcement : List Char} (h : announcement.all isOrdinary) (column : Nat)
    (cs : List Char) :
    ∃ after, expandTabs column (announcement ++ cs) = announcement ++ expandTabs after cs := by
  induction announcement generalizing column with
  | nil => exact ⟨column, rfl⟩
  | cons c announcement ih =>
    rw [List.all_cons, Bool.and_eq_true] at h
    obtain ⟨after, ha⟩ := ih h.2 (column + width c)
    refine ⟨after, ?_⟩
    rw [List.cons_append, expandTabs, if_neg, if_neg, ha]
    · rfl
    · rintro hc
      simp_all [isOrdinary]
    · rintro hc
      simp_all [isOrdinary]

theorem filter_of_ordinary {announcement : List Char} (h : announcement.all isOrdinary) :
    announcement.filter (!isSilent ·) = announcement := by
  rw [List.filter_eq_self]
  intro c hc
  have := List.all_eq_true.mp h c hc
  simp only [isOrdinary, Bool.and_eq_true] at this
  exact this.2

/-- A text whose tags are escaped, with any number of backslashes at its end. -/
def IsEscaped (s : String) : Prop :=
  ∃ cs m, s.toList = escapedFrom 0 0 cs ++ List.replicate m '\\'

theorem isEscaped_escaped (text : String) : IsEscaped (escaped text) := by
  have h : (escaped text).toList = if endsSingle (escapedFrom 0 0 text.toList) then
      escapedFrom 0 0 text.toList ++ ['\\'] else escapedFrom 0 0 text.toList := by
    rw [escaped, String.toList_ofList]
    rfl
  rw [IsEscaped, h]
  split
  · exact ⟨_, 1, rfl⟩
  · exact ⟨_, 0, by rw [List.replicate_zero, List.append_nil]⟩

theorem toList_inLook (look s : String) :
    (inLook look s).toList = bracketed look.toList ++ (s.toList ++ bracketed ('/' :: look.toList)) := by
  simp [inLook, bracketed]

/-- An escaped text inside of a look loses its tags without a fault. -/
theorem exists_withoutTags_of_look {look announcement text : String} (hl : IsLook look.toList)
    (ha : announcement.toList.all isOrdinary) (ht : IsEscaped text) :
    ∃ rest, withoutTags (inLook look (announcement ++ text)) =
      .ok (String.ofList (announcement.toList ++ rest)) := by
  obtain ⟨cs, m, hm⟩ := ht
  obtain ⟨name, hopens, hcloses⟩ := hl.ends
  obtain ⟨before, n, hp, hk⟩ := partsFrom_escapedFrom hl.closing m 0 cs
  have hparts : parts (inLook look (announcement ++ text)) =
      .tag 0 look.toList :: (announcement.toList.map .shown ++ (before ++ [.tag n ('/' :: look.toList)])) := by
    rw [parts, toList_inLook, hl.inner.partsFrom_append, String.toList_append, hm, List.append_assoc,
      List.append_assoc, partsFrom_of_ordinary ha, hp]
  -- The last tag ends the look, or is shown if backslashes at the end of the text have come before it.
  have hlast (run : List Char) : ∃ runs, shownFrom [name] run [.tag n ('/' :: look.toList)] = .ok runs := by
    rw [shownFrom, hcloses]
    split <;> exact ⟨_, rfl⟩
  obtain ⟨runs, hr⟩ := exists_shownFrom_append hlast hk (announcement.toList.reverse ++ [])
  obtain ⟨more, others, rfl⟩ := exists_of_shownFrom hr
  have hshown : shownFrom [] [] (parts (inLook look (announcement ++ text))) =
      .ok ([] :: [] :: (announcement.toList ++ more) :: others) := by
    rw [hparts, shownFrom, if_neg (by decide), hopens, ok_bind, shownFrom_of_ordinary, hr,
      List.append_nil, List.reverse_reverse]
    rfl
  refine ⟨dropBefore more ++ others.flatMap dropBefore, ?_⟩
  rw [withoutTags, if_neg (by simp [toList_inLook, bracketed]), hshown]
  simp [Except.map, dropBefore_of_ordinary ha, dropBefore]

/-- **An escaped text inside of a look is shown**, after ordinary characters that announce it. -/
theorem exists_message_of_look {look announcement text : String} (hl : IsLook look.toList)
    (ha : announcement.toList.all isOrdinary) (ht : IsEscaped text) :
    ∃ line, message (inLook look (announcement ++ text)) = .ok (announcement ++ line ++ "\n") := by
  obtain ⟨rest, hr⟩ := exists_withoutTags_of_look hl ha ht
  obtain ⟨after, ht⟩ := expandTabs_of_ordinary ha 0 (rest.filter (!isSilent ·))
  refine ⟨String.ofList (expandTabs after (rest.filter (!isSilent ·))), ?_⟩
  rw [message, hr, Except.map, String.toList_ofList, List.filter_append, filter_of_ordinary ha, ht,
    String.ofList_append, String.ofList_toList]

end ReleaseNotes.Terminal
