import Mathlib.Data.List.Infix
import ReleaseNotes.Files

/-!
# Reading what was written

A path leads to a place: a list of parts that have no slash in them, perhaps after the root
(`IsPlace`). A place is read off the path that names it (`placeParts_pathOf`), and a path still leads
to the same place after more files are there (`Files.follow_of_le`). So a file that was written at a
tidy path is read from it as it was written (`Files.read_of_write`).
-/

namespace ReleaseNotes

variable {path part : String} {parts : List String} {octets : Octets}

/-! ### Parts of paths -/

theorem not_mem_of_mem_splitOn {α : Type} [BEq α] [LawfulBEq α] {a : α} {l part : List α}
    (h : part ∈ l.splitOn a) : a ∉ part := by
  induction l generalizing part with
  | nil =>
    rw [List.splitOn_nil, List.mem_singleton] at h
    exact h ▸ List.not_mem_nil
  | cons b l ih =>
    obtain ⟨first, rest, hs⟩ := List.exists_cons_of_ne_nil (List.splitOnP_ne_nil (· == a) l)
    change l.splitOn a = _ at hs
    rw [List.splitOn, List.splitOnP_cons_eq_if_modifyHead] at h
    change part ∈ ite _ ([] :: l.splitOn a) ((l.splitOn a).modifyHead (b :: ·)) at h
    split at h
    · rcases List.mem_cons.mp h with rfl | h
      · exact List.not_mem_nil
      · exact ih h
    · rename_i hb
      rw [hs, List.modifyHead_cons] at h
      rcases List.mem_cons.mp h with rfl | h
      · rw [List.mem_cons, not_or]
        exact ⟨fun hab => hb (by rw [hab, beq_self_eq_true]), ih (hs ▸ .head _)⟩
      · exact ih (hs ▸ .tail _ h)

/-- A part of a path that says something. -/
structure IsPart (part : String) : Prop where
  /-- It is not empty. -/
  ne_empty : part ≠ ""
  /-- It does not stand for the directory that it is in. -/
  ne_dot : part ≠ "."
  /-- It is one part. -/
  slash_notMem : '/' ∉ part.toList

theorem isPart_up : IsPart ".." := ⟨by decide, by decide, by decide⟩

theorem IsPart.ne_slash (h : IsPart part) : part ≠ "/" := by
  rintro rfl
  exact h.slash_notMem (.head _)

theorem isPart_of_mem_pathParts (h : part ∈ pathParts path) : IsPart part := by
  obtain ⟨hm, hne⟩ := List.mem_filter.mp h
  rw [Bool.and_eq_true, bne_iff_ne, bne_iff_ne] at hne
  refine ⟨hne.1, hne.2, fun hs => ?_⟩
  obtain ⟨cs, hcs, rfl⟩ := List.mem_map.mp hm
  rw [String.toList_ofList] at hs
  exact not_mem_of_mem_splitOn hcs hs

theorem pathParts_of_splitOn (h : ∀ part ∈ parts, IsPart part)
    (hs : path.toList.splitOn '/' = parts.map String.toList) : pathParts path = parts := by
  rw [pathParts, hs, List.map_map]
  simp only [Function.comp_def, String.ofList_toList, List.map_id']
  rw [List.filter_eq_self]
  intro part hm
  rw [Bool.and_eq_true, bne_iff_ne, bne_iff_ne]
  exact ⟨(h part hm).ne_empty, (h part hm).ne_dot⟩

theorem pathParts_intercalate (h : ∀ part ∈ parts, IsPart part) :
    pathParts ("/".intercalate parts) = parts := by
  cases parts with
  | nil => decide
  | cons part parts =>
    refine pathParts_of_splitOn h ?_
    rw [String.toList_intercalate]
    refine List.splitOn_intercalate '/' (fun cs hcs => ?_) (List.cons_ne_nil _ _)
    obtain ⟨part', hm, rfl⟩ := List.mem_map.mp hcs
    exact (h part' hm).slash_notMem

theorem pathParts_slash_append (path : String) : pathParts ("/" ++ path) = pathParts path := by
  have hs : ("/" ++ path).toList.splitOn '/' = [] :: path.toList.splitOn '/' := by
    rw [String.toList_append]
    exact List.splitOnP_cons_eq_if_modifyHead '/' path.toList
  rw [pathParts, hs]
  rfl

theorem isRooted_slash_append (path : String) : isRooted ("/" ++ path) = true := by
  rw [isRooted, String.toList_append]
  simp

theorem toList_intercalate_cons (part : String) (parts : List String) :
    ∃ rest, ("/".intercalate (part :: parts)).toList = part.toList ++ rest := by
  cases parts with
  | nil => exact ⟨[], by simp⟩
  | cons part' parts => exact ⟨'/' :: _, by simp; rfl⟩

theorem toList_intercalate_snoc (parts : List String) (part : String) :
    ∃ before, ("/".intercalate (parts ++ [part])).toList = before ++ part.toList := by
  induction parts with
  | nil => exact ⟨[], by simp⟩
  | cons part' parts ih =>
    obtain ⟨before, hb⟩ := ih
    refine ⟨(part' ++ "/").toList ++ before, ?_⟩
    rw [List.cons_append, String.intercalate_cons_of_ne_nil (List.concat_ne_nil _ _), String.toList_append, hb,
      List.append_assoc]

theorem isRooted_intercalate (h : ∀ part ∈ parts, IsPart part) :
    isRooted ("/".intercalate parts) = false := by
  cases parts with
  | nil => decide
  | cons part parts =>
    obtain ⟨rest, hr⟩ := toList_intercalate_cons part parts
    have hp := h part (.head _)
    obtain ⟨c, cs, hc⟩ : ∃ c cs, part.toList = c :: cs :=
      List.exists_cons_of_ne_nil fun hn => hp.ne_empty (String.toList_eq_nil_iff.mp hn)
    have hne : c ≠ '/' := by
      rintro rfl
      exact hp.slash_notMem (hc ▸ .head _)
    rw [isRooted, hr, hc, Bool.eq_false_iff, Ne, List.isPrefixOf_iff_prefix]
    exact fun hp => hne (List.cons_prefix_cons.mp hp).1.symm

/-- A place: some parts, perhaps after the root. -/
inductive IsPlace : List String → Prop where
  /-- Seen from the working directory. -/
  | within {parts : List String} : (∀ part ∈ parts, IsPart part) → IsPlace parts
  /-- Seen from the root. -/
  | rooted {parts : List String} : (∀ part ∈ parts, IsPart part) → IsPlace ("/" :: parts)

/-- A place is read off the path that names it. -/
theorem placeParts_pathOf (h : IsPlace parts) : placeParts (pathOf parts) = parts := by
  cases h with
  | within h =>
    have hp : pathOf parts = "/".intercalate parts := by
      cases parts with
      | nil => rfl
      | cons part parts =>
        unfold pathOf
        split
        · rename_i he
          rw [List.cons.injEq] at he
          exact absurd he.1 (h part (.head _)).ne_slash
        · rfl
    rw [placeParts, hp, isRooted_intercalate h, pathParts_intercalate h]
    rfl
  | rooted h =>
    rw [placeParts, pathOf, isRooted_slash_append, if_pos rfl, pathParts_slash_append,
      pathParts_intercalate h]

/-- Going up or down leads from one place to another one. -/
theorem IsPlace.above (h : IsPlace parts) : IsPlace (above parts) := by
  have hup {parts : List String} (h : ∀ part ∈ parts, IsPart part) :
      ∀ part ∈ parts ++ [".."], IsPart part :=
    List.forall_mem_append.mpr ⟨h, List.forall_mem_singleton.mpr isPart_up⟩
  have hdrop {parts : List String} (h : ∀ part ∈ parts, IsPart part) :
      ∀ part ∈ parts.dropLast, IsPart part := fun part hm => h part (List.mem_of_mem_dropLast hm)
  have hh := h
  unfold ReleaseNotes.above
  cases h with
  | within h =>
    split
    · exact .within (hup h)
    · exact .within (hup h)
    · exact .within h
    · exact .within (hdrop h)
  | rooted h =>
    rename_i parts
    split
    · exact .rooted (hup h)
    · exact .rooted (hup h)
    · exact .rooted h
    · cases parts with
      | nil => exact .within fun _ hm => (List.not_mem_nil hm).elim
      | cons part parts => exact .rooted (hdrop h)

theorem IsPlace.snoc (h : IsPlace parts) (hp : IsPart part) : IsPlace (parts ++ [part]) := by
  have hs {parts : List String} (h : ∀ part ∈ parts, IsPart part) : ∀ part' ∈ parts ++ [part], IsPart part' :=
    List.forall_mem_append.mpr ⟨h, List.forall_mem_singleton.mpr hp⟩
  cases h with
  | within h => exact .within (hs h)
  | rooted h => exact .rooted (hs h)

/-! ### Tidy paths -/

theorem endsInside_of_toList_eq {before : List Char} (hp : IsPart part)
    (h : path.toList = before ++ part.toList) : endsInside path = false := by
  have hs : part.toList <:+ path.toList := ⟨before, h.symm⟩
  have hn : part.toList ≠ [] := fun hn => hp.ne_empty (String.toList_eq_nil_iff.mp hn)
  have hl := List.length_pos_iff.mpr hn
  rw [endsInside, Bool.or_eq_false_iff, Bool.eq_false_iff, Bool.eq_false_iff, Ne, Ne,
    List.isSuffixOf_iff_suffix, List.isSuffixOf_iff_suffix]
  refine ⟨fun h1 => hp.slash_notMem ?_, fun h2 => ?_⟩
  · exact (List.suffix_of_suffix_length_le h1 hs hl).subset (.head _)
  · by_cases hl2 : 2 ≤ part.toList.length
    · exact hp.slash_notMem ((List.suffix_of_suffix_length_le h2 hs hl2).subset (.head _))
    · -- a single character at the end of `/.` is a dot
      have h1 : part.toList <:+ "/.".toList := List.suffix_of_suffix_length_le hs h2 (by
        have : "/.".toList.length = 2 := rfl
        omega)
      obtain ⟨c, hc⟩ := List.length_eq_one_iff.mp (by omega : part.toList.length = 1)
      obtain ⟨front, hf⟩ := h1
      rw [hc] at hf
      change front ++ [c] = ['/'] ++ ['.'] at hf
      obtain ⟨-, hdot⟩ := List.append_inj' hf rfl
      exact hp.ne_dot (String.toList_injective (hc.trans hdot))

/-- A tidy path is that of the root or one that does not end like a directory. -/
theorem tidyPath_cases (path : String) :
    tidyPath path = "/" ∨ tidyPath path ≠ "" ∧ endsInside (tidyPath path) = false := by
  have hp : ∀ part ∈ pathParts path, IsPart part := fun _ => isPart_of_mem_pathParts
  rw [tidyPath]
  rcases List.eq_nil_or_concat (pathParts path) with hn | ⟨parts, part, hl⟩
  · rw [hn]
    split
    · exact .inl rfl
    · exact .inr (by decide)
  · rw [List.concat_eq_append] at hl
    have hpart : IsPart part := hp part (hl ▸ List.mem_concat_self)
    obtain ⟨before, hb⟩ := toList_intercalate_snoc parts part
    rw [← hl] at hb
    refine .inr ?_
    split
    · have hb' : ("/" ++ "/".intercalate (pathParts path)).toList = '/' :: before ++ part.toList := by
        rw [String.toList_append, hb]
        rfl
      refine ⟨fun he => ?_, endsInside_of_toList_eq hpart hb'⟩
      rw [he] at hb'
      cases hb'
    · have hne : "/".intercalate (pathParts path) ≠ "" := fun he => by
        rw [he] at hb
        exact hpart.ne_empty (String.toList_eq_nil_iff.mp (List.append_eq_nil_iff.mp hb.symm).2)
      rw [if_neg (by rw [String.isEmpty_iff]; exact hne)]
      exact ⟨hne, endsInside_of_toList_eq hpart hb⟩

namespace Files

variable {files files' : Files} {here : List String}

/-- One set of files has all directories of another one. -/
def Le (files files' : Files) : Prop :=
  ∀ parts, files.isDirectory parts = true → files'.isDirectory parts = true

theorem isPlace_of_follow (hh : IsPlace here) {rest : List String} (hr : ∀ part ∈ rest, IsPart part)
    (h : files.follow here rest = .ok parts) : IsPlace parts := by
  induction rest generalizing here with
  | nil =>
    cases h
    exact hh
  | cons part rest ih =>
    rw [List.forall_mem_cons] at hr
    rw [follow] at h
    split at h
    · refine ih ?_ hr.2 h
      split
      · exact hh.above
      · exact hh.snoc hr.1
    · split at h <;> cases h

theorem follow_of_le (hle : files.Le files') {rest : List String}
    (h : files.follow here rest = .ok parts) : files'.follow here rest = .ok parts := by
  induction rest generalizing here with
  | nil => exact h
  | cons part rest ih =>
    rw [follow] at h ⊢
    split at h
    · rename_i hd
      rw [if_pos (hle here hd)]
      exact ih h
    · split at h <;> cases h

/-! ### Reading and writing -/

theorem place_root (h : files.place "/" = .ok parts) : parts = ["/"] := by
  have hf : files.follow (if isRooted "/" then ["/"] else []) (pathParts "/") = .ok ["/"] := rfl
  rw [place, hf] at h
  dsimp only at h
  split at h
  · cases h
  · split at h
    · cases h
    · exact (Except.ok.inj h).symm

theorem place_eq_follow (hne : path ≠ "") (he : endsInside path = false) :
    files.place path = files.follow (if isRooted path then ["/"] else []) (pathParts path) := by
  rw [place, if_neg (by rwa [String.isEmpty_iff]), he]
  cases files.follow (if isRooted path then ["/"] else []) (pathParts path) <;> rfl

theorem isPlace_of_place (h : files.place path = .ok parts) : IsPlace parts := by
  have hh : IsPlace (if isRooted path then ["/"] else []) := by
    split
    · exact .rooted fun _ hm => (List.not_mem_nil hm).elim
    · exact .within fun _ hm => (List.not_mem_nil hm).elim
  rw [place] at h
  split at h
  · cases h
  · split at h
    · cases h
    · rename_i parts' hf
      split at h
      · cases h
      · cases h
        exact isPlace_of_follow hh (fun _ => isPart_of_mem_pathParts) hf

/-- What stands at a place that was no directory before is read from the path that led there. -/
theorem read_of_le (hp : files.place (tidyPath path) = .ok parts) (hd : files.isDirectory parts = false)
    (hle : files.Le files') (hd' : files'.isDirectory parts = false)
    (hf : files'.find? parts = some octets) : files'.read (tidyPath path) = .ok octets := by
  rcases tidyPath_cases path with hr | ⟨hne, he⟩
  · rw [hr] at hp
    rw [place_root hp] at hd
    cases hd
  · rw [place_eq_follow hne he] at hp
    rw [read, place_eq_follow hne he, follow_of_le hle hp]
    simp only [hd', hf, Bool.false_eq_true, if_false]

/-- The same paths lead to the same directories. -/
theorem isDirectory_map_entries (files : Files) {f : String × Octets → String × Octets}
    (hf : ∀ e, (f e).1 = e.1) (parts : List String) :
    Files.isDirectory { files with entries := files.entries.map f } parts = files.isDirectory parts := by
  simp only [isDirectory, List.any_map, Function.comp_def, hf]

/-- What was written at a tidy path is read from it. -/
theorem read_of_write (h : files.write (tidyPath path) octets = .ok files') :
    files'.read (tidyPath path) = .ok octets := by
  rw [write] at h
  split at h
  · cases h
  · rename_i parts hp
    split at h
    · cases h
    · rename_i hd
      rw [Bool.not_eq_true] at hd
      split at h
      · rename_i hs
        cases h
        have hfst (e : String × Octets) :
            (if placeParts e.1 == parts then (e.1, octets) else e).1 = e.1 := by
          split <;> rfl
        have hdir := isDirectory_map_entries files hfst
        refine read_of_le hp hd (fun here hh => (hdir here).trans hh) ((hdir parts).trans hd) ?_
        obtain ⟨old, ho⟩ := Option.isSome_iff_exists.mp hs
        obtain ⟨e, he, -⟩ := Option.map_eq_some_iff.mp ho
        rw [find?, List.find?_map]
        simp only [Function.comp_def, hfst, he, Option.map_some]
        rw [if_pos (List.find?_some he)]
      · rename_i hs
        rw [Option.not_isSome_iff_eq_none] at hs
        cases h
        have hplace := placeParts_pathOf (isPlace_of_place hp)
        have hnone := Option.map_eq_none_iff.mp hs
        refine read_of_le hp hd (fun here hh => ?_) ?_ ?_
        · rw [isDirectory, Bool.or_eq_true] at hh ⊢
          refine hh.imp_right fun hh => ?_
          rw [List.any_append, hh, Bool.true_or]
        · rw [isDirectory, Bool.or_eq_false_iff] at hd ⊢
          refine ⟨hd.1, ?_⟩
          rw [List.any_append, hd.2]
          simp [hplace]
        · rw [find?, List.find?_append, hnone]
          simp [hplace]

end Files

end ReleaseNotes
