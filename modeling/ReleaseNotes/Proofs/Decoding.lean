import ReleaseNotes.Markup.Document
import ReleaseNotes.Pamphlet.Basic
import ReleaseNotes.Proofs.Run

/-!
# Octets and line ends

What is written for a text is read as that text (`readUtf8_utf8`), and reading a document makes its line
ends one. So a document that begins with the line that says that it is XML is decoded to what was written,
its line ends made one (`decode_written`).
-/

namespace ReleaseNotes.Text

/-! ### Octets -/

/-- A number between two others is one as an octet, too. -/
theorem le_ofNat_lt (least n most : Nat) (h : least ≤ n) (h' : n < most) (hm : most < 256) :
    UInt8.ofNat least ≤ UInt8.ofNat n ∧ UInt8.ofNat n < UInt8.ofNat most := by
  have hoctet {k : Nat} (hk : k < 256) : (UInt8.ofNat k).toNat = k := UInt8.toNat_ofNat_of_lt' hk
  rw [UInt8.le_iff_toNat_le, UInt8.lt_iff_toNat_lt, hoctet (by omega), hoctet (by omega), hoctet hm]
  exact ⟨h, h'⟩

theorem toNat_ofNat_sub {n least : Nat} (h : n + least < 256) : (UInt8.ofNat (n + least)).toNat - least = n := by
  rw [UInt8.toNat_ofNat_of_lt' h, Nat.add_sub_cancel]

theorem continuation?_ofNat {n : Nat} (h : n < 64) : continuation? (UInt8.ofNat (n + 128)) = some n := by
  have hn : (0x80 : UInt8) ≤ UInt8.ofNat (n + 128) ∧ UInt8.ofNat (n + 128) < (0xC0 : UInt8) :=
    le_ofNat_lt 128 _ 192 (by omega) (by omega) (by omega)
  rw [continuation?, if_pos hn, show (0x80 : Nat) = 128 from rfl, toNat_ofNat_sub (by omega)]

theorem pair?_eq_none {a b : UInt8} (h : 0xE0 ≤ a) : pair? a b = none := by
  rw [pair?, if_neg]
  exact fun hn => absurd hn.2 (UInt8.not_lt.mpr h)

theorem triple?_eq_none {a b c : UInt8} (h : 0xF0 ≤ a) : triple? a b c = none := by
  rw [triple?, if_neg]
  exact fun hn => absurd hn.2 (UInt8.not_lt.mpr h)

variable {c : Char}

theorem scalar?_toNat {least : Nat} (h : least ≤ c.toNat) : scalar? least c.toNat = some c := by
  rw [scalar?, if_pos ⟨h, c.valid⟩, Char.ofNat_toNat]

theorem pair?_encoded (h : 0x80 ≤ c.toNat) (h' : c.toNat < 0x800) :
    pair? (UInt8.ofNat (c.toNat / 64 % 32 + 192)) (UInt8.ofNat (c.toNat % 64 + 128)) = some c := by
  have ha : (0xC0 : UInt8) ≤ UInt8.ofNat (c.toNat / 64 % 32 + 192) ∧
      UInt8.ofNat (c.toNat / 64 % 32 + 192) < (0xE0 : UInt8) :=
    le_ofNat_lt 192 _ 224 (by omega) (by omega) (by omega)
  rw [pair?, if_pos ha, continuation?_ofNat (by omega), show (0xC0 : Nat) = 192 from rfl,
    toNat_ofNat_sub (by omega), Option.bind_eq_bind, Option.bind_some,
    show c.toNat / 64 % 32 * 64 + c.toNat % 64 = c.toNat by omega, scalar?_toNat h]

theorem triple?_encoded (h : 0x800 ≤ c.toNat) (h' : c.toNat < 0x10000) :
    triple? (UInt8.ofNat (c.toNat / 4096 % 16 + 224)) (UInt8.ofNat (c.toNat / 64 % 64 + 128))
      (UInt8.ofNat (c.toNat % 64 + 128)) = some c := by
  have ha : (0xE0 : UInt8) ≤ UInt8.ofNat (c.toNat / 4096 % 16 + 224) ∧
      UInt8.ofNat (c.toNat / 4096 % 16 + 224) < (0xF0 : UInt8) :=
    le_ofNat_lt 224 _ 240 (by omega) (by omega) (by omega)
  rw [triple?, if_pos ha, continuation?_ofNat (by omega), continuation?_ofNat (by omega),
    show (0xE0 : Nat) = 224 from rfl, toNat_ofNat_sub (by omega)]
  simp only [Option.bind_eq_bind, Option.bind_some]
  rw [show (c.toNat / 4096 % 16 * 64 + c.toNat / 64 % 64) * 64 + c.toNat % 64 = c.toNat by omega, scalar?_toNat h]

theorem quadruple?_encoded (h : 0x10000 ≤ c.toNat) :
    quadruple? (UInt8.ofNat (c.toNat / 262144 % 8 + 240)) (UInt8.ofNat (c.toNat / 4096 % 64 + 128))
      (UInt8.ofNat (c.toNat / 64 % 64 + 128)) (UInt8.ofNat (c.toNat % 64 + 128)) = some c := by
  have hc : c.toNat < 0x110000 := by
    have := c.valid
    simp only [UInt32.isValidChar, Nat.isValidChar] at this
    show c.val.toNat < _
    omega
  have ha : (0xF0 : UInt8) ≤ UInt8.ofNat (c.toNat / 262144 % 8 + 240) ∧
      UInt8.ofNat (c.toNat / 262144 % 8 + 240) < (0xF8 : UInt8) :=
    le_ofNat_lt 240 _ 248 (by omega) (by omega) (by omega)
  rw [quadruple?, if_pos ha, continuation?_ofNat (by omega), continuation?_ofNat (by omega),
    continuation?_ofNat (by omega), show (0xF0 : Nat) = 240 from rfl, toNat_ofNat_sub (by omega)]
  simp only [Option.bind_eq_bind, Option.bind_some]
  rw [show ((c.toNat / 262144 % 8 * 64 + c.toNat / 4096 % 64) * 64 + c.toNat / 64 % 64) * 64 + c.toNat % 64 =
    c.toNat by omega, scalar?_toNat h]

/-- What is written for a character is read as that character. -/
theorem readUtf8_encoded (c : Char) (rest : List UInt8) :
    readUtf8 (String.utf8EncodeChar c ++ rest) = some c :: readUtf8 rest := by
  have hlead {n : Nat} (h : 128 ≤ n) (hn : n < 255) : ¬ UInt8.ofNat n < (0x80 : UInt8) :=
    UInt8.not_lt.mpr (le_ofNat_lt 128 n (n + 1) h (Nat.lt_succ_self n) (by omega)).1
  rw [String.utf8EncodeChar]
  simp only [show c.val.toNat = c.toNat from rfl]
  split
  · have ha : UInt8.ofNat c.toNat < (0x80 : UInt8) := (le_ofNat_lt 0 _ 128 (Nat.zero_le _) (by omega) (by omega)).2
    rw [List.singleton_append, readUtf8.eq_def]
    dsimp only
    rw [if_pos ha, UInt8.toNat_ofNat_of_lt' (by omega : c.toNat < 256), Char.ofNat_toNat]
  split
  · rw [List.cons_append, List.singleton_append, readUtf8.eq_def]
    dsimp only
    rw [if_neg (hlead (by omega) (by omega)), pair?_encoded (by omega) (by omega)]
  split
  · rw [List.cons_append, List.cons_append, List.singleton_append, readUtf8.eq_def]
    dsimp only
    rw [if_neg (hlead (by omega) (by omega)),
      pair?_eq_none (le_ofNat_lt 224 _ 255 (by omega) (by omega) (by omega)).1]
    dsimp only
    rw [triple?_encoded (by omega) (by omega)]
  · have ha : (0xF0 : UInt8) ≤ UInt8.ofNat (c.toNat / 262144 % 8 + 240) :=
      (le_ofNat_lt 240 _ 255 (by omega) (by omega) (by omega)).1
    rw [List.cons_append, List.cons_append, List.cons_append, List.singleton_append, readUtf8.eq_def]
    dsimp only
    rw [if_neg (hlead (by omega) (by omega)), pair?_eq_none (UInt8.le_trans (by decide) ha)]
    dsimp only
    rw [triple?_eq_none ha]
    dsimp only
    rw [quadruple?_encoded (by omega)]

/-- What is written for a text is read as that text. -/
theorem readUtf8_utf8 (cs : List Char) : readUtf8 (utf8 cs) = cs.map some := by
  induction cs with
  | nil => rw [utf8, List.flatMap_nil, readUtf8, List.map_nil]
  | cons c cs ih => rw [utf8, List.flatMap_cons, readUtf8_encoded, ← utf8, ih, List.map_cons]

/-! ### Line ends -/

theorem unifyLines_cons (h : c ≠ '\r') (rest : List Char) : unifyLines (c :: rest) = c :: unifyLines rest := by
  rw [unifyLines.eq_def]
  split
  · exact absurd (List.cons.inj ‹_›).1 h
  · exact absurd (List.cons.inj ‹_›).1 h
  · rename_i heq
    rw [(List.cons.inj heq).1, (List.cons.inj heq).2]
  · cases ‹_›

theorem unifyLines_append {cs : List Char} (h : '\r' ∉ cs) (rest : List Char) :
    unifyLines (cs ++ rest) = cs ++ unifyLines rest := by
  induction cs with
  | nil => rfl
  | cons c cs ih =>
    rw [List.mem_cons, not_or] at h
    rw [List.cons_append, unifyLines_cons (Ne.symm h.1), ih h.2, List.cons_append]

/-- No carriage return is left when line ends have been made one. -/
theorem not_mem_unifyLines (cs : List Char) : '\r' ∉ unifyLines cs := by
  fun_induction unifyLines cs with
  | case1 rest ih => simpa using ih
  | case2 rest _ ih => simpa using ih
  | case3 c rest _ hc ih =>
    rw [List.mem_cons, not_or]
    exact ⟨fun h => hc h.symm, ih⟩
  | case4 => exact List.not_mem_nil

end ReleaseNotes.Text

namespace ReleaseNotes.Markup

/-! ### The first line of a document -/

/-- The line that a document begins with says how it is written. -/
theorem readDeclaration_xmlLine (rest : List Char) :
    readDeclaration (xmlLine.toList ++ rest) = .ok (⟨some "utf-8", false⟩, '\n' :: rest) :=
  rfl

theorem detect_written (cs : List Char) :
    Encoding.detect (Text.utf8 (xmlLine.toList ++ cs)) = .ok (.utf8, Text.utf8 (xmlLine.toList ++ cs)) := by
  have hplain : (Text.utf8 (xmlLine.toList ++ cs)).map (fun b => Char.ofNat b.toNat) =
      xmlLine.toList ++ (Text.utf8 cs).map (fun b => Char.ofNat b.toNat) := by
    rw [Text.utf8, List.flatMap_append, List.map_append]
    rfl
  have hname : Encoding.named? "utf-8" = some .utf8 := by decide +kernel
  obtain ⟨more, hm⟩ : ∃ more, Text.utf8 (xmlLine.toList ++ cs) = 0x3C :: 0x3F :: more := ⟨_, rfl⟩
  rw [hm] at hplain ⊢
  rw [Encoding.detect.eq_def]
  split
  case h_6 =>
    dsimp only
    rw [hplain, readDeclaration_xmlLine]
    dsimp only
    rw [hname]
  -- each of the other marks has an octet that is not written
  all_goals simp_all

/-- **A document that is written is decoded as it was written**, its line ends made one. -/
theorem decode_written (cs : List Char) :
    decode (Text.utf8 (xmlLine.toList ++ cs)) = .ok (xmlLine.toList ++ Text.unifyLines cs, false) := by
  have hlines : '\r' ∉ xmlLine.toList := by decide +kernel
  have hread : (xmlLine.toList ++ cs).map ((·.getD '\uFFFD') ∘ some) = xmlLine.toList ++ cs := List.map_id _
  have hwhole : ((xmlLine.toList ++ cs).map some).any Option.isNone = false :=
    List.any_eq_false.mpr fun _ h => by
      obtain ⟨c, -, rfl⟩ := List.mem_map.mp h
      exact Bool.false_ne_true
  rw [decode, detect_written, ok_bind]
  dsimp only
  rw [Encoding.read, Text.readUtf8_utf8, List.map_map, hread, hwhole, Text.unifyLines_append hlines]

end ReleaseNotes.Markup
