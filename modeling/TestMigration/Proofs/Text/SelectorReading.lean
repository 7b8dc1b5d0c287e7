import TestMigration.Text.Quoted
import TestMigration.Text.Selector
/-!
# Selectors are read back

A value pasted into a selector is escaped, and the browser reads it by the rules of CSS Syntax,
level 3. Here are these rules as far as they concern identifiers and strings. Read by them, an
escaped value is one identifier or one string, and gives the value again (`escaped_read_back`).

The reader never looks past an escape written by its code point, since a blank ends it. So the
characters of a value can be read one by one, whatever follows them; only the start of an identifier
needs its first two characters.
-/

namespace TestMigration.Text

variable {c : Char}

/-! ### Reading by the rules of CSS -/

/-- Whether an identifier may start with a character as it stands. -/
def startsName (c : Char) : Bool := 0x80 ≤ c.toNat || c == '_' || c.isAlpha

/-- Whether an identifier may go on with a character as it stands. -/
def inName (c : Char) : Bool := startsName c || c == '-' || c.isDigit

def isNewline (c : Char) : Bool := c == '\n' || c == '\r' || c == '\x0c'

/-- Whether a backslash before a text escapes something: all but a newline. -/
def escapes (cs : List Char) : Bool := !cs.head?.any isNewline

/-- The character of a code point; null and what is no character are replaced. -/
def charOf (n : Nat) : Char := if (Char.ofNat n).toNat = 0 then '�' else Char.ofNat n

/-- At most so many hexadecimal digits, behind those already read. -/
def takeHex : Nat → Nat → List Char → Nat × List Char
  | k + 1, n, c :: rest =>
    match digitIn? 16 c with
    | some d => takeHex k (n * 16 + d) rest
    | none => (n, c :: rest)
  | _, n, cs => (n, cs)

/-- A text without the blank that it may start with. -/
def dropBlank : List Char → List Char
  | c :: rest => if isNewline c || c == '\t' || c == ' ' then rest else c :: rest
  | [] => []

/-- What a backslash escapes: up to six digits of a code point and a blank, or one other
character. -/
def takeEscape : List Char → Char × List Char
  | [] => ('�', [])
  | c :: rest =>
    if (digitIn? 16 c).isSome then
      (charOf (takeHex 6 0 (c :: rest)).1, dropBlank (takeHex 6 0 (c :: rest)).2)
    else (c, rest)

theorem length_takeHex_le (k n : Nat) (cs : List Char) : (takeHex k n cs).2.length ≤ cs.length := by
  fun_induction takeHex k n cs with
  | case1 k n c _ d _ ih => exact Nat.le_succ_of_le ih
  | case2 => exact Nat.le_refl _
  | case3 => exact Nat.le_refl _

theorem length_dropBlank_le (cs : List Char) : (dropBlank cs).length ≤ cs.length := by
  unfold dropBlank
  split
  · split <;> simp
  · simp

theorem length_takeEscape_le (cs : List Char) : (takeEscape cs).2.length ≤ cs.length := by
  unfold takeEscape
  split
  · simp
  · split
    · exact Nat.le_trans (length_dropBlank_le _) (length_takeHex_le ..)
    · exact Nat.le_succ _

/-- The characters of a name, and what is left behind them. -/
def takeName : List Char → List Char × List Char
  | [] => ([], [])
  | c :: rest =>
    if c = '\\' ∧ escapes rest then
      ((takeEscape rest).1 :: (takeName (takeEscape rest).2).1, (takeName (takeEscape rest).2).2)
    else if inName c then (c :: (takeName rest).1, (takeName rest).2)
    else ([], c :: rest)
termination_by cs => cs.length
decreasing_by all_goals first | exact Nat.lt_succ_of_le (length_takeEscape_le _) | simp

/-- Whether a text starts with an escape, or a character of a name but no digit or hyphen. -/
def opensName : List Char → Bool
  | c :: rest => startsName c || c == '\\' && escapes rest
  | [] => false

/-- Whether a text starts with an identifier: as above, or with a hyphen before that or before
another hyphen. -/
def startsIdentifier (cs : List Char) : Bool :=
  opensName cs || cs.head? == some '-' && (cs.tail.head? == some '-' || opensName cs.tail)

def takeIdentifier (cs : List Char) : Option (List Char × List Char) :=
  if startsIdentifier cs then some (takeName cs) else none

/-- A string up to its mark, and what is left; none if the text or the line ends before. An escaped
newline goes on with the next line. -/
def takeString (mark : Char) : List Char → Option (List Char × List Char)
  | [] => none
  | c :: rest =>
    if c = mark then some ([], rest)
    else if isNewline c then none
    else if c = '\\' then
      if escapes rest then
        (takeString mark (takeEscape rest).2).map (Prod.map ((takeEscape rest).1 :: ·) id)
      else takeString mark (rest.drop 1)
    else (takeString mark rest).map (Prod.map (c :: ·) id)
termination_by cs => cs.length
decreasing_by
  · exact Nat.lt_succ_of_le (length_takeEscape_le _)
  · simp only [List.length_drop, List.length_cons]; omega
  · simp

def takeStringToken : List Char → Option (List Char × List Char)
  | c :: rest => if c = '"' ∨ c = '\'' then takeString c rest else none
  | [] => none

/-! ### Characters -/

/-- What comes back for a character: null has no escape and is replaced. -/
def readable (c : Char) : Char := if c.toNat = 0 then '�' else c

theorem readable_of_ne (h : c.toNat ≠ 0) : readable c = c := if_neg h

theorem readable_eq_hyphen (h : readable c = '-') : c = '-' := by
  unfold readable at h
  split at h
  · exact absurd h (by decide)
  · exact h

/-- The digits of a code point below 128 are read as it. -/
theorem takeHex_toDigits : ∀ n < 128, 0 < n → takeHex 6 0 (Nat.toDigits 16 n) = (n, []) ∧
    (Nat.toDigits 16 n).head?.any fun c => (digitIn? 16 c).isSome && !isNewline c := by
  decide +kernel

/-- A blank ends the digits. -/
theorem takeHex_append_blank {k n v : Nat} {ds : List Char} (h : takeHex k n ds = (v, []))
    (rest : List Char) : takeHex k n (ds ++ ' ' :: rest) = (v, ' ' :: rest) := by
  fun_induction takeHex k n ds with
  | case1 k n c ds d hd ih => rw [List.cons_append, takeHex, hd]; exact ih h
  | case2 => cases h
  | case3 k n ds _ =>
    cases h
    cases k <;> rfl

theorem charOf_toNat (c : Char) : charOf c.toNat = readable c := by
  simp [charOf, readable]

theorem takeEscape_plain (h : digitIn? 16 c = none) (rest : List Char) :
    takeEscape (c :: rest) = (c, rest) := by
  rw [takeEscape, if_neg (by simp [h])]

/-- What is read as a character behind a backslash, whatever follows. -/
def Escapes (w : List Char) (c : Char) : Prop :=
  ∀ rest, escapes (w ++ rest) = true ∧ takeEscape (w ++ rest) = (readable c, rest)

theorem isNewline_of_not_isControl (h : isControl c = false) : isNewline c = false := by
  refine Bool.eq_false_iff.2 fun hc => ?_
  simp only [isNewline, Bool.or_eq_true, beq_iff_eq] at hc
  obtain (rfl | rfl) | rfl := hc <;> exact absurd h (by decide)

/-- A character that is written by its code point. -/
theorem hexEscape_escapes (h : 0 < c.toNat ∧ c.toNat < 128) :
    ∃ w, hexEscape c = '\\' :: w ∧ Escapes w c := by
  refine ⟨Nat.toDigits 16 c.toNat ++ [' '], rfl, fun rest => ?_⟩
  obtain ⟨hn, hd⟩ := takeHex_toDigits c.toNat h.2 h.1
  have hrest := takeHex_append_blank hn rest
  rw [List.append_assoc, List.singleton_append]
  cases hds : Nat.toDigits 16 c.toNat with
  | nil => simp [hds] at hd
  | cons d =>
    rw [hds] at hd hrest
    simp only [List.head?_cons, Option.any_some, Bool.and_eq_true] at hd
    rw [List.cons_append] at hrest ⊢
    refine ⟨hd.2, ?_⟩
    rw [takeEscape, if_pos hd.1, hrest, charOf_toNat]
    rfl

/-- A character is escaped by itself unless it would be read as a digit or a line end. -/
theorem escapes_self (h0 : c.toNat ≠ 0) (hc : isControl c = false)
    (hd : digitIn? 16 c = none) : Escapes [c] c := by
  intro _
  refine ⟨?_, ?_⟩
  · simp [escapes, isNewline_of_not_isControl hc]
  · rw [List.singleton_append, takeEscape_plain hd, readable_of_ne h0]

theorem isControl_bounds (h : isControl c = true) : 0 < c.toNat ∧ c.toNat < 128 := by
  simp only [isControl, Bool.or_eq_true, Bool.and_eq_true, decide_eq_true_eq, beq_iff_eq] at h
  omega

/-- Both ways of escaping replace null and write a control character by its code point. -/
theorem written_cases {P : Char → Prop} {plain : List Char} (hnull : P '�')
    (hplain : c.toNat ≠ 0 → isControl c = false →
      (plain = [c] ∧ P c) ∨ ∃ w, plain = '\\' :: w ∧ Escapes w c) :
    let written := if c.toNat == 0 then ['�'] else if isControl c then hexEscape c else plain
    (written = [readable c] ∧ P (readable c)) ∨ ∃ w, written = '\\' :: w ∧ Escapes w c := by
  intro written
  by_cases h0 : c.toNat = 0
  · simpa [written, readable, h0] using hnull
  simp only [written, readable_of_ne h0, beq_iff_eq, h0]
  cases hc : isControl c with
  | true => exact .inr (hexEscape_escapes (isControl_bounds hc))
  | false => exact hplain h0 hc

theorem isDigit_bounds (h : c.isDigit = true) : 0 < c.toNat ∧ c.toNat < 128 := by
  have h9 : 48 ≤ c.toNat ∧ c.toNat ≤ 57 := by
    simpa [Char.isDigit, UInt32.le_iff_toNat_le] using h
  omega

theorem isIdentifierChar_eq (c : Char) : isIdentifierChar c = inName c := by
  simp only [isIdentifierChar, inName, startsName, Char.isAlphanum]
  ac_rfl

/-- A digit in base sixteen belongs to a name. -/
theorem digitIn?_of_not_inName (h : inName c = false) : digitIn? 16 c = none := by
  simp only [inName, startsName, Bool.or_eq_false_iff] at h
  obtain ⟨⟨⟨-, halpha⟩, -⟩, hd⟩ := h
  obtain ⟨hu, hl⟩ : c.isUpper = false ∧ c.isLower = false := Bool.or_eq_false_iff.mp halpha
  have hv : digitValue? c = none := by
    rw [digitValue?, if_neg (by simp [hd]), if_neg, if_neg]
    · rintro ⟨hA, hF⟩
      exact of_decide_eq_false hu ⟨hA, UInt32.le_trans hF (by decide)⟩
    · rintro ⟨ha, hf⟩
      have hlower : c.isLower = true :=
        Bool.and_eq_true_iff.mpr
          ⟨decide_eq_true ha, decide_eq_true (UInt32.le_trans hf (by decide))⟩
      rw [hl] at hlower
      cases hlower
  rw [digitIn?, hv]
  rfl

/-! ### Identifiers -/

/-- A character of an identifier stands as it is read, and is no leading digit, or is escaped. -/
theorem identifierChar_cases (leading : Bool) (c : Char) :
    (identifierChar leading c = [readable c] ∧ inName (readable c) ∧
      (leading = true → (readable c).isDigit = false)) ∨
    ∃ w, identifierChar leading c = '\\' :: w ∧ Escapes w c := by
  refine written_cases (P := fun c => inName c ∧ (leading = true → c.isDigit = false))
    (by decide +revert) ?_
  intro h0 hc
  split
  · next hd => exact .inr (hexEscape_escapes (isDigit_bounds (by simp_all)))
  next hd =>
  rw [isIdentifierChar_eq]
  split
  · next hn => exact .inl ⟨rfl, hn, fun hl => by simpa [hl] using hd⟩
  · next hn =>
    exact .inr ⟨[c], rfl, escapes_self h0 hc (digitIn?_of_not_inName (by simpa using hn))⟩

theorem takeName_escape {w : List Char} (h : Escapes w c) (rest : List Char) :
    takeName ('\\' :: (w ++ rest)) = (readable c :: (takeName rest).1, (takeName rest).2) := by
  obtain ⟨he, hr⟩ := h rest
  rw [takeName, if_pos ⟨rfl, he⟩, hr]

theorem takeName_inName (h : inName c = true) (rest : List Char) :
    takeName (c :: rest) = (c :: (takeName rest).1, (takeName rest).2) := by
  have hc : c ≠ '\\' := by
    rintro rfl
    exact absurd h (by decide)
  rw [takeName, if_neg (fun hb => hc hb.1), if_pos h]

theorem takeName_identifierChar (leading : Bool) (c : Char) (rest : List Char) :
    takeName (identifierChar leading c ++ rest)
      = (readable c :: (takeName rest).1, (takeName rest).2) := by
  obtain ⟨hw, hn, -⟩ | ⟨w, hw, he⟩ := identifierChar_cases leading c
  · rw [hw, List.singleton_append, takeName_inName hn]
  · rw [hw, List.cons_append, takeName_escape he]

theorem takeName_flatMap (cs : List Char) :
    takeName (cs.flatMap (identifierChar false)) = (cs.map readable, []) := by
  induction cs with
  | nil => simp [takeName]
  | cons c cs ih => rw [List.flatMap_cons, takeName_identifierChar, ih, List.map_cons]

theorem takeName_cssIdentifier (cs : List Char) :
    takeName (cssIdentifier cs) = (cs.map readable, []) := by
  fun_cases cssIdentifier cs with
  | case1 => simp [takeName]
  | case2 =>
    have h : Escapes ['-'] '-' := escapes_self (by decide) (by decide) (by decide)
    exact (takeName_escape h []).trans (by simp [takeName])
  | case3 c rest =>
    rw [List.cons_append, takeName_inName (by decide), takeName_identifierChar, takeName_flatMap]
    rfl
  | case4 c rest => rw [takeName_identifierChar, takeName_flatMap, List.map_cons]

/-- A leading character starts an identifier, or is a hyphen. -/
theorem opensName_leading (c : Char) (rest : List Char) :
    opensName (identifierChar true c ++ rest) = true ∨ identifierChar true c = ['-'] ∧ c = '-' := by
  obtain ⟨hw, hn, hd⟩ | ⟨w, hw, he⟩ := identifierChar_cases true c
  · have hs : startsName (readable c) = true ∨ readable c = '-' := by
      simpa [inName, hd rfl] using hn
    obtain hs | hs := hs
    · exact .inl (by simp [hw, opensName, hs])
    · exact .inr ⟨by rw [hw, hs], readable_eq_hyphen hs⟩
  · exact .inl (by simp [hw, opensName, (he rest).1])

theorem startsIdentifier_cssIdentifier {cs : List Char} (h : cs ≠ []) :
    startsIdentifier (cssIdentifier cs) = true := by
  fun_cases cssIdentifier cs with
  | case1 => exact absurd rfl h
  | case2 => decide
  | case3 c rest =>
    obtain hs | ⟨hw, -⟩ := opensName_leading c (rest.flatMap (identifierChar false))
    · simp [startsIdentifier, hs]
    · simp [startsIdentifier, hw]
  | case4 c rest hone hmore =>
    obtain hs | ⟨-, rfl⟩ := opensName_leading c (rest.flatMap (identifierChar false))
    · simp [startsIdentifier, hs]
    -- A hyphen has been taken care of by the cases before.
    · cases rest with
      | nil => exact (hone rfl rfl).elim
      | cons d rest => exact (hmore d rest rfl rfl).elim

/-! ### Strings -/

theorem cssStringChar_cases (c : Char) :
    (cssStringChar c = [readable c] ∧ readable c ≠ '"' ∧ readable c ≠ '\\' ∧
      isNewline (readable c) = false) ∨
    ∃ w, cssStringChar c = '\\' :: w ∧ Escapes w c := by
  refine written_cases (P := fun c => c ≠ '"' ∧ c ≠ '\\' ∧ isNewline c = false) (by decide) ?_
  intro h0 hc
  split
  · next hq =>
    refine .inr ⟨[c], rfl, escapes_self h0 hc ?_⟩
    simp only [Bool.or_eq_true, beq_iff_eq] at hq
    obtain rfl | rfl := hq <;> decide
  · next hq =>
    simp only [Bool.or_eq_true, beq_iff_eq, not_or] at hq
    exact .inl ⟨rfl, hq.1, hq.2, isNewline_of_not_isControl hc⟩

theorem takeString_cssStringChar (c : Char) (rest : List Char) :
    takeString '"' (cssStringChar c ++ rest)
      = (takeString '"' rest).map (Prod.map (readable c :: ·) id) := by
  obtain ⟨hw, hq, hb, hn⟩ | ⟨w, hw, he⟩ := cssStringChar_cases c
  · rw [hw, List.singleton_append, takeString, if_neg hq, if_neg (by simp [hn]), if_neg hb]
  · obtain ⟨hs, hr⟩ := he rest
    rw [hw, List.cons_append, takeString, if_neg (by decide), if_neg (by decide), if_pos rfl,
      if_pos hs, hr]

theorem takeString_cssString (cs rest : List Char) :
    takeString '"' (cssString cs ++ '"' :: rest) = some (cs.map readable, rest) := by
  induction cs with
  | nil => rw [cssString, List.flatMap_nil, List.nil_append, takeString]; rfl
  | cons c cs ih =>
    rw [cssString] at ih ⊢
    rw [List.flatMap_cons, List.append_assoc, takeString_cssStringChar, ih]
    rfl

/-- **Escaped values are read back.** By the rules of CSS, an escaped value is one whole identifier,
unless it is empty, and between double quotes one whole string. Both give the value, in which only
the null character is replaced. -/
theorem escaped_read_back (s : String) :
    (s ≠ "" → takeIdentifier (escapeFor (some .identifier) s).toList
      = some (s.toList.map readable, [])) ∧
    takeStringToken ('"' :: (escapeFor (some .string) s).toList ++ ['"'])
      = some (s.toList.map readable, []) ∧
    ('\x00' ∉ s.toList → s.toList.map readable = s.toList) := by
  refine ⟨fun hs => ?_, ?_, fun h0 => ?_⟩
  · have hne : s.toList ≠ [] := by simpa using hs
    rw [escapeFor, String.toList_ofList, takeIdentifier,
      if_pos (startsIdentifier_cssIdentifier hne), takeName_cssIdentifier]
  · rw [escapeFor, String.toList_ofList]
    exact takeString_cssString s.toList []
  · refine (List.map_congr_left fun c hc => ?_).trans (List.map_id _)
    refine readable_of_ne fun hz => h0 ?_
    have : c = '\x00' := by
      rw [← Char.ofNat_toNat c, hz]
    exact this ▸ hc

theorem escaped_read_back_hard :
    takeIdentifier (escapeFor (some .identifier) "-7\n.\x00é").toList
      = some (['-', '7', '\n', '.', '�', 'é'], []) ∧
    takeStringToken ('"' :: (escapeFor (some .string) "\"a\\\r0").toList ++ ['"'])
      = some ("\"a\\\r0".toList, []) := by
  refine ⟨(escaped_read_back _).1 (by decide), ?_⟩
  rw [(escaped_read_back _).2.1, (escaped_read_back _).2.2 (by decide)]

end TestMigration.Text
