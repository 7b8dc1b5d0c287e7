import TestMigration.Proofs.Rendering.Passages
/-!
# Titles between triple quotes

A test with a title for the reader has it as its first statement, between triple quotes. The title
is put there as it is, so a target that reads the text takes some of its characters for something
else: three quotes end it, a backslash means something together with what follows, and a carriage
return is a line feed.

`title_read_back_iff` says exactly which titles are read back as they are. Not all are: a title that
ends with a quote is cut short (`title_cut_short`).
-/

namespace TestMigration.Rendering

open Text Profile

/-! ### Reading what is between triple quotes -/

def quotes : List Char := ['"', '"', '"']

/-- What a character behind a backslash stands for. -/
def escapes : List (Char × Char) :=
  [('\\', '\\'), ('\'', '\''), ('"', '"'), ('a', '\x07'), ('b', '\x08'), ('f', '\x0c'), ('n', '\n'),
    ('r', '\r'), ('t', '\t'), ('v', '\x0b')]

/-- The characters behind a backslash that announce a number or a name. -/
def announcing : List Char := "01234567xuUN".toList

/-- How a character given by its number or name is read; something is always read. -/
abbrev CodeReader :=
  (text : List Char) → Option (Char × { rest : List Char // rest.length < text.length })

/-- Reads up to three quotes, and gives what is left. A backslash joins two lines at the end of the
first, and stands for itself before a character that has no meaning with it. -/
def readLong (code : CodeReader) : List Char → Option (List Char × List Char)
  | [] => none
  | '"' :: '"' :: '"' :: rest => some ([], rest)
  | '\\' :: '\n' :: rest => readLong code rest
  | '\\' :: c :: rest =>
    match escapes.lookup c with
    | some d => (readLong code rest).map fun r => (d :: r.1, r.2)
    | none =>
      if c ∈ announcing then
        match code (c :: rest) with
        | some (d, left) => (readLong code left).map fun r => (d :: r.1, r.2)
        | none => none
      else (readLong code rest).map fun r => ('\\' :: c :: r.1, r.2)
  | c :: rest => (readLong code rest).map fun r => (c :: r.1, r.2)
termination_by text => text.length
decreasing_by
  all_goals first
    | exact left.2.trans (Nat.lt_succ_self _)
    | (simp only [List.length_cons]; omega)

/-- Reads a text in triple quotes; each line end is a line feed. -/
def readLiteral (code : CodeReader) : List Char → Option (List Char × List Char)
  | '"' :: '"' :: '"' :: rest => readLong code (unixLines rest)
  | _ => none

/-- A character is not read as it is because of what follows: it starts three quotes, or is a
backslash that means something together with the next character. -/
def Stops (c : Char) (rest : List Char) : Prop :=
  c = '"' ∧ ['"', '"'] <+: rest ∨
    c = '\\' ∧ ∃ d ∈ rest.head?, d = '\n' ∨ escapes.lookup d ≠ none ∨ d ∈ announcing

/-- A text is read as it is if three quotes follow it. -/
def Verbatim (text : List Char) : Prop := ∀ c rest, c :: rest <:+ text → ¬Stops c (rest ++ quotes)

theorem verbatim_cons_iff {c : Char} {text : List Char} :
    Verbatim (c :: text) ↔ ¬Stops c (text ++ quotes) ∧ Verbatim text := by
  simp only [Verbatim, List.suffix_cons_iff, List.cons.injEq]
  constructor
  · exact fun h => ⟨h c text (.inl ⟨rfl, rfl⟩), fun d rest hrest => h d rest (.inr hrest)⟩
  · rintro ⟨hc, htext⟩ d rest (⟨rfl, rfl⟩ | hrest)
    · exact hc
    · exact htext d rest hrest

/-- A character that is neither a quote nor a backslash. -/
theorem not_stops {c : Char} (hquote : c ≠ '"') (hslash : c ≠ '\\') (rest : List Char) :
    ¬Stops c rest := by
  rintro (⟨rfl, -⟩ | ⟨rfl, -⟩)
  · exact hquote rfl
  · exact hslash rfl

section Read

variable {code : CodeReader} {text value : List Char}

/-- What has been read is the text up to the quotes, or shorter. -/
theorem readLong_cases (h : readLong code text = some (value, [])) :
    (text = value ++ quotes ∧ Verbatim value) ∨ value.length + 3 < text.length := by
  have hshort : ∀ {value rest : List Char},
      (rest = value ++ quotes ∧ Verbatim value) ∨ value.length + 3 < rest.length →
        value.length + 3 ≤ rest.length := by
    rintro value rest (⟨rfl, -⟩ | hlt)
    · simp [quotes]
    · exact hlt.le
  fun_induction readLong code text generalizing value with
  | case1 => cases h
  | case2 rest =>
    cases h
    exact .inl ⟨rfl, by simp [Verbatim]⟩
  | case3 rest ih => exact .inr ((hshort (ih h)).trans_lt (by simp only [List.length_cons]; omega))
  | case4 c rest hc d hd ih =>
    obtain ⟨⟨v, _⟩, hv, hvalue⟩ := Option.map_eq_some_iff.mp h
    cases hvalue
    have := hshort (ih hv)
    exact .inr (by simp only [List.length_cons]; omega)
  | case5 c rest hc hd hcode d left _ ih =>
    obtain ⟨⟨v, _⟩, hv, hvalue⟩ := Option.map_eq_some_iff.mp h
    cases hvalue
    have := hshort (ih hv)
    have := left.2
    exact .inr (by simp only [List.length_cons] at this ⊢; omega)
  | case6 => cases h
  | case7 c rest hc hd hcode ih =>
    obtain ⟨⟨v, _⟩, hv, hvalue⟩ := Option.map_eq_some_iff.mp h
    cases hvalue
    rcases ih hv with ⟨rfl, hverbatim⟩ | hlt
    · have hplain : c ≠ '"' ∧ c ≠ '\\' := by
        constructor <;> rintro rfl <;> simp [escapes] at hd
      have hrest := verbatim_cons_iff.mpr ⟨not_stops hplain.1 hplain.2 _, hverbatim⟩
      refine .inl ⟨rfl, verbatim_cons_iff.mpr ⟨?_, hrest⟩⟩
      rintro (⟨hquote, -⟩ | ⟨-, e, he, hmeaning⟩)
      · cases hquote
      · cases he
        rcases hmeaning with rfl | hmeaning | hmeaning
        · exact hc rfl
        · exact hmeaning hd
        · exact hcode hmeaning
    · exact .inr (by simp only [List.length_cons]; omega)
  | case8 c rest hquotes _ hslash ih =>
    obtain ⟨⟨v, _⟩, hv, hvalue⟩ := Option.map_eq_some_iff.mp h
    cases hvalue
    rcases ih hv with ⟨rfl, hverbatim⟩ | hlt
    · refine .inl ⟨rfl, verbatim_cons_iff.mpr ⟨?_, hverbatim⟩⟩
      rintro (⟨hc, more, hmore⟩ | ⟨rfl, e, he, -⟩)
      · exact hquotes more hc hmore.symm
      · have hne : v ++ quotes ≠ [] := by simp [quotes]
        obtain ⟨d, more, hmore⟩ := List.exists_cons_of_ne_nil hne
        exact hslash d more rfl hmore
    · exact .inr (by simp only [List.length_cons]; omega)

theorem readLong_cons {c : Char} (h : ¬Stops c text) (htext : text ≠ []) :
    readLong code (c :: text) = (readLong code text).map fun r => (c :: r.1, r.2) := by
  obtain ⟨d, rest, rfl⟩ := List.exists_cons_of_ne_nil htext
  have hquotes : ∀ rest', c = '"' → d :: rest ≠ '"' :: '"' :: rest' := by
    rintro rest' rfl hrest
    exact h (.inl ⟨rfl, rest', hrest.symm⟩)
  by_cases hc : c = '\\'
  · subst hc
    have hd : ¬(d = '\n' ∨ escapes.lookup d ≠ none ∨ d ∈ announcing) :=
      fun hd => h (.inr ⟨rfl, d, rfl, hd⟩)
    rw [not_or, not_or, not_not] at hd
    obtain ⟨_, hnone, hcode⟩ := hd
    have hplain : d ≠ '"' ∧ d ≠ '\\' := by
      constructor <;> rintro rfl <;> simp [escapes] at hnone
    rw [readLong, readLong]
    · simp [hnone, hcode, Function.comp_def]
    all_goals simp_all
  · rw [readLong] <;> simp_all

theorem readLong_append (h : Verbatim value) :
    readLong code (value ++ quotes) = some (value, []) := by
  induction value with
  | nil => simp [quotes, readLong]
  | cons c value ih =>
    rw [verbatim_cons_iff] at h
    rw [List.cons_append, readLong_cons h.1 (by simp [quotes]), ih h.2]
    rfl

end Read

/-! ### Continuation lines -/

/-- A text with a margin behind each line feed, unless another one follows. -/
def inset (margin : List Char) : List Char → List Char
  | [] => []
  | c :: rest =>
    c :: ((if c = '\n' ∧ rest.head? ≠ some '\n' then margin else []) ++ inset margin rest)

section Inset

variable {margin text : List Char}

/-- The lines of a text with a margin before those that are not empty but the first. -/
theorem exists_splitOn_inset (margin text : List Char) {close : List Char} (hclose : close ≠ [])
    (hbreak : '\n' ∉ close) : ∃ first rest, (text ++ close).splitOn '\n' = first :: rest ∧
      (first = [] ↔ text.head? = some '\n') ∧
      first ++ rest.flatMap (fun l => '\n' :: if l = [] then [] else margin ++ l) =
        inset margin text ++ close := by
  induction text with
  | nil => exact ⟨close, [], List.splitOn_eq_singleton hbreak, by simp [hclose], by simp [inset]⟩
  | cons c text ih =>
    obtain ⟨first, rest, hsplit, hfirst, hrest⟩ := ih
    rw [List.cons_append, List.splitOn_cons_eq_if_modifyHead, hsplit]
    by_cases hc : c = '\n'
    · refine ⟨[], first :: rest, by simp [hc], by simp [hc], ?_⟩
      rw [inset, List.cons_append, List.append_assoc, ← hrest]
      by_cases hempty : first = []
      · simp [hempty, hc, hfirst.mp hempty]
      · simp [hempty, hc, mt hfirst.mpr hempty]
    · refine ⟨c :: first, rest, by simp [hc], by simp [hc], ?_⟩
      simp [inset, hc, hrest]

theorem verbatim_append_iff (hmargin : ∀ c ∈ margin, c = ' ') :
    Verbatim (margin ++ text) ↔ Verbatim text := by
  induction margin with
  | nil => rfl
  | cons c margin ih =>
    obtain ⟨rfl, hrest⟩ := List.forall_mem_cons.mp hmargin
    rw [List.cons_append, verbatim_cons_iff, ih hrest]
    exact and_iff_right (not_stops (by decide) (by decide) _)

/-- The margins are too far behind a character to change its reading. -/
theorem stops_inset_iff {c : Char} : Stops c (inset margin text ++ quotes) ↔
    Stops c (text ++ quotes) := by
  have hhead : (inset margin text ++ quotes).head? = (text ++ quotes).head? := by cases text <;> rfl
  have hquotes : ['"', '"'] <+: inset margin text ++ quotes ↔ ['"', '"'] <+: text ++ quotes := by
    cases text with
    | nil => rfl
    | cons d text =>
      by_cases hd : d = '"'
      · subst hd
        cases text <;> simp [inset]
      · simp [inset, Ne.symm hd]
  rw [Stops, Stops, hhead, hquotes]

theorem verbatim_inset_iff (hmargin : ∀ c ∈ margin, c = ' ') :
    Verbatim (inset margin text) ↔ Verbatim text := by
  induction text with
  | nil => rfl
  | cons c text ih =>
    rw [inset, verbatim_cons_iff, verbatim_cons_iff, ← ih]
    split
    · next hc =>
      rw [hc.1, verbatim_append_iff hmargin]
      simp [not_stops]
    · rw [List.nil_append, stops_inset_iff]

theorem mem_inset_iff (hmargin : ∀ c ∈ margin, c = ' ') :
    '\r' ∈ inset margin text ↔ '\r' ∈ text := by
  have hnot : '\r' ∉ margin := fun h => absurd (hmargin _ h) (by decide)
  induction text with
  | nil => rfl
  | cons c text ih =>
    rw [inset]
    split <;> simp [hnot, ih]

end Inset

/-! ### Line ends -/

theorem unixLines_of_not_mem {text : List Char} (h : '\r' ∉ text) : unixLines text = text := by
  fun_induction unixLines text <;> simp_all

theorem not_mem_unixLines (text : List Char) : '\r' ∉ unixLines text := by
  fun_induction unixLines text <;> simp_all [eq_comm]

theorem length_unixLines_le (text : List Char) : (unixLines text).length ≤ text.length := by
  fun_induction unixLines text <;> simp_all
  omega

/-! ### The main result -/

theorem readLiteral_eq_iff {code : CodeReader} {text : List Char} :
    readLiteral code (quotes ++ text ++ quotes) = some (text, []) ↔
      '\r' ∉ text ∧ Verbatim text := by
  change readLong code (unixLines (text ++ quotes)) = _ ↔ _
  constructor
  · intro h
    have hlength := length_unixLines_le (text ++ quotes)
    rcases readLong_cases h with ⟨hsame, hverbatim⟩ | _
    · have hclean := not_mem_unixLines (text ++ quotes)
      rw [hsame] at hclean
      exact ⟨fun hmem => hclean (List.mem_append_left _ hmem), hverbatim⟩
    · rw [List.length_append, show quotes.length = 3 from rfl] at hlength
      omega
  · rintro ⟨hclean, hverbatim⟩
    rw [unixLines_of_not_mem (by simpa [quotes] using hclean), readLong_append hverbatim]

theorem intercalate_cons (sep first : List Char) (rest : List (List Char)) :
    sep.intercalate (first :: rest) = first ++ rest.flatMap (sep ++ ·) := by
  induction rest generalizing first with
  | nil => simp [List.intercalate]
  | cons l rest => simp_all [List.intercalate]

/-- A statement over several lines, as one text. -/
theorem toList_join_line (c : Code) {text close : List Char} (hclose : close ≠ [])
    (hbreak : '\n' ∉ close) (hline : text.head? ≠ some '\n') :
    (join "\n" ((c.line (String.ofList (text ++ close))).lines.drop c.lines.length)).toList =
      c.margin.toList ++ inset c.margin.toList text ++ close := by
  obtain ⟨first, rest, hsplit, hfirst, hinset⟩ :=
    exists_splitOn_inset c.margin.toList text hclose hbreak
  have hne : first ≠ [] := mt hfirst.mp hline
  have hlines :
      ((c.line (String.ofList (text ++ close))).lines.drop c.lines.length).map String.toList =
      (first :: rest).map fun l => if l = [] then [] else c.margin.toList ++ l := by
    rw [Code.line, if_neg (by simp [hclose]), splitOn, show "\n".toList = ['\n'] from rfl,
      splitAtAll_singleton, String.toList_ofList, hsplit]
    simp [apply_ite String.toList]
  rw [toList_join, hlines, List.map_cons, intercalate_cons, if_neg hne,
    List.append_assoc, List.append_assoc, ← hinset, List.flatMap_map]
  rfl

/-- **Which titles are read back.** The statement for a title is a margin and a text between triple
quotes. Read in the target language it is one complete text, with nothing behind it and with the
lines of the title, exactly if no character of the title means something else there. -/
theorem title_read_back_iff (code : CodeReader) (level : Nat) (lines : List String)
    (title : String) :
    let c : Code := { indent := playwrightPython.phrases.indent, level, lines }
    let written :=
      (c.line (fill playwrightPython.files.testDoc [("title", title)])).lines.drop lines.length
    ∃ literal, (join "\n" written).toList = c.margin.toList ++ literal ∧
      (readLiteral code literal = some (inset c.margin.toList title.toList, []) ↔
        '\r' ∉ title.toList ∧ Verbatim title.toList) := by
  intro c written
  have hmargin : ∀ d ∈ c.margin.toList, d = ' ' := by
    change ∀ d ∈ (times level "    ").toList, d = ' '
    induction level with
    | zero => simp [times]
    | succ level ih => simpa [times] using ih
  have hfill : fill playwrightPython.files.testDoc [("title", title)] =
      String.ofList (quotes ++ title.toList ++ quotes) := by
    rw [fill, show playwrightPython.files.testDoc.toList =
      quotes ++ "$title\"\"\"".toList by decide]
    simp [quotes, Template.fillFrom, Template.State.step, Template.State.plainStep,
      Template.isNameStart, Template.isNameChar, Template.State.flush, Template.slot]
  refine ⟨quotes ++ inset c.margin.toList title.toList ++ quotes, ?_, ?_⟩
  · rw [show written = (c.line _).lines.drop c.lines.length from rfl, hfill,
      toList_join_line c (by simp [quotes]) (by decide) (by simp [quotes])]
    simp [quotes, inset]
  · rw [readLiteral_eq_iff, mem_inset_iff hmargin, verbatim_inset_iff hmargin]

/-- A title that ends with a quote is cut short, and a quote is left. -/
theorem title_cut_short :
    (Code.line {} (fill playwrightPython.files.testDoc [("title", "say \"hi\"")])).lines =
      ["\"\"\"say \"hi\"\"\"\""] ∧
    ∀ code : CodeReader, readLiteral code "\"\"\"say \"hi\"\"\"\"".toList =
      some ("say \"hi".toList, ['"']) := by
  refine ⟨by decide +kernel, fun code => ?_⟩
  simp [readLiteral, unixLines, readLong]

end TestMigration.Rendering
