import TestMigration.Profile.Builtin
import TestMigration.Proofs.Text.Paths
/-!
# Names that the target cannot tell apart

A name of the source gets its name in the target in three steps: it is put into the style of the
target, a keyword gets an underscore at its end, and a test gets the start that the names of tests
have. No step looks at the other names of the file, and each can make two names equal.

Snake case makes those names equal that have the same words, whatever their capitals, and whether
humps or underscores keep the words apart (`snakeCase_eq_iff`). So two names clash as identifiers if
they are spelled alike, or if one is a keyword and the other has the underscore already
(`ident_eq_iff`), and as tests also if one of them has the start already (`testName_eq_iff`).
-/

namespace TestMigration.Text

/-! ### The words of a name -/

/-- The words of a name in small letters, cut at its humps and blanks. -/
def humpWords (name : String) : List String :=
  ((splitRuns (fun c => isBlank c || c == '-') (trimChars isBlank name.toList)).flatMap humps).map
    fun w => lower (.ofList w)

/-- The words of a name in small letters, cut at its underscores as well. Between two underscores in
a row there is an empty word. -/
def wordsOf (name : String) : List (List Char) := (join "_" (humpWords name)).toList.splitOn '_'

/-- Of two underscores in a row one is left, so the empty word is dropped. -/
def closeUp : List (List Char) → List (List Char)
  | w :: [] :: w' :: rest => w :: closeUp (w' :: rest)
  | w :: rest => w :: closeUp rest
  | [] => []

/-- Two names have the same words. -/
def SameWords (a b : String) : Prop := closeUp (wordsOf a) = closeUp (wordsOf b)

variable {ws : List (List Char)} {w : List Char}

instance (a b : String) : Decidable (SameWords a b) := inferInstanceAs (Decidable (_ = _))

theorem closeUp_ne_nil (h : ws ≠ []) : closeUp ws ≠ [] := by
  fun_cases closeUp ws <;> simp_all

theorem closeUp_sublist (ws : List (List Char)) : (closeUp ws).Sublist ws := by
  fun_induction closeUp ws with
  | case1 _ _ _ ih => exact (ih.cons _).cons_cons _
  | case2 _ _ _ ih => exact ih.cons_cons _
  | case3 => exact .slnil

/-! ### Snake case -/

theorem replaceRuns_append (hw : '_' ∉ w) (rest : List Char) :
    replaceRuns ['_', '_'] ['_'] 0 (w ++ rest) = w ++ replaceRuns ['_', '_'] ['_'] 0 rest := by
  induction w with
  | nil => rfl
  | cons c w ih =>
    obtain ⟨hc, hw⟩ := List.ne_and_not_mem_of_not_mem_cons hw
    rw [List.cons_append, replaceRuns, if_neg (by simp [hc]), ih hw, List.cons_append]

theorem intercalate_cons_of_ne_nil {c : Char} (w : List Char) (h : ws ≠ []) :
    [c].intercalate (w :: ws) = w ++ c :: [c].intercalate ws := by
  cases ws with
  | nil => exact absurd rfl h
  | cons => rw [List.intercalate_cons_cons, List.append_assoc, List.singleton_append]

theorem replaceRuns_intercalate (h : ∀ w ∈ ws, '_' ∉ w) :
    replaceRuns ['_', '_'] ['_'] 0 (['_'].intercalate ws) = ['_'].intercalate (closeUp ws) := by
  fun_induction closeUp ws with
  | case1 w _ rest ih =>
    obtain ⟨hw, hrest⟩ := List.forall_mem_cons.mp h
    rw [intercalate_cons_of_ne_nil w (by simp),
      intercalate_cons_of_ne_nil w (closeUp_ne_nil (by simp)), replaceRuns_append hw,
      ← ih (List.forall_mem_cons.mp hrest).2]
    rfl
  | case2 w rest hshape ih =>
    obtain ⟨hw, hrest⟩ := List.forall_mem_cons.mp h
    cases rest with
    | nil => simpa [closeUp, replaceRuns] using replaceRuns_append hw []
    | cons w₁ others =>
      -- What follows the underscore does not begin with another one.
      have hsingle : ['_', '_'].isPrefixOf ('_' :: ['_'].intercalate (w₁ :: others)) = false := by
        cases w₁ with
        | nil =>
          cases others with
          | nil => rfl
          | cons w₂ others => exact (hshape w₂ others rfl).elim
        | cons c w₁ =>
          have hc : '_' ≠ c := (List.ne_and_not_mem_of_not_mem_cons (hrest _ List.mem_cons_self)).1
          cases others <;> simp [List.isPrefixOf, hc]
      rw [intercalate_cons_of_ne_nil w (by simp),
        intercalate_cons_of_ne_nil w (closeUp_ne_nil (by simp)),
        replaceRuns_append hw, replaceRuns, if_neg (by simp [hsingle]), ih hrest]
  | case3 => rfl

theorem toList_snakeCase (name : String) :
    (snakeCase name).toList = ['_'].intercalate (closeUp (wordsOf name)) := by
  have hcut : ∀ w ∈ wordsOf name, '_' ∉ w := fun w hw => not_mem_of_mem_splitOn hw
  have hname : snakeCase name = replace "__" "_" (join "_" (humpWords name)) := rfl
  have hmarks : "__".toList = ['_', '_'] ∧ "_".toList = ['_'] := by decide
  rw [← replaceRuns_intercalate hcut, wordsOf, List.intercalate_splitOn, hname, replace,
    String.toList_ofList, replaceChars, hmarks.1, hmarks.2, if_neg (by decide)]

/-- **Snake case merges exactly the names with the same words.** -/
theorem snakeCase_eq_iff {a b : String} : snakeCase a = snakeCase b ↔ SameWords a b := by
  have hwords : ∀ name, (snakeCase name).toList.splitOn '_' = closeUp (wordsOf name) := by
    intro name
    rw [toList_snakeCase]
    refine List.splitOn_intercalate '_' (fun w hw => ?_) (closeUp_ne_nil (List.splitOn_ne_nil _ _))
    exact not_mem_of_mem_splitOn ((closeUp_sublist _).subset hw)
  constructor
  · intro h
    rw [SameWords, ← hwords, ← hwords, h]
  · intro h
    rw [← String.toList_inj, toList_snakeCase, toList_snakeCase, h]

example : SameWords "openURL" "open_Url" ∧ ¬SameWords "openUrl" "openurl" := by decide +kernel

/-! ### Identifiers -/

/-- A name in the style of the target. -/
def Naming.written (n : Naming) (name : String) : String :=
  if isConstantName name then name
  else match n.identifiers with
    | .snake => snakeCase name
    | _ => name

/-- Two names are spelled alike in the style of the target: they are the same, or under snake case
have the same words, or one is that of a constant and the other comes to it. -/
def SpelledAlike (n : Naming) (a b : String) : Prop :=
  a = b ∨ n.identifiers = .snake ∧
    (isConstantName a = false ∧ isConstantName b = false ∧ SameWords a b ∨
      isConstantName a = true ∧ isConstantName b = false ∧ a = snakeCase b ∨
      isConstantName a = false ∧ isConstantName b = true ∧ snakeCase a = b)

/-- One name is a keyword of the target, the other the keyword with an underscore. -/
def Suffixed (n : Naming) (a b : String) : Prop :=
  n.written a ∈ n.keywords ∧ n.written b = n.written a ++ "_"

/-- Two names are written alike. -/
def Clash (n : Naming) (a b : String) : Prop := SpelledAlike n a b ∨ Suffixed n a b ∨ Suffixed n b a

instance (n : Naming) (a b : String) : Decidable (SpelledAlike n a b) :=
  inferInstanceAs (Decidable (_ ∨ _))

instance (n : Naming) (a b : String) : Decidable (Suffixed n a b) :=
  inferInstanceAs (Decidable (_ ∧ _))

instance (n : Naming) (a b : String) : Decidable (Clash n a b) :=
  inferInstanceAs (Decidable (_ ∨ _))

section Naming

variable {n : Naming} {a b : String}

theorem written_eq_iff : n.written a = n.written b ↔ SpelledAlike n a b := by
  unfold Naming.written SpelledAlike
  rw [← snakeCase_eq_iff]
  by_cases hstyle : n.identifiers = .snake
  · cases ha : isConstantName a <;> cases hb : isConstantName b <;> simp [hstyle] <;> grind
  · cases ha : isConstantName a <;> cases hb : isConstantName b <;> simp [hstyle]

def PlainKeywords (n : Naming) : Prop := ∀ k ∈ n.keywords, endsWith "_" k = false

/-- No keyword of the profiles that come with the program ends in an underscore. -/
theorem plainKeywords_builtin : ∀ p ∈ Profile.builtins, PlainKeywords p.naming := by
  unfold PlainKeywords
  decide +kernel

theorem PlainKeywords.append_not_mem (h : PlainKeywords n) (k : String) :
    k ++ "_" ∉ n.keywords := by
  intro hk
  have hends : endsWith "_" (k ++ "_") = true := by
    rw [endsWith, List.isSuffixOf_iff_suffix, String.toList_append]
    exact List.suffix_append _ _
  rw [h _ hk] at hends
  cases hends

/-- **Two names have the same identifier exactly if they clash.** -/
theorem ident_eq_iff (h : PlainKeywords n) : n.ident a = n.ident b ↔ Clash n a b := by
  have hident : ∀ name, n.ident name =
      if n.written name ∈ n.keywords then n.written name ++ "_" else n.written name := by
    intro name
    simp only [← List.contains_iff_mem]
    rfl
  unfold Clash Suffixed
  rw [← written_eq_iff, hident, hident]
  by_cases ha : n.written a ∈ n.keywords <;> by_cases hb : n.written b ∈ n.keywords
  · -- Two keywords get the same ending.
    rw [if_pos ha, if_pos hb, String.append_left_inj]
    refine ⟨.inl, ?_⟩
    rintro (hsame | ⟨-, hsuffix⟩ | ⟨-, hsuffix⟩)
    · exact hsame
    · exact absurd hb (hsuffix ▸ h.append_not_mem _)
    · exact absurd ha (hsuffix ▸ h.append_not_mem _)
  · -- A keyword with its ending meets a name that has the ending already.
    rw [if_pos ha, if_neg hb]
    refine ⟨fun hsuffix => .inr (.inl ⟨ha, hsuffix.symm⟩), ?_⟩
    rintro (hsame | ⟨-, hsuffix⟩ | ⟨hb', -⟩)
    · exact absurd (hsame ▸ ha) hb
    · exact hsuffix.symm
    · exact absurd hb' hb
  · rw [if_neg ha, if_pos hb]
    refine ⟨fun hsuffix => .inr (.inr ⟨hb, hsuffix⟩), ?_⟩
    rintro (hsame | ⟨ha', -⟩ | ⟨-, hsuffix⟩)
    · exact absurd (hsame ▸ hb) ha
    · exact absurd ha' ha
    · exact hsuffix
  · rw [if_neg ha, if_neg hb]
    refine ⟨.inl, ?_⟩
    rintro (hsame | ⟨ha', -⟩ | ⟨hb', -⟩)
    · exact hsame
    · exact absurd ha' ha
    · exact absurd hb' hb

/-! ### The names of tests -/

theorem startsWith_append (start rest : String) : startsWith start (start ++ rest) = true := by
  rw [startsWith, List.isPrefixOf_iff_prefix, String.toList_append]
  exact List.prefix_append _ _

theorem testName_eq (n : Naming) (name : String) : n.testName name =
      if startsWith n.testStart (n.ident name) then n.ident name else n.testStart ++
        n.ident name := by
  have hempty : n.testStart.isEmpty = true → startsWith n.testStart (n.ident name) = true := by
    intro h
    rw [String.isEmpty_iff.mp h]
    rfl
  unfold Naming.testName
  cases hstart : startsWith n.testStart (n.ident name) with
  | true => simp [hstart]
  | false =>
    have hfilled : n.testStart.isEmpty = false :=
      Bool.eq_false_iff.mpr fun h => Bool.false_ne_true (hstart.symm.trans (hempty h))
    simp [hstart, hfilled]

def Started (n : Naming) (a b : String) : Prop :=
  startsWith n.testStart (n.ident a) = false ∧ n.ident b = n.testStart ++ n.ident a

def TestsClash (n : Naming) (a b : String) : Prop := Clash n a b ∨ Started n a b ∨ Started n b a

def TestHides (n : Naming) (test function : String) : Prop :=
  startsWith n.testStart (n.ident test) = true ∧ Clash n function test ∨ Started n test function

instance (n : Naming) (a b : String) : Decidable (Started n a b) :=
  inferInstanceAs (Decidable (_ ∧ _))

instance (n : Naming) (a b : String) : Decidable (TestsClash n a b) :=
  inferInstanceAs (Decidable (_ ∨ _))

instance (n : Naming) (a b : String) : Decidable (TestHides n a b) :=
  inferInstanceAs (Decidable (_ ∨ _))

/-- **A test has the identifier of a function exactly if it hides it.** -/
theorem ident_eq_testName_iff (h : PlainKeywords n) :
    n.ident a = n.testName b ↔ TestHides n b a := by
  unfold TestHides Started
  rw [testName_eq, ← ident_eq_iff h]
  cases hstart : startsWith n.testStart (n.ident b) <;> simp

/-- **Two tests have the same name exactly if they clash as identifiers, or one already has the
start that the other gets.** -/
theorem testName_eq_iff (h : PlainKeywords n) : n.testName a = n.testName b ↔ TestsClash n a b := by
  have hstarted : ∀ {a b}, Started n a b → startsWith n.testStart (n.ident b) = true :=
    fun h => h.2 ▸ startsWith_append _ _
  unfold TestsClash
  rw [testName_eq n a, testName_eq n b, ← ident_eq_iff h]
  cases ha : startsWith n.testStart (n.ident a) <;> cases hb : startsWith n.testStart (n.ident b)
  · rw [if_neg (by simp), if_neg (by simp), String.append_right_inj]
    refine ⟨.inl, ?_⟩
    rintro (hsame | hstart | hstart)
    · exact hsame
    · exact absurd (hstarted hstart) (by simp [hb])
    · exact absurd (hstarted hstart) (by simp [ha])
  · -- Only the first name gets the start, so the second one has to have it.
    refine ⟨fun hname => .inr (.inl ⟨ha, hname.symm⟩), ?_⟩
    rintro (hsame | hstart | hstart)
    · exact absurd (hsame ▸ ha) (by simp [hb])
    · exact hstart.2.symm
    · exact absurd hstart.1 (by simp [hb])
  · refine ⟨fun hname => .inr (.inr ⟨hb, hname⟩), ?_⟩
    rintro (hsame | hstart | hstart)
    · exact absurd (hsame ▸ ha) (by simp [hb])
    · exact absurd hstart.1 (by simp [ha])
    · exact hstart.2
  · refine ⟨.inl, ?_⟩
    rintro (hsame | hstart | hstart)
    · exact hsame
    · exact absurd hstart.1 (by simp [ha])
    · exact absurd hstart.1 (by simp [hb])

end Naming

end TestMigration.Text
