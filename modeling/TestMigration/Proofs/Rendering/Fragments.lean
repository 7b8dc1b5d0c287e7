import TestMigration.Proofs.Text.Placement
import TestMigration.Proofs.Rendering.Waits
/-!
# Lines and their fragments

Whatever an action leaves in the trace has just been written, as a line or as a part of one. The
order of the fragments is therefore the order of lines, and no two of them share a line
(`Anchored`). Only a statement with a line break is written as several lines, each with its own
indentation, and its fragment lies in none of them. Nothing is said of such fragments here.

What a step adds to the lines and to the trace is one relation (`Added`), which also lists the
fragments it has added, except for those of locators, which need not be lines. Steps that add none
of these are recognized by their definition (`Unmarked`); a line of an action and its entry come
together, in `added_emitLine` and its two kin.
-/

namespace TestMigration.Rendering

open TestMigration.Action Text Profile
open scoped List

/-! ### Fragments in lines -/

def Anchored (fragments lines : List String) : Prop :=
  List.SublistForall₂ (fun (f l : String) => f.toList <:+: l.toList) fragments lines

section Anchored

variable {fragments fragments' lines lines' : List String}

theorem anchored_nil (lines : List String) : Anchored [] lines := .nil

theorem Anchored.append_left (h : Anchored fragments lines) (before : List String) :
    Anchored fragments (before ++ lines) := by
  induction before with
  | nil => exact h
  | cons l _ ih => exact .cons_right ih

theorem Anchored.append (h : Anchored fragments lines) (h' : Anchored fragments' lines') :
    Anchored (fragments ++ fragments') (lines ++ lines') := by
  induction h with
  | @nil lines => exact h'.append_left lines
  | cons hfirst _ ih => exact .cons hfirst ih
  | cons_right _ ih => exact .cons_right ih

theorem Anchored.mono (h : Anchored fragments lines) (hsub : lines <+ lines') :
    Anchored fragments lines' := by
  obtain ⟨found, hfound, hlines⟩ := List.sublistForall₂_iff.mp h
  exact List.sublistForall₂_iff.mpr ⟨found, hfound, hlines.trans hsub⟩

theorem Anchored.eq_nil (h : Anchored fragments []) : fragments = [] := by
  cases h
  rfl

theorem Anchored.exists_of_append (h : Anchored fragments (lines ++ lines')) :
    ∃ first second, fragments = first ++ second ∧ Anchored first lines ∧
      Anchored second lines' := by
  induction lines generalizing fragments with
  | nil => exact ⟨[], fragments, rfl, .nil, h⟩
  | cons l _ ih =>
    cases h with
    | nil => exact ⟨[], [], rfl, .nil, .nil⟩
    | cons hfirst hrest =>
      obtain ⟨first, second, rfl, h, h'⟩ := ih hrest
      exact ⟨_ :: first, second, rfl, .cons hfirst h, h'⟩
    | cons_right hrest =>
      obtain ⟨first, second, rfl, h, h'⟩ := ih hrest
      exact ⟨first, second, rfl, .cons_right h, h'⟩

theorem anchored_singleton {fragment : String} (h : ∃ l ∈ lines, fragment.toList <:+: l.toList) :
    Anchored [fragment] lines := by
  obtain ⟨l, hl, hoccurs⟩ := h
  have hone : Anchored [fragment] [l] := .cons hoccurs .nil
  exact hone.mono (List.singleton_sublist.mpr hl)

/-- **What is anchored in the lines of a text is placed in it.** -/
theorem Anchored.placed {sep : String} (hsep : sep.toList ≠ []) (h : Anchored fragments lines) :
    Placed (join sep lines).toList 0 (fragments.map String.toList) := by
  -- Each line holds one fragment, or none.
  have hlines : ∃ found, List.Forall₂
    (fun pats (l : String) => Placed l.toList 0 pats) found lines ∧
      found.flatten = fragments.map String.toList := by
    induction h with
    | @nil lines =>
      refine ⟨lines.map fun _ => [], ?_, by simp⟩
      rw [List.forall₂_map_left_iff]
      exact List.forall₂_same.mpr fun _ _ => trivial
    | @cons fragment l fragments lines hfirst _ ih =>
      obtain ⟨found, hfound, hflatten⟩ := ih
      exact ⟨[fragment.toList] :: found, .cons (placed_singleton hfirst) hfound, by simp [hflatten]⟩
    | cons_right _ ih =>
      obtain ⟨found, hfound, hflatten⟩ := ih
      exact ⟨[] :: found, .cons trivial hfound, by simp [hflatten]⟩
  obtain ⟨found, hfound, hflatten⟩ := hlines
  rw [← hflatten]
  exact placed_join hsep hfound

end Anchored

/-! ### Writing a line -/

theorem occurs_or_occurs_of_not_mem {c : Char} {v before after : List Char} (hc : c ∉ v)
    (h : v <:+: before ++ c :: after) : v <:+: before ∨ v <:+: after := by
  obtain ⟨x, y, h⟩ := h
  rw [List.append_assoc, List.append_eq_append_iff] at h
  rcases h with ⟨rest, rfl, h⟩ | ⟨rest, rfl, h⟩
  · rw [List.append_eq_append_iff] at h
    rcases h with ⟨more, rfl, -⟩ | ⟨more, rfl, h⟩
    · exact .inl ⟨x, more, by simp⟩
    · cases more with
      | nil => exact .inl ⟨x, [], by simp⟩
      | cons d more =>
        obtain ⟨rfl, -⟩ := List.cons_eq_cons.mp h
        simp at hc
  · cases rest with
    | nil =>
      cases v with
      | nil => exact .inl List.nil_infix
      | cons d v =>
        obtain ⟨rfl, -⟩ := List.cons_eq_cons.mp h
        simp at hc
    | cons d rest =>
      obtain ⟨-, rfl⟩ := List.cons_eq_cons.mp h
      exact .inr ⟨rest, y, by simp⟩

/-- A text without line breaks that occurs in another one occurs in one of its lines. -/
theorem exists_piece_of_occurs {v : List Char} (hv : '\n' ∉ v) (piece : List Char)
    {text : List Char} (h : v <:+: piece.reverse ++ text) :
    ∃ q ∈ splitAtAll.go ['\n'] piece 0 text, v <:+: q := by
  induction text generalizing piece with
  | nil => exact ⟨piece.reverse, by simp [splitAtAll.go], by simpa using h⟩
  | cons c rest ih =>
    by_cases hc : c = '\n'
    · subst hc
      have hgo : splitAtAll.go ['\n'] piece 0 ('\n' :: rest) =
          piece.reverse :: splitAtAll.go ['\n'] [] 0 rest := by
        simp [splitAtAll.go]
      rw [hgo]
      rcases occurs_or_occurs_of_not_mem hv h with h | h
      · exact ⟨_, by simp, h⟩
      · obtain ⟨q, hq, hoccurs⟩ := ih [] (by simpa using h)
        exact ⟨q, List.mem_cons_of_mem _ hq, hoccurs⟩
    · have hgo : splitAtAll.go ['\n'] piece 0 (c :: rest) =
          splitAtAll.go ['\n'] (c :: piece) 0 rest := by
        simp [splitAtAll.go, Ne.symm hc]
      rw [hgo]
      exact ih (c :: piece) (by simpa using h)

theorem exists_line_of_occurs {v text : String} (hv : '\n' ∉ v.toList)
    (h : v.toList <:+: text.toList) : ∃ l ∈ splitOn "\n" text, v.toList <:+: l.toList := by
  obtain ⟨q, hq, hoccurs⟩ := exists_piece_of_occurs hv [] (by simpa using h)
  exact ⟨String.ofList q, List.mem_map_of_mem hq, by simpa using hoccurs⟩

/-- A statement adds lines, and what occurs in it without a line break occurs in one. -/
theorem Code.exists_lines_line (c : Code) (text : String) :
    ∃ lines, (c.line text).lines = c.lines ++ lines ∧
      ∀ v : String, '\n' ∉ v.toList → v.toList <:+: text.toList →
        ∃ l ∈ lines, v.toList <:+: l.toList := by
  unfold Code.line
  split
  · rename_i hempty
    refine ⟨[""], rfl, fun v _ hoccurs => ⟨"", by simp, ?_⟩⟩
    rwa [String.isEmpty_iff.mp hempty] at hoccurs
  · refine ⟨_, rfl, fun v hv hoccurs => ?_⟩
    obtain ⟨l, hl, hoccurs⟩ := exists_line_of_occurs hv hoccurs
    refine ⟨_, List.mem_map_of_mem hl, ?_⟩
    split
    · rename_i hempty
      rwa [String.isEmpty_iff.mp hempty] at hoccurs
    · rw [String.toList_append]
      exact hoccurs.trans (List.suffix_append _ _).isInfix

/-! ### What a step adds -/

/-- A fragment by its kind, its body and its lines in the source. -/
structure Mark where
  kind : TraceKind
  body : String
  provenance : Provenance
  deriving DecidableEq

/-- The marks of some fragments; those of locators have none. -/
def marksOf (entries : List TraceEntry) : List Mark :=
  (entries.filter (·.kind != .locator)).map fun e => ⟨e.kind, e.body, e.provenance⟩

/-- A fragment with a line break. -/
def TraceEntry.broken (e : TraceEntry) : Bool := e.fragment.toList.contains '\n'

/-- The fragments of actions that have no line break. -/
def wholeFragments (entries : List TraceEntry) : List String :=
  (entries.filter fun e => e.kind == .action && !e.broken).map TraceEntry.fragment

/-- Fragments with the given marks. Those of actions lie in the given lines, and those of waits are
among them. -/
structure Lying (marks : List Mark) (lines : List String) (entries : List TraceEntry) : Prop where
  marked : marksOf entries = marks
  anchored : Anchored (wholeFragments entries) lines
  waits : ∀ e ∈ entries, e.kind = .wait → ∃ e' ∈ entries, e'.kind = .action ∧
    e'.fragment = e.fragment

/-- Between two states, the trace has got fragments with the given marks, in the given lines. -/
def Traced (marks : List Mark) (lines : List String) (s s' : State) : Prop :=
  ∃ entries, s'.session.trace = s.session.trace ++ entries ∧ Lying marks lines entries

/-- Between two states, lines and fragments with the given marks have been added. -/
def Added (marks : List Mark) (s s' : State) : Prop :=
  ∃ lines, s'.code.lines = s.code.lines ++ lines ∧ Traced marks lines s s'

section Added

variable {marks marks' : List Mark} {lines lines' : List String} {s s' s'' : State}

theorem Traced.trans (h : Traced marks lines s s') (h' : Traced marks' lines' s' s'') :
    Traced (marks ++ marks') (lines ++ lines') s s'' := by
  obtain ⟨entries, htrace, h⟩ := h
  obtain ⟨entries', htrace', h'⟩ := h'
  refine ⟨entries ++ entries', ?_, ?_, ?_, fun e he hkind => ?_⟩
  · rw [htrace', htrace, List.append_assoc]
  · rw [← h.marked, ← h'.marked, marksOf, List.filter_append, List.map_append]
    rfl
  · have := h.anchored.append h'.anchored
    rwa [wholeFragments, wholeFragments, ← List.map_append, ← List.filter_append] at this
  · rcases List.mem_append.mp he with he | he
    · obtain ⟨e', hmem, hfound⟩ := h.waits e he hkind
      exact ⟨e', List.mem_append_left _ hmem, hfound⟩
    · obtain ⟨e', hmem, hfound⟩ := h'.waits e he hkind
      exact ⟨e', List.mem_append_right _ hmem, hfound⟩

theorem Traced.mono (h : Traced marks lines s s') (hsub : lines <+ lines') :
    Traced marks lines' s s' := by
  obtain ⟨entries, htrace, h⟩ := h
  exact ⟨entries, htrace, h.marked, h.anchored.mono hsub, h.waits⟩

theorem traced_of_trace_eq (h : s'.session.trace = s.session.trace) : Traced [] [] s s' :=
  ⟨[], by rw [h, List.append_nil], rfl, anchored_nil _, by simp⟩

theorem Traced.without_lines (h : Traced [] lines s s') : Traced [] [] s s' := by
  obtain ⟨entries, htrace, h⟩ := h
  have hlocators : ∀ e ∈ entries, e.kind = .locator := by
    simpa [marksOf] using h.marked
  have hwhole : wholeFragments entries = [] := by
    rw [wholeFragments, List.filter_eq_nil_iff.mpr fun e he => by simp [hlocators e he],
      List.map_nil]
  exact ⟨entries, htrace, h.marked, hwhole ▸ anchored_nil _, h.waits⟩

theorem Added.trans (h : Added marks s s') (h' : Added marks' s' s'') :
    Added (marks ++ marks') s s'' := by
  obtain ⟨lines, hcode, htraced⟩ := h
  obtain ⟨lines', hcode', htraced'⟩ := h'
  exact ⟨lines ++ lines', by rw [hcode', hcode, List.append_assoc], htraced.trans htraced'⟩

theorem added_lines (hlines : s'.code.lines = s.code.lines ++ lines)
    (htrace : s'.session.trace = s.session.trace) : Added [] s s' :=
  ⟨lines, hlines, (traced_of_trace_eq htrace).mono (List.nil_sublist lines)⟩

theorem Added.refl (s : State) : Added [] s s := added_lines (List.append_nil _).symm rfl

theorem OnlyLocators.added (h : OnlyLocators s s') (hcode : s'.code = s.code) : Added [] s s' := by
  obtain ⟨entries, htrace, hentries⟩ := h
  have hmarks : marksOf entries = [] := by
    rw [marksOf, List.filter_eq_nil_iff.mpr fun e he => by simp [(hentries e he).1], List.map_nil]
  have hwhole : wholeFragments entries = [] := by
    rw [wholeFragments, List.filter_eq_nil_iff.mpr fun e he => by simp [(hentries e he).1],
      List.map_nil]
  refine ⟨[], by rw [hcode, List.append_nil], entries, htrace, hmarks, hwhole ▸ anchored_nil _, ?_⟩
  intro e he hkind
  rw [(hentries e he).1] at hkind
  cases hkind

end Added

/-- The trace gets no marks, and the frame stays that of the same body. -/
structure Unmarked (s : State) (_ : Option Stop) (s' : State) : Prop where
  body : s'.frame.body = s.frame.body
  added : Added [] s s'

instance : Composable Unmarked where
  refl s := ⟨rfl, Added.refl s⟩
  trans h h' := ⟨h'.body.trans h.body, h.added.trans h'.added⟩

section Unmarked

variable {α : Type}

instance (priority := low) {x : Render α} [h : Keeps Silent x] : Keeps Unmarked x :=
  h.mono fun h => ⟨congrArg Frame.body h.frame, h.trace.added h.code⟩

theorem unmarked_modifyFrame {f : Frame → Frame} (h : ∀ g, (f g).body = g.body) :
    Keeps Unmarked (modifyFrame f) :=
  ⟨fun _ s => ⟨h s.frame, added_lines (List.append_nil _).symm rfl⟩⟩

theorem unmarked_modifyCode {f : Code → Code} (h : ∀ c, ∃ lines, (f c).lines = c.lines ++ lines) :
    Keeps Unmarked (modifyCode f) := by
  refine ⟨fun _ s => ⟨rfl, ?_⟩⟩
  obtain ⟨lines, hlines⟩ := h s.code
  exact added_lines hlines rfl

instance unmarked_line (text : String) : Keeps Unmarked (line text) :=
  unmarked_modifyCode fun c =>
    let ⟨lines, hlines, _⟩ := c.exists_lines_line text
    ⟨lines, hlines⟩

instance unmarked_comment (text : String) : Keeps Unmarked (comment text) :=
  unmarked_modifyCode fun _ => ⟨_, rfl⟩

instance (count : Nat) : Keeps Unmarked (modifyCode (·.blank count)) :=
  unmarked_modifyCode fun _ => ⟨_, rfl⟩

instance (env : Env) : Kind.Remarks env (Keeping env Unmarked) where
  ofNote _ _ _ := Keeps.out env
  ofClass _ := Keeps.out env
  ofModule _ := Keeps.out env
  ofFunction _ _ := Keeps.out env
  ofLocator _ _ _ _ := Keeps.out env

instance lays_unmarked (env : Env) : Kind.Lays env (Keeping env Unmarked) where
  ofLine _ := Keeps.out env
  ofComment _ := Keeps.out env
  ofStatements := Keeps.out env
  ofLineCount := Keeps.out env
  ofBlank _ := Keeps.out env
  ofIndented hx s := by
    rw [run_indented]
    have hinner := hx { s with code := s.code.deeper }
    exact ⟨hinner.body, hinner.added⟩

instance unmarked_declare (name : String) :
    Keeps Unmarked (modifyFrame fun f => { f with declared := insertNew name f.declared }) :=
  unmarked_modifyFrame fun _ => rfl

instance (env : Env) : Kind.Binds env (Keeping env Unmarked) where
  ofDeclare name := (unmarked_declare name).out env
  ofElement id text := (unmarked_modifyFrame
    (f := fun f => { f with elements := Table.put id text f.elements }) fun _ => rfl).out env

end Unmarked

/-! ### Lines that belong to an action -/

/-- A profile whose statements that give a variable a value hold the value as it is. -/
class HoldsValues (p : Phrases) : Prop where
  declare (name value : String) :
    value.toList <:+: (fill p.declare [("name", name), ("value", value)]).toList
  declareMutable (name value : String) :
    value.toList <:+: (fill p.declareMutable [("name", name), ("value", value)]).toList
  assign (name value : String) :
    value.toList <:+: (fill p.assign [("name", name), ("value", value)]).toList

section Tails

variable {env : Env}

theorem added_fragment {text fragment : String} (hoccurs : fragment.toList <:+: text.toList)
    (p : Provenance) (s : State) : Added [⟨.action, s.frame.body, p⟩] s { s with
      code := s.code.line text
      session := { s.session with trace := s.session.trace ++ [
        { kind := .action, provenance := p, fragment, body := s.frame.body }] } } := by
  obtain ⟨lines, hlines, hfound⟩ := s.code.exists_lines_line text
  refine ⟨lines, hlines, _, rfl, rfl, ?_, by simp⟩
  by_cases hbroken : '\n' ∈ fragment.toList
  · simpa [wholeFragments, TraceEntry.broken, hbroken] using anchored_nil lines
  · simpa [wholeFragments, TraceEntry.broken, hbroken] using
      anchored_singleton (hfound fragment hbroken hoccurs)

theorem added_emitLine (p : Provenance) (text : String) (s : State) :
    ∃ s', (emitLine p text).run env s = (.ok (), s') ∧ s'.frame = s.frame ∧
      Added [⟨.action, s.frame.body, p⟩] s s' :=
  ⟨_, rfl, rfl, added_fragment List.infix_rfl p s⟩

theorem added_wait (p : Provenance) (text : String) (s : State) : ∃ s', (do
        line text
        trace .wait p text
        trace .action p text : Render Unit).run env s = (.ok (), s') ∧ s'.frame = s.frame ∧
      Added [⟨.wait, s.frame.body, p⟩, ⟨.action, s.frame.body, p⟩] s s' := by
  obtain ⟨lines, hlines, hfound⟩ := s.code.exists_lines_line text
  refine ⟨_, rfl, rfl, lines, hlines, [_, _], List.append_assoc .., rfl, ?_, by simp⟩
  by_cases hbroken : '\n' ∈ text.toList
  · simpa [wholeFragments, TraceEntry.broken, hbroken] using anchored_nil lines
  · simpa [wholeFragments, TraceEntry.broken, hbroken] using
      anchored_singleton (hfound text hbroken List.infix_rfl)

theorem added_bindLine [h : HoldsValues env.profile.phrases] (name text : String) (declare : Bool)
    (p : Provenance) (s : State) :
    ∃ s' declared, (do
        bindLine name text declare
        trace .action p text : Render Unit).run env s = (.ok (), s') ∧
      s'.frame = { s.frame with declared } ∧ Added [⟨.action, s.frame.body, p⟩] s s' := by
  have hoccurs : text.toList <:+: (fill
      (if declare && !s.frame.declared.contains name then
        if s.frame.reassigned.contains name then env.profile.phrases.declareMutable
        else env.profile.phrases.declare
      else env.profile.phrases.assign)
      [("name", env.profile.naming.ident name), ("value", text)]).toList := by
    split
    · split
      · exact h.declareMutable _ _
      · exact h.declare _ _
    · exact h.assign _ _
  exact ⟨_, _, rfl, rfl, added_fragment hoccurs p s⟩

end Tails

end TestMigration.Rendering
