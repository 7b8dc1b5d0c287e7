import TestMigration.Proofs.Rendering.SectionLines
import TestMigration.Proofs.Rendering.SplicedFragments
import TestMigration.Proofs.Rendering.UnitWaits
/-!
# The fragments of a unit

The trace of a unit holds the fragments of its bodies, body after body, and its text holds their
lines in the same order. No fragment moves past another where sections are put together, and a hook
of which nothing is left is dropped. So the fragments of a whole unit, those with a line break
apart, occur in its text one behind the other (`exists_placed_of_renderTo`), and which fragments
there are can be read off the unit (`unitMarks`).
-/

namespace TestMigration.Rendering

open TestMigration.Action Text Profile
open scoped List

/-! ### Marks of bodies -/

/-- The marks that bodies leave, under their names. -/
def marksOver (env : Env) (bodies : List NamedBody) : List Mark :=
  bodies.flatMap fun b => (bodyMarks env b.scope b.actions).map (stamp b.name)

def unitMarks (env : Env) : List Mark := marksOver env (namedBodies env)

variable {env : Env}

theorem marksOver_append (env : Env) (bodies bodies' : List NamedBody) :
    marksOver env (bodies ++ bodies') = marksOver env bodies ++ marksOver env bodies' :=
  List.flatMap_append

theorem marksOver_singleton (env : Env) (b : NamedBody) :
    marksOver env [b] = (bodyMarks env b.scope b.actions).map (stamp b.name) := by
  simp [marksOver]

theorem marksOver_eq_nil {bodies : List NamedBody}
    (h : ∀ b ∈ bodies, b.actions = []) : marksOver env bodies = [] := by
  refine List.flatMap_eq_nil_iff.mpr fun b hb => ?_
  rw [h b hb]
  rfl

/-! ### Lines -/

instance : Lining Traced where
  trans := Traced.trans
  mono := Traced.mono
  idle h :=
    have ⟨_, _, htraced⟩ := h.added
    htraced.without_lines
  bare := Traced.without_lines
  apart h hs hs' := by
    unfold Traced at h ⊢
    rwa [hs, hs']

abbrev Files {α : Type} (env : Env) (bodies : List NamedBody) (x : Render α) : Prop :=
  Lines Traced env (marksOver env bodies) x

theorem files_renderBody [HoldsValues env.profile.phrases] {b : NamedBody} {f : Frame}
    (hname : f.body = b.name) (hunit : f.unit = b.scope.unit) (hmode : f.mode = b.scope.mode)
    (hbound : b.scope.bound = []) (hf : f.elements = []) :
    Files env [b] (renderBody b.actions f) := by
  refine ⟨fun hrun => ?_⟩
  have hscope : b.scope = { unit := f.unit, mode := f.mode } := by
    rw [hunit, hmode, ← hbound]
  rw [marksOver_singleton, hscope, ← hname]
  exact added_renderBody b.actions hf hrun

instance (env : Env) : Kind.Halts env (Keeping env Unmarked) where
  ofRefusal _ _ := Keeps.out env
  ofAnyHalt _ := Keeps.out env

instance (env : Env) : Kind.Values env (Keeping env Unmarked) where
  ofVerbatim _ := Keeps.out env

instance (env : Env) : Kind.Frames env (Keeping env Unmarked) where
  ofInFrame f _ _ _ hx s := by
    rw [run_inFrame]
    exact ⟨rfl, (hx { s with frame := f }).added⟩

/-! ### Groups of lines -/

section Groups

variable {α : Type} {env : Env} {s s' : State}
variable {marks : List Mark}

theorem Added.traced (h : Added marks s s') (hempty : s.code.lines = []) :
    Traced marks s'.code.lines s s' := by
  obtain ⟨_, hlines, _⟩ := h
  rwa [hlines, hempty]

/-- A step that writes nothing leaves nothing in a line. -/
theorem Added.traced_nil (h : Added marks s s')
    (hcount : s'.code.lines.length = s.code.lines.length) : Traced marks [] s s' := by
  obtain ⟨lines, hlines, htraced⟩ := h
  have hempty : lines = [] := by
    rw [hlines, List.length_append] at hcount
    exact List.eq_nil_of_length_eq_zero (by omega)
  rwa [hempty] at htraced

theorem traced_keptGroup {level : Nat} {x : Render Bool}
    (hx : ∀ {s₀ s₁ : State} {written : Bool}, s₀.code.lines = [] →
      x.run env s₀ = (.ok written, s₁) → Traced marks (if written then s₁.code.lines else []) s₀ s₁)
    {code : Option Code}
    (hrun : (do
      let (written, code) ← lineGroup level x
      return if written then some code else none :
    Render (Option Code)).run env s = (.ok code, s')) :
    Traced marks (linesOf code.toList) s s' := by
  obtain ⟨⟨written, _⟩, s₁, hgroup, hreturn⟩ := exists_of_run_bind hrun
  obtain ⟨s₀, _, hstart, hempty, hinner, hcode, hsession⟩ := exists_of_run_lineGroup hgroup
  cases hreturn
  have htraced := hx hempty hinner
  unfold Traced at htraced ⊢
  rw [hsession, ← hstart]
  cases written with
  | false => exact htraced
  | true => simpa [linesOf, ← hcode] using htraced

end Groups

/-! ### The functions that write a file -/

section File

variable {env : Env} [HoldsValues env.profile.phrases]

/-- Lines are looked at with what they leave. -/
abbrev Filing (env : Env) : Assembly where
  plain := Keeping env Unmarked
  Holds parts _ x _ := Files env (parts.filterMap UnitPart.body?) x

variable {label text : String} {methods setups teardowns : List (SourceUnit × Method)} {level : Nat}
variable {code : Option Code} {s s' : State} {codes : List Code}

instance : Assembles env (Filing env) where
  plain h := ⟨fun {s _ _} hrun => by
    have := (h s).added
    rwa [hrun] at this⟩
  next hx hf := by
    dsimp only [Files]
    rw [List.filterMap_append, marksOver_append]
    exact hx.bind hf
  ask h := (h _ (.refl _)).withEnv
  indented hx := hx.indented
  body hf _ := files_renderBody hf.name hf.unit hf.mode hf.bound hf.elements
  empty _ h _ := ⟨fun hrun => by
    cases hrun
    rw [filterMap_map_body, marksOver_eq_nil h]
    exact Added.refl _⟩
  members := Lines.of_unmarked memberValues

omit [HoldsValues env.profile.phrases] in
theorem Builds.files {α : Type} {ps : List UnitPart} {x y : Render α}
    (h : Builds env (Filing env) ps x y) :
    Files env (ps.filterMap UnitPart.body?) x := h.out

theorem files_functionLines (m : Method) :
    Files env [methodBody .function env.unit m] (functionLines m) :=
  (builds_functionLines m).files

theorem files_hookBodies (label : String) (declared : List String)
    (methods : List (SourceUnit × Method)) :
    Files env (methods.map (hookBody label)) (hookBodies label declared methods) := by
  have h : Files env _ (hookBodies label declared methods) :=
    (builds_hookBodies label declared fun _ _ => trivial).files
  rwa [← List.map_map, filterMap_map_body] at h

theorem files_testLines (t : TestCase) : Files env [testBody env.unit t] (testLines t) :=
  (builds_testLines t).files

omit [HoldsValues env.profile.phrases] in
theorem marksOver_hooks_eq_nil (h : (methods.all fun m => m.2.actions.isEmpty) = true) :
    marksOver env (methods.map (hookBody label)) = [] := by
  refine marksOver_eq_nil fun b hb => ?_
  obtain ⟨m, hm, rfl⟩ := List.mem_map.mp hb
  exact List.isEmpty_iff.mp (List.all_eq_true.mp h m hm)

/-- A dropped hook has no lines, and leaves nothing in a line. -/
theorem traced_hookBlock {template : String}
    (hrun : (hookBlock template label methods level).run env s = (.ok code, s')) :
    Traced (marksOver env (methods.map (hookBody label))) (linesOf code.toList) s s' := by
  unfold hookBlock at hrun
  split at hrun
  · rename_i hempty
    cases hrun
    rw [marksOver_hooks_eq_nil hempty]
    exact traced_of_trace_eq rfl
  · refine traced_keptGroup (fun {s₀ s₁ written} hlines hinner => ?_) hrun
    obtain ⟨_, s₂, htemplate, hinner⟩ := exists_of_run_bind hinner
    obtain ⟨_, _, hopened, hinner⟩ := exists_of_run_bind hinner
    cases hopened
    obtain ⟨_, s₃, hbodies, hinner⟩ := exists_of_run_bind hinner
    obtain ⟨_, _, hcount, hinner⟩ := exists_of_run_bind hinner
    cases hcount
    have hopen := (unmarked_line template).of_run htemplate
    have hadded : Added _ s₂ s₃ := (files_hookBodies label [] methods).indented.added hbodies
    split at hinner
    · rename_i hsame
      cases hinner
      exact Traced.trans (lining_of_unmarked htemplate) (hadded.traced_nil hsame)
    · obtain ⟨_, _, hfiles, hinner⟩ := exists_of_run_bind hinner
      obtain ⟨_, _, hclose, hreturn⟩ := exists_of_run_bind hinner
      cases hfiles
      cases hreturn
      have hall := hopen.added.trans (hadded.trans ((unmarked_line _).of_run hclose).added)
      rw [List.append_nil] at hall
      exact hall.traced hlines

omit [HoldsValues env.profile.phrases] in
theorem length_lt_of_line (hrun : (line text).run env s = (.ok (), s')) :
    s.code.lines.length < s'.code.lines.length := by
  cases hrun
  obtain ⟨_, hlines, hfound⟩ := s.code.exists_lines_line text
  obtain ⟨l, hl, -⟩ := hfound "" (by simp) (by simp)
  change s.code.lines.length < (s.code.line text).lines.length
  rw [hlines, List.length_append]
  have := List.length_pos_of_mem hl
  omega

/-- A fixture behind its turning point: a line, and the last bodies. With just one new line, they
have written nothing. -/
theorem traced_afterYield {turn : String}
    (hrun : (indented do
      line turn
      hookBodies label [] methods).run env s = (.ok (), s'))
    (hcount : s'.code.lines.length = s.code.lines.length + 1) :
    Traced (marksOver env (methods.map (hookBody label))) [] s s' := by
  obtain ⟨s₁, hinner, rfl⟩ := exists_of_run_indented hrun
  obtain ⟨_, s₂, hturn, hbodies⟩ := exists_of_run_bind hinner
  have hlt := length_lt_of_line hturn
  have hadded : Added _ s₂ s₁ := (files_hookBodies label [] methods).added hbodies
  have hle : s₂.code.lines.length ≤ s₁.code.lines.length := by
    obtain ⟨_, hlines, -⟩ := hadded
    rw [hlines, List.length_append]
    exact Nat.le_add_right _ _
  change s.code.lines.length < _ at hlt
  change s₁.code.lines.length = _ at hcount
  have htraced := Traced.trans (lining_of_unmarked hturn) (hadded.traced_nil (by omega))
  exact htraced

theorem traced_hookFixture
    (hrun : (hookFixture setups teardowns level).run env s = (.ok code, s')) :
    Traced (marksOver env (setups.map (hookBody "setup") ++ teardowns.map (hookBody "teardown")))
      (linesOf code.toList) s s' := by
  unfold hookFixture at hrun
  rw [run_bind_ok run_profile, marksOver_append] at *
  split at hrun
  · rename_i hempty
    rw [List.all_append, Bool.and_eq_true] at hempty
    cases hrun
    rw [marksOver_hooks_eq_nil hempty.1, marksOver_hooks_eq_nil hempty.2]
    exact traced_of_trace_eq rfl
  · refine traced_keptGroup (fun {s₀ s₁ written} hlines hinner => ?_) hrun
    obtain ⟨_, s₂, hopenrun, hinner⟩ := exists_of_run_bind hinner
    obtain ⟨_, _, hopened, hinner⟩ := exists_of_run_bind hinner
    cases hopened
    obtain ⟨_, s₃, hsetups, hinner⟩ := exists_of_run_bind hinner
    obtain ⟨_, _, hrendered, hinner⟩ := exists_of_run_bind hinner
    cases hrendered
    obtain ⟨_, s₄, hteardowns, hinner⟩ := exists_of_run_bind hinner
    obtain ⟨_, _, hcount, hinner⟩ := exists_of_run_bind hinner
    cases hcount
    have hopen := (unmarked_line _).of_run hopenrun
    have hbefore : Added _ s₂ s₃ := (files_hookBodies "setup" [] setups).indented.added hsetups
    have hafter : Added (marksOver env (teardowns.map (hookBody "teardown"))) s₃ s₄ :=
      (Lines.indented
        (Lines.after fun _ => files_hookBodies "teardown" [] teardowns)).added hteardowns
    split at hinner
    · rename_i hsame
      rw [Bool.and_eq_true, decide_eq_true_eq, decide_eq_true_eq] at hsame
      cases hinner
      have htraced := Traced.trans (lining_of_unmarked hopenrun)
        ((hbefore.traced_nil hsame.1).trans (traced_afterYield hteardowns hsame.2))
      exact htraced
    · have hclose := (inferInstance : Keeps Unmarked _).of_run hinner
      have hwritten : written = true := by
        split at hinner
        · obtain ⟨_, _, -, hreturn⟩ := exists_of_run_bind hinner
          cases hreturn
          rfl
        · cases hinner
          rfl
      have hall := hopen.added.trans (hbefore.trans (hafter.trans hclose.added))
      rw [List.append_nil] at hall
      rw [hwritten]
      exact hall.traced hlines

theorem traced_hookBlocks (hrun : (hookBlocks setups teardowns level).run env s = (.ok codes, s')) :
    Traced (marksOver env (setups.map (hookBody "setup") ++ teardowns.map (hookBody "teardown")))
      (linesOf codes) s s' := by
  unfold hookBlocks at hrun
  rw [run_bind_ok run_profile] at hrun
  dsimp only at hrun
  split at hrun
  · obtain ⟨_, s₁, hbefore, hrun⟩ := exists_of_run_bind hrun
    obtain ⟨_, _, hafter, hreturn⟩ := exists_of_run_bind hrun
    cases hreturn
    rw [marksOver_append, linesOf, List.flatMap_append]
    exact (traced_hookBlock hbefore).trans (traced_hookBlock hafter)
  · obtain ⟨_, s₁, hfixture, hreturn⟩ := exists_of_run_bind hrun
    cases hreturn
    exact traced_hookFixture hfixture

theorem files_constructorLines (base : Option SourceUnit) (memberPage : String) :
    Files env ((env.unit.methodsWithRole [.constructor]).head?.toList.map
      (constructorBody env.unit)) (constructorLines base memberPage) := by
  have h : Files env _ (constructorLines base memberPage) :=
    (builds_constructorLines base memberPage).files
  rwa [List.filterMap_cons_none rfl, ← List.map_map, filterMap_map_body] at h

theorem files_pageMethodLines (memberPage : String) (m : Method) :
    Files env [methodBody .page env.unit m] (pageMethodLines memberPage m) :=
  (builds_pageMethodLines memberPage m).files

/-- What the bodies of a unit leave. -/
def unitTracing (env : Env) [HoldsValues env.profile.phrases] : UnitLining Traced env where
  function m := marksOver env [methodBody .function env.unit m]
  pageMethod m := marksOver env [methodBody .page env.unit m]
  opening := marksOver env
    ((env.unit.methodsWithRole [.constructor]).head?.toList.map (constructorBody env.unit))
  hooks := marksOver env
    ((lifecycle (unitChain env).reverse [.setupAll, .setup]).map (hookBody "setup") ++
    (lifecycle (unitChain env) [.teardown, .teardownAll]).map (hookBody "teardown"))
  test t := marksOver env [testBody env.unit t]
  functions _ := files_functionLines
  pageMethods _ := files_pageMethodLines
  constructors := files_constructorLines
  tests := files_testLines
  blocks _ _ _ hchain hrun := by
    rw [hooksOf, unitChain_eq hchain] at hrun
    exact traced_hookBlocks hrun

theorem items_unitTracing : (unitTracing env).items = unitMarks env := by
  have hsuite : (unitTracing env).suiteItems =
      marksOver env (if env.unit.tests.isEmpty then [] else namedSuiteBodies env) := by
    unfold UnitLining.suiteItems namedSuiteBodies
    split <;> simp [unitTracing, marksOver, List.flatMap_map]
  unfold UnitLining.items unitMarks namedBodies
  cases env.unit.kind with
  | testClass | suite =>
    rw [hsuite]
    simp [unitTracing, marksOver, List.flatMap_map]
  | pageObject | utilityModule | support => simp [unitTracing, marksOver, List.flatMap_map]

omit [HoldsValues env.profile.phrases] in
/-- Fragments in the lines of several groups are placed in their texts, group by group. -/
theorem exists_placed_of_anchored {fragments : List String}
    (h : Anchored fragments (linesOf codes)) :
    ∃ found, List.Forall₂ (fun pats (text : String) => Placed text.toList 0 pats) found
        ((codes.filter (!·.lines.isEmpty)).map Code.text) ∧
      found.flatten = fragments.map String.toList := by
  induction codes generalizing fragments with
  | nil =>
    rw [h.eq_nil]
    exact ⟨[], .nil, rfl⟩
  | cons code _ ih =>
    rw [linesOf, List.flatMap_cons] at h
    obtain ⟨first, _, rfl, hfirst, hsecond⟩ := h.exists_of_append
    obtain ⟨found, hfound, hflatten⟩ := ih hsecond
    cases hempty : code.lines.isEmpty with
    | true =>
      rw [List.isEmpty_iff.mp hempty] at hfirst
      refine ⟨found, ?_, by simp [hfirst.eq_nil, hflatten]⟩
      simpa [hempty] using hfound
    | false =>
      refine ⟨first.map String.toList :: found, ?_, by simp [hflatten]⟩
      rw [List.filter_cons_of_pos (by simp [hempty]), List.map_cons]
      exact .cons (hfirst.placed (by simp)) hfound

theorem toList_gap_ne_nil {p : Profile} (h : p ∈ builtins) :
    (times (p.files.topLevelGap + 1).toNat "\n").toList ≠ [] := by
  rcases List.mem_pair.mp h with rfl | rfl <;> decide

omit [HoldsValues env.profile.phrases] in
/-- The text of a unit is its sections behind the head of the file. -/
theorem exists_sections_of_renderTo (hprofile : env.profile ∈ builtins) {path : String}
    {s : Session}
    (h : renderTo env path = .ok (.ok text, s)) : ∃ (r : String × List Code) (s₁ final : State),
    unitSections.run env env.start = (.ok r, s₁) ∧ Unmarked s₁ none final ∧ final.session = s ∧
      ∀ {fragments : List String}, Anchored fragments (linesOf r.2) →
        Placed text.toList 0 (fragments.map String.toList) := by
  obtain ⟨final, rfl, hrun⟩ := exists_final_of_renderTo h
  unfold fileText at hrun
  rw [run_bind_ok run_read] at hrun
  dsimp only at hrun
  obtain ⟨r, s₁, hsections, hrun⟩ := exists_of_run_bind hrun
  obtain ⟨_, _, hget, hrun⟩ := exists_of_run_bind hrun
  cases hget
  obtain ⟨_, _, himports, hreturn⟩ := exists_of_run_bind hrun
  cases hreturn
  refine ⟨r, s₁, _, hsections, (inferInstance : Keeps Unmarked _).of_run himports, rfl, fun h => ?_⟩
  obtain ⟨_, hfound, hflatten⟩ := exists_placed_of_anchored h
  rw [String.toList_append, ← hflatten]
  -- The head of the file comes before all fragments.
  exact (placed_join (toList_gap_ne_nil hprofile) (.cons (a := []) trivial hfound)).append_right _

/-- **The fragments of a unit occur in its text in order**, those with a line break apart, and are
those listed for the unit. -/
theorem exists_placed_of_renderTo (hprofile : env.profile ∈ builtins) {path : String}
    {s : Session} (h : renderTo env path = .ok (.ok text, s)) :
    Placed text.toList 0 ((wholeFragments s.trace).map String.toList) ∧
      marksOf s.trace = unitMarks env ∧
      ∀ e ∈ s.trace, e.kind = .wait → ∃ e' ∈ s.trace, e'.kind = .action ∧
        e'.fragment = e.fragment := by
  obtain ⟨r, _, final, hsections, hidle, rfl, hplaced⟩ := exists_sections_of_renderTo hprofile h
  have htraced := ((unitTracing env).unitSections hsections).trans (Lining.idle hidle)
  rw [List.append_nil, List.append_nil, items_unitTracing] at htraced
  obtain ⟨entries, htrace, hlying⟩ := htraced
  obtain rfl : final.session.trace = entries := htrace
  exact ⟨hplaced hlying.anchored, hlying.marked, hlying.waits⟩

end File

end TestMigration.Rendering
