import TestMigration.Proofs.Rendering.MissedWaits
import TestMigration.Proofs.Rendering.TwinUnits
/-!
# What calls kept as text cost a unit

A call that leaves the project is kept as text when units are linked, and the statement it is in
becomes a comment. Whether the unit can still be written is compared with the unit that has ordinary
texts in place of the calls. If that one is written, the linked one is written exactly if
(`written_iff_of_literal`)

* none of its bodies stalls at an element whose lookup has become a comment;
* no wait that is come across has become a comment, which can be read off the unit as well;
* its locators are found in the text. A lookup that is written where its element is used is noted
  for the check even if the statement that uses it has become a comment.

The order of the source needs no attention, since what the linked unit leaves is a part of what the
other one leaves (`sublist_marksOver`). So a unit can be lost by its calls: an index that comes from
outside is enough (`linked_unit_refused`).
-/

namespace TestMigration.Rendering

open TestMigration.Action Linking Text Profile
open scoped List

/-! ### Imports -/

def Placeable (p : Profile) (u : SourceUnit) : Prop := ∃ path, outputPath p u = .ok path

/-- All units that a session imports have a place in the output. -/
structure ImportsPlaceable (p : Profile) (s : Session) : Prop where
  classes : ∀ e ∈ s.classImports, Placeable p e.2
  functions : ∀ e ∈ s.functionImports, Placeable p e.2.1
  modules : ∀ e ∈ s.moduleImports, Placeable p e.2

section Imports

variable {env : Env}

theorem stable_importsPlaceable (h : ∀ u ∈ env.model.units, Placeable env.profile u) :
    Stable env (ImportsPlaceable env.profile) where
  trace _ hs := ⟨hs.classes, hs.functions, hs.modules⟩
  wait hs := ⟨hs.classes, hs.functions, hs.modules⟩
  waited _ _ _ hs := ⟨hs.classes, hs.functions, hs.modules⟩
  remark _ _ hs := ⟨hs.classes, hs.functions, hs.modules⟩
  ofClass hu hs := ⟨Table.forall_mem_put (h _ hu) hs.classes, hs.functions, hs.modules⟩
  ofModule hu hs := ⟨hs.classes, hs.functions, Table.forall_mem_put (h _ hu) hs.modules⟩
  ofFunctions {_ u} hu _ hs :=
    have hfunctions :=
      Table.forall_mem_put (P := fun e : SourceUnit × List String => Placeable _ e.1)
      (h u hu) hs.functions
    ⟨hs.classes, hfunctions, hs.modules⟩

theorem exists_mapM_ok {α β ε : Type} {f : α → Except ε β} {l : List α}
    (h : ∀ a ∈ l, ∃ b, f a = .ok b) : ∃ bs, l.mapM f = .ok bs := by
  induction l with
  | nil => exact ⟨[], rfl⟩
  | cons a _ ih =>
    obtain ⟨⟨b, hb⟩, hrest⟩ := List.forall_mem_cons.mp h
    obtain ⟨bs, hbs⟩ := ih hrest
    refine ⟨b :: bs, ?_⟩
    rw [List.mapM_cons, hb, hbs]
    rfl

theorem exists_importLines {s : Session} (h : ImportsPlaceable env.profile s) (path : String) :
    ∃ imports, importLines env path s = .ok imports := by
  have htarget : ∀ {u}, Placeable env.profile u → ∃ target,
      importTarget env.profile path u = .ok target := by
    rintro u ⟨target, htarget⟩
    unfold importTarget
    rw [htarget]
    exact ⟨_, rfl⟩
  have hline : ∀ {u} (template : String) (first : String × String), Placeable env.profile u →
    ∃ text,
      (do return fill template (first :: (← importTarget env.profile path u)) :
        Except Halt String) =
        .ok text := by
    intro u template first hu
    obtain ⟨target, htarget⟩ := htarget hu
    rw [htarget]
    exact ⟨_, rfl⟩
  unfold importLines
  dsimp only
  obtain ⟨classes, hclasses⟩ := exists_mapM_ok
    (l := sortBy (fun a b => textLe a.1 b.1) s.classImports)
    fun e he => hline env.profile.files.importClass ("name", e.2.simpleName)
      (h.classes e (mem_sortBy.mp he))
  obtain ⟨functions, hfunctions⟩ := exists_mapM_ok
    (l := sortBy (fun a b => textLe a.1 b.1) s.functionImports)
    fun e he => hline env.profile.files.importFunctions ("names", join ", " (sortTexts e.2.2))
      (h.functions e (mem_sortBy.mp he))
  obtain ⟨modules, hmodules⟩ := exists_mapM_ok
    (l := sortBy (fun a b => textLe a.1 b.1) s.moduleImports)
    fun e he => hline env.profile.files.importModule ("alias", moduleAlias env.profile e.2)
      (h.modules e (mem_sortBy.mp he))
  refine ⟨classes ++ functions ++ modules, ?_⟩
  rw [hclasses, hfunctions, hmodules]
  rfl

/-- The profiles that come with the program have a place for each unit. -/
theorem placeable_of_mem_builtins (h : env.profile ∈ builtins) {u : SourceUnit}
    (hu : u.kind ≠ .support) : Placeable env.profile u := by
  have hkind : ∃ template, Table.get? u.kind.word env.profile.paths = some template := by
    rcases List.mem_pair.mp h with hp | hp <;> rw [hp] <;> cases hk : u.kind <;>
      first | exact absurd hk hu | exact ⟨_, rfl⟩
  obtain ⟨template, htemplate⟩ := hkind
  unfold Placeable outputPath
  rw [htemplate]
  exact ⟨_, rfl⟩

end Imports

/-! ### Rendering -/

section Rendering

variable {env : Env} {path : String}

theorem gives_fileText_iff (hplace : ∀ u ∈ env.model.units, Placeable env.profile u) {s : State}
    (hs : ImportsPlaceable env.profile s.session) :
    Gives env (fileText path) s ↔ Gives env unitSections s := by
  have hstable := stable_importsPlaceable hplace
  constructor
  · rintro ⟨_, _, hrun⟩
    unfold fileText at hrun
    rw [run_bind_ok run_read] at hrun
    obtain ⟨sections, s₁, hsections, -⟩ := exists_of_run_bind hrun
    exact ⟨sections, s₁, hsections⟩
  · rintro ⟨⟨_, sections⟩, s₁, hsections⟩
    have hupholds : Is env (Upholding env (ImportsPlaceable env.profile)) unitSections :=
      inferInstance
    have hs₁ := hupholds.out.out s hs
    rw [hsections] at hs₁
    obtain ⟨_, himports⟩ := exists_importLines hs₁ path
    have hget : (get : Render State).run env s₁ = (.ok s₁, s₁) := rfl
    unfold fileText Gives
    simp only [run_bind_ok run_read, run_bind_ok hsections, run_bind_ok hget, himports]
    exact ⟨_, s₁, rfl⟩

theorem exists_renderTo_iff_gives :
    (∃ text s, renderTo env path = .ok (.ok text, s)) ↔ Gives env (fileText path) env.start := by
  constructor
  · rintro ⟨text, s, h⟩
    obtain ⟨final, -, ⟨text', -, hrun⟩ | ⟨r, hending, -⟩⟩ := renderTo_cases h
    · exact ⟨text', final, hrun⟩
    · cases hending
  · rintro ⟨text, final, hrun⟩
    refine ⟨text, final.session, ?_⟩
    unfold renderTo
    dsimp only
    rw [← Env.start, hrun]

theorem exists_renderUnit_iff : (∃ out s, renderUnit env = .ok (.ok out, s)) ↔
    ∃ path, outputPath env.profile env.unit = .ok path ∧ ∃ text s, renderTo env path =
      .ok (.ok text, s) ∧
      ∃ results, runGates env text s = .ok results := by
  constructor
  · rintro ⟨out, s, h⟩
    obtain ⟨path, hpath,
      ⟨r, hending, -⟩ | ⟨text, hrendered, ⟨r, hending, -⟩ | ⟨results, hgates, -⟩⟩⟩ :=
      renderUnit_cases h
    · cases hending
    · cases hending
    · exact ⟨path, hpath, text, s, hrendered, results, hgates⟩
  · rintro ⟨path, hpath, text, s, hrendered, results, hgates⟩
    refine ⟨{
      qualifiedName := dotted path, path, kind := env.unit.kind, source := env.unit.unitName
      text }, s, ?_⟩
    refine bind_eq_ok_iff.mpr ⟨path, hpath, bind_eq_ok_iff.mpr ⟨_, hrendered, ?_⟩⟩
    dsimp only
    rw [hgates]
    rfl

end Rendering

/-! ### Checks -/

/-- The number of waits that leave a fragment. -/
def markedWaits (env : Env) : Nat := (unitMarks env).countP (·.kind == .wait)

/-- What the checks find in a text beyond the unit: its locators, and fragments with a line
break. -/
structure RestFound (env : Env) (text : String) (s : Session) : Prop where
  locators {e : TraceEntry} (he : e ∈ s.trace) (hkind : e.kind = .locator) {l : Locator}
    (hl : l ∈ e.locator) : mismatches env.profile e l = false ∧ e.fragment.toList <:+: text.toList
  waits {e : TraceEntry} (he : e ∈ s.trace) (hkind : e.kind = .wait) (hbroken : e.broken = true) :
    e.fragment.toList <:+: text.toList
  bodies (name : String)
    (hbroken : (entriesIn env.unit.unitName name s.trace).any TraceEntry.broken = true) :
    Placed text.toList 0 ((entriesIn env.unit.unitName name s.trace).map (·.fragment.toList))

section Checks

variable {env : Env} {path text : String} {s : Session}

theorem waitEntries_eq_countP_marksOf :
    waitEntries s = (marksOf s.trace).countP (·.kind == .wait) := by
  rw [marksOf, List.countP_map, List.countP_filter]
  refine List.countP_congr fun e _ => ?_
  cases hkind : e.kind <;> simp [hkind]

/-- All waits are come across but for those that are lost. -/
theorem waits_add_lostWaits (henv : env.strategy ≠ .inline)
    (h : renderTo env path = .ok (.ok text, s)) : s.waits + lostWaits env = unitWaits env := by
  obtain ⟨_, _, hstart, rfl, hrun⟩ := exists_of_renderTo h
  have hwaits := (written_fileText henv hrun).waits
  rw [hstart] at hwaits
  change _ + lostWaits env = 0 + unitWaits env at hwaits
  omega

theorem occurs_of_whole_wait (hprofile : env.profile ∈ builtins)
    (h : renderTo env path = .ok (.ok text, s)) {e : TraceEntry} (he : e ∈ s.trace)
    (hkind : e.kind = .wait) (hwhole : e.broken = false) : e.fragment.toList <:+: text.toList := by
  have := holdsValues_of_mem_builtins hprofile
  obtain ⟨hplaced, -, hpairs⟩ := exists_placed_of_renderTo hprofile h
  obtain ⟨e', he', haction, hsame⟩ := hpairs e he hkind
  have hwhole' : e'.broken = false := by rwa [TraceEntry.broken, hsame]
  have hmem : e.fragment ∈ wholeFragments s.trace := by
    rw [← hsame]
    exact List.mem_map_of_mem (List.mem_filter.mpr ⟨he', by simp [haction, hwhole']⟩)
  exact hplaced.occurs (List.mem_map_of_mem hmem)

/-- **When a rendered unit is accepted**, if no body goes back in the source. -/
theorem exists_runGates_iff_rest (hprofile : env.profile ∈ builtins) (henv : env.strategy ≠ .inline)
    (hlines : ∀ name, (sourceLines env name).Pairwise (· ≤ ·))
    (h : renderTo env path = .ok (.ok text, s)) :
    (∃ results, runGates env text s = .ok results) ↔
      markedWaits env + lostWaits env = unitWaits env ∧ RestFound env text s := by
  have hbounded := (sound_of_renderTo h).bounded
  have hwaits := waits_add_lostWaits henv h
  obtain ⟨-, hmarks⟩ := exists_placed_of_mem_builtins hprofile h
  have hentries : waitEntries s = markedWaits env := by
    rw [waitEntries_eq_countP_marksOf, hmarks, markedWaits]
  rw [exists_runGates_iff, waitGate_passed_iff hbounded, locatorGate_passed_iff,
    orderGate_passed_iff hprofile h]
  constructor
  · rintro ⟨⟨hcount, hfound⟩, hlocators, horder⟩
    refine ⟨by omega, fun he hkind _ hl => hlocators _ he hkind _ hl,
      fun he hkind _ => hfound _ he hkind, fun name => (horder name).2⟩
  · rintro ⟨hcount, hrest⟩
    refine ⟨⟨by omega, fun e he hkind => ?_⟩, fun e he hkind l hl => hrest.locators he hkind hl,
      fun name => ⟨hlines name, hrest.bodies name⟩⟩
    cases hbroken : e.broken with
    | true => exact hrest.waits he hkind hbroken
    | false => exact occurs_of_whole_wait hprofile h he hkind hbroken

end Checks

/-! ### The two forms of a unit -/

section Forms

theorem sublist_marksOver {e : Env} (henv : e.strategy ≠ .inline) (u : SourceUnit)
    {bodies bodies' : List NamedBody} (h : List.Forall₂ (TwinBody e) bodies bodies') :
    marksOver (e.on u) bodies' <+ marksOver e bodies := by
  induction h with
  | nil => exact List.Sublist.refl _
  | @cons b _ bodies bodies' hpair _ ih =>
    obtain ⟨_, _, _, actions, htwin, hapart, hactions, hactions'⟩ := hpair.twin
    rw [marksOver, List.flatMap_cons, hpair.name]
    refine List.Sublist.append (List.Sublist.map _ ?_) ih
    have hlookups := hapart.lookups
    rw [hactions, hactions'] at *
    exact bodyMarks_demoteActions henv htwin actions hlookups

variable {env : Env} {demoted : String → Bool} {u : SourceUnit} {text path : String}

/-- The linked unit has no more source lines in a body. -/
theorem sourceLines_sublist (h : Comparable env demoted u) (name : String) :
    sourceLines (env.on (demoteUnit demoted u)) name <+
      sourceLines (env.on (literalUnit demoted text u)) name := by
  have henv : (env.on (literalUnit demoted text u)).strategy ≠ .inline := h.calls
  exact ((sublist_marksOver henv (demoteUnit demoted u) (twinBodies_of_comparable h)).filter _).map
    _

theorem exists_renderTo_iff_passes (h : Comparable env demoted u)
    (hplace : ∀ v ∈ env.model.units, Placeable env.profile v) {written : String} {s : Session}
    (hliteral : renderTo (env.on (literalUnit demoted text u)) path = .ok (.ok written, s)) :
    (∃ written s, renderTo (env.on (demoteUnit demoted u)) path = .ok (.ok written, s)) ↔
      Passes (env.on (demoteUnit demoted u)) (namedBodies (env.on (demoteUnit demoted u))) := by
  have hrendered : ∀ v, (∃ written s, renderTo (env.on v) path = .ok (.ok written, s)) ↔
      Gives (env.on v) unitSections (env.on v).start := fun v =>
    exists_renderTo_iff_gives.trans
      (@gives_fileText_iff (env.on v) path hplace _ ⟨nofun, nofun, nofun⟩)
  obtain ⟨sections, s₁, hsections⟩ := (hrendered _).mp ⟨written, s, hliteral⟩
  rw [hrendered]
  exact gives_unitSections_iff h ⟨sections, s₁, hsections⟩

theorem outputPath_literalUnit (p : Profile) :
    outputPath p (literalUnit demoted text u) = outputPath p u := rfl

theorem outputPath_demoteUnit (p : Profile) :
    outputPath p (demoteUnit demoted u) = outputPath p u := rfl

/-- If the unit with texts is written, the linked one is exactly if none of its bodies stalls, no
wait come across has become a comment, and the rest is found. -/
theorem written_iff_of_literal (h : Comparable env demoted u) (hprofile : env.profile ∈ builtins)
    (hkinds : ∀ v ∈ env.model.units, v.kind ≠ .support)
    (hpath : outputPath env.profile u = .ok path) {out : OutputUnit} {s : Session}
    (hliteral : renderUnit (env.on (literalUnit demoted text u)) = .ok (.ok out, s)) :
    (∃ out s, renderUnit (env.on (demoteUnit demoted u)) = .ok (.ok out, s)) ↔
      Passes (env.on (demoteUnit demoted u)) (namedBodies (env.on (demoteUnit demoted u))) ∧
      markedWaits (env.on (demoteUnit demoted u)) + lostWaits (env.on (demoteUnit demoted u)) =
        unitWaits (env.on (demoteUnit demoted u)) ∧
      ∀ written s, renderTo (env.on (demoteUnit demoted u)) path = .ok (.ok written, s) →
        RestFound (env.on (demoteUnit demoted u)) written s := by
  have hplace : ∀ v ∈ env.model.units, Placeable env.profile v := fun v hv =>
    placeable_of_mem_builtins hprofile (hkinds v hv)
  obtain ⟨_, hpath', written, s, hrendered, results, hgates⟩ :=
    exists_renderUnit_iff.mp ⟨out, s, hliteral⟩
  rw [outputPath_literalUnit, hpath] at hpath'
  obtain rfl := Except.ok.inj hpath'
  have hpasses := exists_renderTo_iff_passes h hplace hrendered
  -- The unit with texts has passed the check of the order, so its lines never go back.
  have hprofile' : ∀ v, (env.on v).profile ∈ builtins := fun _ => hprofile
  have horder := (orderGate_passed_iff (hprofile' _) hrendered).mp
    (exists_runGates_iff.mp ⟨results, hgates⟩).2.2
  have hlines : ∀ name, (sourceLines (env.on (demoteUnit demoted u)) name).Pairwise (· ≤ ·) :=
    fun name =>
    (horder name).1.sublist (sourceLines_sublist h name)
  have haccepted : ∀ {written s}, renderTo (env.on (demoteUnit demoted u)) path =
    .ok (.ok written, s) →
      ((∃ results, runGates (env.on (demoteUnit demoted u)) written s = .ok results) ↔ _ ∧ _) :=
    fun hlinked => exists_runGates_iff_rest (hprofile' _) h.calls hlines hlinked
  rw [exists_renderUnit_iff, ← hpasses]
  constructor
  · rintro ⟨_, hpath'', written, s, hlinked, hgates⟩
    rw [outputPath_demoteUnit, hpath] at hpath''
    obtain rfl := Except.ok.inj hpath''
    obtain ⟨hwaits, hrest⟩ := (haccepted hlinked).mp hgates
    refine ⟨⟨written, s, hlinked⟩, hwaits, fun written' s' hlinked' => ?_⟩
    rw [hlinked] at hlinked'
    cases hlinked'
    exact hrest
  · rintro ⟨⟨written, s, hlinked⟩, hwaits, hrest⟩
    exact ⟨path, (outputPath_demoteUnit _).trans hpath, written, s, hlinked,
      (haccepted hlinked).mpr ⟨hwaits, hrest _ _ hlinked⟩⟩

end Forms

/-! ### Linked units -/

section Linked

variable {units : List SourceUnit} {failed : List String} {env : Env}

/-- No lookup of a body gives the element of a field. -/
structure LookupsOwn (m : Model) (b : NamedBody) : Prop where
  actions : ∀ a ∈ all b.actions, ActionApart (lookupIds b.actions) a
  fields : ∀ v ∈ b.scope.unit :: m.units, ∀ f ∈ v.locatorFields,
    Apart (lookupIds b.actions) f.locator.value.parts

instance (ids : List String) : DecidablePred (Apart ids) := fun parts =>
  inferInstanceAs (Decidable (∀ part ∈ parts, ∀ id ∈ fieldId? part, id ∉ ids))

instance (ids : List String) : DecidablePred (ActionApart ids) := fun a =>
  decidable_of_iff (Apart ids (partsOf a.values) ∧ ∀ ref ∈ elementsOf a, ref.origin = .field →
    ref.id ∉ ids) ⟨fun h => ⟨h.1, h.2⟩, fun h => ⟨h.values, h.elements⟩⟩

instance : DecidablePred Literal.Writable := fun l =>
  inferInstanceAs (Decidable ((Literal.showsValue l && !l.value.isWritable) = false))

instance (m : Model) : DecidablePred (LookupsOwn m) := fun b =>
  decidable_of_iff ((∀ a ∈ all b.actions, ActionApart (lookupIds b.actions) a) ∧
    ∀ v ∈ b.scope.unit :: m.units, ∀ f ∈ v.locatorFields,
      Apart (lookupIds b.actions) f.locator.value.parts)
    ⟨fun h => ⟨h.1, h.2⟩, fun h => ⟨h.actions, h.fields⟩⟩

theorem fieldsApart_of_lookupsOwn {b : NamedBody} (h : LookupsOwn env.model b) :
    FieldsApart env b := by
  refine ⟨h.actions, fun name f hf => ?_⟩
  unfold Scope.field? at hf
  cases hchain : env.model.superclassChain b.scope.unit.unitName with
  | error =>
    rw [hchain] at hf
    cases hf
  | ok =>
    rw [hchain] at hf
    obtain ⟨v, hv, hfind⟩ := List.exists_of_findSome?_eq_some hf
    have hunits := List.cons_subset_cons b.scope.unit fun _ => mem_units_of_superclassChain hchain
    exact h.fields v (hunits hv) f (List.mem_of_find?_eq_some hfind)

/-- Whether linking keeps a call as text. -/
def keptAsText (units : List SourceUnit) (failed : List String) (id : String) : Bool :=
  (linksOf units failed).demoted.contains id

theorem comparable_of_link (hlink : link units failed = .ok env.model)
    (hstrategy : env.strategy = .call) {u : SourceUnit} (hu : u ∈ units)
    (hconstants : ∀ v ∈ env.model.units, ∀ c ∈ v.constants, Literal.Writable c.value)
    (hlookups : ∀ b ∈ namedBodies (env.on (demoteUnit (keptAsText units failed) u)),
      LookupsOwn env.model b) : Comparable env (keptAsText units failed) u where
  calls := by simp [hstrategy]
  unit := by
    obtain ⟨-, -, hmodel⟩ := link_eq_ok_iff.mp hlink
    rw [hmodel]
    exact List.mem_map_of_mem (mem_sortBy.mpr hu)
  constants := hconstants
  fields b hb := fieldsApart_of_lookupsOwn (hlookups b hb)

/-- **When calls that leave the project cost a unit.** One unit of a linked project is written, with
a profile that comes with the program, if texts stand in place of the calls that leave the project.
Then the linked unit is written exactly if none of its bodies stalls, each wait that is come across
leaves a fragment, and its locators and its fragments with a line break are found in its text. -/
theorem linked_unit_written_iff (hlink : link units failed = .ok env.model)
    (hstrategy : env.strategy = .call) (hprofile : env.profile ∈ builtins)
    (hkinds : ∀ v ∈ env.model.units, v.kind ≠ .support)
    (hconstants : ∀ v ∈ env.model.units, ∀ c ∈ v.constants, Literal.Writable c.value)
    {u : SourceUnit} (hu : u ∈ units) {linked : Env}
    (hlinked : linked = env.on (demoteUnit (keptAsText units failed) u))
    (hlookups : ∀ b ∈ namedBodies linked, LookupsOwn env.model b) {path : String}
    (hpath : outputPath env.profile u = .ok path) {text : String} {out : OutputUnit} {s : Session}
    (hliteral : renderUnit (env.on (literalUnit (keptAsText units failed) text u)) =
      .ok (.ok out, s)) :
    (∃ out s, renderUnit linked = .ok (.ok out, s)) ↔ Passes linked (namedBodies linked) ∧
      markedWaits linked + lostWaits linked = unitWaits linked ∧
      ∀ written s, renderTo linked path = .ok (.ok written, s) → RestFound linked written s := by
  subst hlinked
  exact written_iff_of_literal
    (comparable_of_link hlink hstrategy hu hconstants hlookups) hprofile hkinds hpath hliteral

end Linked

/-- A function that picks an element, makes a note, and returns the element's text. -/
def labelModule (index note : Value) : SourceUnit :=
  { bareUnit "Label.java" "Label" .utilityModule with methods := [{
      name := "label", params := [⟨"items", "List<WebElement>"⟩], returnType := "String",
        role := .function
      static := true, provenance := ⟨"Label.java", 2, 6⟩
      actions := [
        .pick { source := ⟨"param:label:items", "items", .param⟩, index
                ref := { id := "label:item#1", name := "item" },
                  provenance := ⟨"Label.java", 3, 3⟩ },
        .bind { name := "note", value := note, provenance := ⟨"Label.java", 4, 4⟩ },
        .ret (some (.elementQuery { id := "label:item#1", name := "item" } "text" none))
          ⟨"Label.java", 5, 5⟩] }] }

def helperCall : Value := .call (.mk "Label.java#1" "Helper" "get" [] .static "" "Helper.get()")

def outsideNote : SourceUnit :=
  labelModule (.literal { value := .int 0, kind := .number }) helperCall

def outsideIndex : SourceUnit := labelModule helperCall (.literal { value := .text "b" })

def labelEnv (u : SourceUnit) : Env where
  model := linkedModel [u] []
  profile := playwrightTs
  strategy := .call
  unit := u

section Label

variable {u : SourceUnit}

theorem profile_labelEnv : (labelEnv u).profile ∈ builtins :=
  List.mem_cons_of_mem _ (List.mem_singleton.mpr rfl)

theorem link_labelEnv (h : u = outsideNote ∨ u = outsideIndex) :
    link [u] [] = .ok (labelEnv u).model := by
  rw [link_eq_ok_iff, ← List.isEmpty_iff]
  rcases h with rfl | rfl <;> exact ⟨by decide +kernel, by decide +kernel, rfl⟩

theorem exists_literal_labelEnv (h : u = outsideNote ∨ u = outsideIndex) : ∃ out s,
    renderUnit ((labelEnv u).on (literalUnit (keptAsText [u] []) "c" u)) = .ok (.ok out, s) := by
  have hok : (renderUnit ((labelEnv u).on (literalUnit (keptAsText [u] []) "c" u))).toOption.any
      (·.1.isOk) = true := by
    rcases h with rfl | rfl <;> decide +kernel
  obtain ⟨_ | out, s, hrun, hending⟩ := exists_of_any hok
  · cases hending
  · exact ⟨out, s, hrun⟩

end Label

def linkedNote : Env :=
  (labelEnv outsideNote).on (demoteUnit (keptAsText [outsideNote] []) outsideNote)

theorem exists_renderUnit_linkedNote : ∃ out s, renderUnit linkedNote = .ok (.ok out, s) := by
  have hok : (renderUnit linkedNote).toOption.any (·.1.isOk) = true := by decide +kernel
  obtain ⟨_ | out, s, hrun, hending⟩ := exists_of_any hok
  · cases hending
  · exact ⟨out, s, hrun⟩

theorem linked_unit_written_iff_outsideNote : link [outsideNote] [] = .ok linkedNote.model ∧
    (∃ out s, renderUnit linkedNote = .ok (.ok out, s)) ∧
      Passes linkedNote (namedBodies linkedNote) ∧
    markedWaits linkedNote + lostWaits linkedNote = unitWaits linkedNote ∧
    ∀ written s, renderTo linkedNote "Label.ts" = .ok (.ok written, s) →
      RestFound linkedNote written s := by
  obtain ⟨out, s, hliteral⟩ := exists_literal_labelEnv (.inl rfl)
  have hlink := link_labelEnv (.inl rfl)
  have hiff := linked_unit_written_iff hlink rfl profile_labelEnv (by decide +kernel)
    (by decide +kernel) (List.mem_singleton.mpr rfl) (show linkedNote = _ from rfl)
      (by decide +kernel)
    (show outputPath (labelEnv outsideNote).profile outsideNote =
      .ok "Label.ts" by decide +kernel) hliteral
  exact ⟨hlink, exists_renderUnit_linkedNote, hiff.mp exists_renderUnit_linkedNote⟩

/-- **A unit can be lost by a call that leaves the project.** It is written if a text stands in
place of the call, and refused as it is linked. -/
theorem linked_unit_refused :
    ∃ (units : List SourceUnit) (env : Env) (u : SourceUnit) (text : String)
    (out : OutputUnit) (s : Session) (r : Refusal) (s' : Session),
    link units [] = .ok env.model ∧ u ∈ units ∧ env.profile ∈ builtins ∧ env.strategy = .call ∧
      renderUnit (env.on (literalUnit (keptAsText units []) text u)) = .ok (.ok out, s) ∧
      renderUnit (env.on (demoteUnit (keptAsText units []) u)) = .ok (.error r, s') := by
  obtain ⟨out, s, hliteral⟩ := exists_literal_labelEnv (.inr rfl)
  have hrefused : (renderUnit ((labelEnv outsideIndex).on
      (demoteUnit (keptAsText [outsideIndex] []) outsideIndex))).toOption.any
        (!·.1.isOk) = true := by
    decide +kernel
  obtain ⟨refusal | _, s', hrun, hending⟩ := exists_of_any hrefused
  · exact ⟨[outsideIndex], labelEnv outsideIndex, outsideIndex, "c", out, s, refusal, s',
      link_labelEnv (.inr rfl), List.mem_singleton.mpr rfl, profile_labelEnv, rfl, hliteral, hrun⟩
  · cases hending

end TestMigration.Rendering
