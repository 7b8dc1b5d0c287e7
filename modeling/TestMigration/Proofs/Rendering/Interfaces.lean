import Mathlib.Data.Finset.Card
import Mathlib.Logic.Relation
import Mathlib.Order.Monotone.Basic
import TestMigration.Profile.Builtin
import TestMigration.Proofs.Linking.Calls
import TestMigration.Proofs.Rendering.SideBySide
/-!
# What a unit shows of itself

The rendering of a unit asks for other units where they are called, created or imported, and all it
sees of them is their interface: names, package, kind and the signatures of the methods. Their
bodies, constants and locators leave no mark, unless calls are replaced by bodies
(`renderUnit_eq_of_interfaces`).

A field defined through itself is followed as often as the model has fields, a number that is not
part of an interface. But it does not matter (`fields_matching`): with every level the fields whose
text is found become more, until there is a level on which none is added, and from there on none is
ever added.
-/

namespace TestMigration.Rendering

open TestMigration.Action Text Profile

/-! ### How often fields are followed -/

namespace View

variable {V W : View} {α : Type} {p q r : Except Stop α × State}

theorem Alike.symm {s t : State} (h : V.Alike s t) : V.Alike t s :=
  ⟨h.frame.symm, h.code.symm, h.session.symm, h.frame ▸ h.allowed⟩

theorem Agree.circular_of (h : V.Agree p q) (hq : Circular q.1) : Circular p.1 := by
  rcases h with _ | ⟨hcircle, -⟩
  · exact hq
  · exact hcircle

theorem Agree.imp (h : V.Agree p q) (halike : ∀ {s t}, V.Alike s t → W.Alike s t)
    (hcircle : V.oneSided → Circular p.1 → Circular q.1) : W.Agree p q := by
  rcases h with hsame | ⟨hfirst, hone | hsecond⟩
  · exact .same (halike hsame)
  · exact .circular hfirst (.inr (hcircle hone hfirst))
  · exact .circular hfirst (.inr hsecond)

theorem Agree.symm (htwo : ¬V.oneSided) (h : V.Agree p q) : V.Agree q p := by
  rcases h with hsame | ⟨hcircle, hone | hcircle'⟩
  · exact .same hsame.symm
  · exact absurd hone htwo
  · exact .circular hcircle' (.inr hcircle)

theorem Agree.trans (h : V.Agree p q) (h' : V.Agree q r) : V.Agree p r := by
  rcases h with hsame | ⟨hcircle, hnext⟩ <;> rcases h' with hsame' | ⟨hcircle', hnext'⟩
  · exact .same ⟨hsame'.frame.trans hsame.frame, hsame'.code.trans hsame.code,
      hsame'.session.trans hsame.session, hsame.allowed⟩
  · exact .circular hcircle' hnext'
  · exact .circular hcircle hnext
  · exact .circular hcircle hnext'

end View

/-- All fields that can be reached in a frame, and others. -/
def fieldsIn (env : Env) (o : Frame) : List LocatorField :=
  (o.unit :: env.model.units).flatMap (·.locatorFields)

theorem run_fieldCount (env : Env) (s : State) :
    fieldCount.run env s = (.ok (fieldsIn env s.frame).length, s) := by
  have hsum (l : List SourceUnit) (n : Nat) : l.foldl (fun n u => n + u.locatorFields.length) n =
      n + (l.flatMap (·.locatorFields)).length := by
    induction l generalizing n with
    | nil => rfl
    | cons u _ ih => rw [List.foldl_cons, ih, List.flatMap_cons, List.length_append, Nat.add_assoc]
  change (Except.ok (List.foldl _ 0 _), s) = _
  rw [hsum, Nat.zero_add]
  rfl

theorem mem_fieldsIn {env : Env} {o : Frame} {f : LocatorField}
    (h : Reached env.model (fun u => ∃ o', o' = o ∧ o'.unit = u) f) : f ∈ fieldsIn env o := by
  obtain ⟨_, _, ⟨o, rfl, rfl⟩, hchain, v, hv, hf⟩ := h
  have hunits := List.cons_subset_cons o.unit fun _ => mem_units_of_superclassChain hchain
  exact List.mem_flatMap.mpr ⟨v, hunits hv, hf⟩

theorem akin_fieldElement_succ {env : Env} {K : Kind} [Kind.Values env K] {n n' : Nat}
    (h : ∀ {f}, Reached env.model K.inside f → Akin env K (fieldElement n f) (fieldElement n' f))
    (f : LocatorField) : Akin env K (fieldElement (n + 1) f) (fieldElement (n' + 1) f) := by
  have := Akin.locatorExpression h f.locator
  unfold fieldElement
  infer_instance

section Depth

variable {env : Env} {V : View} [View.Shared V.seen] {o : Frame} {n n' : Nat}

/-- The steps that match in one frame. -/
abbrev Within (env : Env) (V : View) (o : Frame) (oneSided : Prop) : Kind :=
  Matching env env.model { V with frames := (· = o), oneSided }

variable {f : LocatorField}

theorem within_of_le (h : n ≤ n') (f : LocatorField) :
    Akin env (Within env V o True) (fieldElement n f) (fieldElement n' f) := by
  induction n generalizing n' f with
  | zero => exact ⟨fun s t _ => .circular ⟨_, rfl⟩ (.inl trivial)⟩
  | succ n ih =>
    obtain ⟨k, rfl⟩ := Nat.exists_eq_add_of_le' (Nat.le_of_add_left_le h)
    exact akin_fieldElement_succ (fun _ => ih (Nat.le_of_succ_le_succ h) _) f

open Classical in
/-- The fields that have a text when they are followed so often. -/
noncomputable def found (env : Env) (o : Frame) (n : Nat) : Finset LocatorField :=
  (fieldsIn env o).toFinset.filter fun f => ¬Circular (evalIn env o (fieldElement n f))

theorem mem_found {s : State} (hs : s.frame = o) :
    f ∈ found env o n ↔ f ∈ fieldsIn env o ∧ ¬Circular ((fieldElement n f).run env s).1 := by
  classical
  rw [found, Finset.mem_filter, List.mem_toFinset, evalIn,
    (Framed.within (x := fieldElement n f) env).result (s := s) (t := { frame := o }) hs]

theorem found_mono (env : Env) (o : Frame) : Monotone (found env o) := by
  intro n n' h f hf
  have hakin : Akin env (Within env {} o True) (fieldElement n f) (fieldElement n' f) :=
    within_of_le h f
  have hboth := hakin.out { frame := o } { frame := o } ⟨rfl, rfl, rfl, rfl⟩
  rw [mem_found (s := { frame := o }) rfl] at hf ⊢
  exact ⟨hf.1, fun hcircle => hf.2 (hboth.circular_of hcircle)⟩

theorem within_of_card_eq (h : n ≤ n') (hcard : (found env o n).card = (found env o n').card)
    (hf : f ∈ fieldsIn env o) :
    Akin env (Within env V o False) (fieldElement n f) (fieldElement n' f) := by
  have hsame := Finset.eq_of_subset_of_card_le (found_mono env o h) hcard.ge
  refine ⟨fun s t halike => ?_⟩
  refine ((within_of_le (V := V) h f).out s t ⟨halike.1, halike.2, halike.3, halike.4⟩).imp
    (fun h => ⟨h.1, h.2, h.3, h.4⟩) fun _ hcircle => ?_
  by_contra hnot
  have hmem := (mem_found (halike.frame.trans halike.allowed)).mpr ⟨hf, hnot⟩
  exact ((mem_found halike.allowed).mp (hsame ▸ hmem)).2 hcircle

/-- **Behind as many levels as there are fields, it does not matter how often they are
followed.** -/
theorem within_fieldElement (hn : (fieldsIn env o).length ≤ n) (h : n ≤ n') (f : LocatorField) :
    Akin env (Within env V o False) (fieldElement (n + 1) f) (fieldElement (n' + 1) f) := by
  classical
  have hstable {k : Nat} (hk : (fieldsIn env o).length ≤ k) :
      (found env o k).card = (found env o (fieldsIn env o).length).card := by
    refine Nat.stabilises_of_monotone (f := fun n => (found env o n).card)
      (fun _ _ h => Finset.card_le_card (found_mono env o h))
      (fun _ => (Finset.card_filter_le _ _).trans (List.toFinset_card_le _)) (fun k hcard => ?_) hk
    have hnext (f : LocatorField) : Akin env (Within env {} o False) (fieldElement (k + 1) f)
        (fieldElement (k + 2) f) :=
      akin_fieldElement_succ (fun hf => within_of_card_eq (Nat.le_succ k) hcard (mem_fieldsIn hf)) f
    refine congrArg Finset.card ((found_mono env o (Nat.le_succ (k + 1))).antisymm fun f hf => ?_)
    have hboth := (hnext f).out { frame := o } { frame := o } ⟨rfl, rfl, rfl, rfl⟩
    rw [mem_found (s := { frame := o }) rfl] at hf ⊢
    exact ⟨hf.1, fun hcircle => hf.2 ((hboth.symm id).circular_of hcircle)⟩
  exact akin_fieldElement_succ (fun hf => within_of_card_eq h
    ((hstable hn).trans (hstable (hn.trans h)).symm) (mem_fieldsIn hf)) f

end Depth

theorem fields_matching {env : Env} {m : Model} {V : View} [Paired env m V] [View.Shared V.seen]
    (htwo : ¬V.oneSided) : Kind.Fields env (Matching env m V) where
  ofField f s t halike := by
    have hany {p q : Except Stop String × State}
        (h : View.Agree { V with frames := (· = s.frame), oneSided := False } p q) : V.Agree p q :=
      h.imp (fun h => ⟨h.frame, h.code, h.session, h.allowed ▸ halike.allowed⟩) nofun
    unfold fieldText
    rw [run_bind_ok (run_fieldCount ..), run_bind_ok (run_fieldCount ..), halike.frame]
    generalize hn : (fieldsIn env s.frame).length = n
    generalize hn' : (fieldsIn { env with model := m } s.frame).length = n'
    have hfirst := (within_fieldElement (V := V) hn.le (le_max_left n n') f).out s s
      ⟨rfl, rfl, rfl, rfl⟩
    have hsame : Is env (Matching env m V) (fieldElement (max n n' + 1) f) := inferInstance
    have hboth := hsame.out s t halike
    have hlast := (within_fieldElement (V := V) hn'.le (le_max_right n n') f).out t t
      ⟨rfl, rfl, rfl, halike.frame⟩
    exact (hany hfirst).trans (hboth.trans ((hany hlast).symm htwo))

/-! ### What is seen of imports -/

end TestMigration.Rendering

namespace TestMigration

/-- A unit with only what the file of another unit can show of it. -/
def SourceUnit.face (u : SourceUnit) : SourceUnit where
  unitName := u.unitName
  qualifiedName := ""
  simpleName := u.simpleName
  package := u.package
  kind := u.kind
  imports := []
  provenance := default

theorem SourceUnit.SameInterface.face {u u' : SourceUnit} (h : u.SameInterface u') :
    u'.face = u.face := by
  rw [SourceUnit.face, h.unitName, h.simpleName, h.package, h.kind, SourceUnit.face]

section Maps

variable {κ α β : Type} [DecidableEq κ] (f : α → β)

theorem Table.map_put (key : κ) (a : α) (t : Table κ α) :
    (Table.put key a t).map (Prod.map id f) = Table.put key (f a) (t.map (Prod.map id f)) := by
  induction t with
  | nil => rfl
  | cons entry _ ih =>
    by_cases hkey : entry.1 = key <;> simp [Table.put, Prod.map, hkey, ih]

theorem Table.get?_map (key : κ) (t : Table κ α) :
    Table.get? key (t.map (Prod.map id f)) = (Table.get? key t).map f := by
  induction t with
  | nil => rfl
  | cons entry _ ih =>
    by_cases hkey : entry.1 = key <;> simp [Table.get?, hkey, ih]

theorem sortBy_map {le : α → α → Bool} {le' : β → β → Bool} (hle : ∀ a b, le' (f a) (f b) = le a b)
    (xs : List α) : sortBy le' (xs.map f) = (sortBy le xs).map f := by
  rw [sortBy_eq_insertionSort, sortBy_eq_insertionSort]
  exact (List.map_insertionSort _ _ f xs fun a _ b _ => by rw [hle]).symm

end Maps

end TestMigration

namespace TestMigration.Rendering

open TestMigration.Action Text Profile

/-- A session in which imported units are only seen from outside. -/
def Session.faces (s : Session) : Session :=
  { s with
    classImports := s.classImports.map (Prod.map id SourceUnit.face)
    moduleImports := s.moduleImports.map (Prod.map id SourceUnit.face)
    functionImports := s.functionImports.map (Prod.map id (Prod.map SourceUnit.face id)) }

instance : View.Shared Session.faces where
  trace e h := by simp_all [Session.faces]
  count h := by simp_all [Session.faces]
  note key d h := by
    have hnotes : _ = _ := congrArg Session.notes h
    simp only [Session.faces] at hnotes
    rw [hnotes]
    split
    · exact h
    · simp_all [Session.faces]
  ofClass hu h := by simp_all [Session.faces, Table.map_put, hu.face]
  ofModule hu h := by simp_all [Session.faces, Table.map_put, hu.face]
  ofFunction := by
    intro s t u _ hu _ h
    have hnames : (Table.get? u.unitName t.functionImports).map (·.2) =
        (Table.get? u.unitName s.functionImports).map (·.2) := by
      have hboth :=
        congrArg (fun s : Session => (Table.get? u.unitName s.functionImports).map (·.2)) h
      simpa [Session.faces, Table.get?_map, Function.comp_def] using hboth
    simp_all [Session.faces, Table.map_put, hu.face]

theorem importLines_faces (env : Env) (path : String) (s : Session) :
    importLines env path s.faces = importLines env path s := by
  have hsorted {α β : Type} (f : α → β) (t : Table String α) :
      sortBy (fun a b => textLe a.1 b.1) (t.map (Prod.map id f)) =
        (sortBy (fun a b => textLe a.1 b.1) t).map (Prod.map id f) :=
          sortBy_map _ (fun _ _ => rfl) t
  unfold importLines
  simp only [Session.faces, hsorted, List.mapM_map]
  rfl

/-! ### Models that look the same to a unit -/

end TestMigration.Rendering

namespace TestMigration

/-- A unit stands above another: it is the unit itself, its superclass, the superclass of that and
so on. -/
def Model.Above (m : Model) : String → String → Prop :=
  Relation.ReflTransGen fun name parent => Table.get? name m.superclasses = some parent

/-- Two models with the same links that agree on the units above one, and on all interfaces. -/
structure Model.SameAround (name : String) (m m' : Model) : Prop where
  units : List.Forall₂ SourceUnit.SameInterface m.units m'.units
  resolutions : m'.resolutions = m.resolutions
  superclasses : m'.superclasses = m.superclasses
  lineage {ancestor : String} : m.Above name ancestor → m'.unit ancestor = m.unit ancestor

variable {m : Model} {name : String}

theorem Model.above_of_mem {n : Nat} {seen : List String} {parent : String}
    (h : parent ∈ superclassNames m.superclasses n seen name) : m.Above name parent := by
  induction n generalizing seen name with
  | zero => cases h
  | succ n ih =>
    unfold superclassNames at h
    split at h
    · cases h
    · rename_i next hnext
      split at h
      · cases h
      · rcases List.mem_cons.mp h with rfl | hmem
        · exact .single hnext
        · exact .head hnext (ih hmem)

theorem Model.SameAround.superclassChain {ancestor : String} {m' : Model} (h : m.SameAround name m')
    (habove : m.Above name ancestor) :
    m'.superclassChain ancestor = m.superclassChain ancestor := by
  have hall : ∀ parent ∈ superclassNames m.superclasses m.superclasses.length [ancestor] ancestor,
      m'.unit parent = m.unit parent :=
        fun parent hmem => h.lineage (habove.trans (above_of_mem hmem))
  unfold Model.superclassChain
  rw [h.superclasses]
  revert hall
  generalize superclassNames _ _ _ _ = names
  intro hall
  induction names with
  | nil => rfl
  | cons parent _ ih =>
    rw [List.forall_mem_cons] at hall
    rw [List.mapM_cons, List.mapM_cons, hall.1, ih hall.2]

end TestMigration

namespace TestMigration.Rendering

open TestMigration.Action Text Profile

/-- What the rendering of a unit is allowed to see. -/
abbrev View.outer (env : Env) : View where
  frames o := env.model.Above env.unit.unitName o.unit.unitName
  Seen := Session
  seen := Session.faces

variable {env : Env} {m : Model}

instance {env : Env} : (View.outer env).Whole env where
  reframe h hunit := by
    change env.model.Above _ _
    rwa [hunit]
  here := ⟨env.start.frame, .refl, rfl⟩
  inherited {chain} hchain u hu := by
    obtain ⟨name, hname, hunit⟩ := exists_of_mem_mapM hchain hu
    have hsame : u.unitName = name := by simpa using List.find?_some (find?_of_unit hunit)
    refine ⟨{ env.start.frame with unit := u }, ?_, rfl⟩
    change env.model.Above env.unit.unitName u.unitName
    rw [hsame]
    exact Model.above_of_mem hname

theorem Akin.state {V : View} {β : Type} {f g : State → Render β}
    (h : ∀ {s t}, V.Alike s t → Akin env (Matching env m V) (f s) (g t)) :
    Akin env (Matching env m V) (get >>= f) (get >>= g) :=
  ⟨fun s t halike => (h halike).out s t halike⟩

theorem matching_fileText (hcall : env.strategy = .call)
    (h : env.model.SameAround env.unit.unitName m) (path : String) :
    (Matching env m (View.outer env)).Holds (fileText path) (fileText path) := by
  have : Paired env m (View.outer env) := ⟨h.units, h.resolutions, by
    rintro _ ⟨o, habove, rfl⟩
    exact h.superclassChain habove⟩
  have : Kind.Fields env (Matching env m (View.outer env)) := fields_matching id
  have : Kind.Splices env (Matching env m (View.outer env)) :=
    { ofSplice := fun hinline => by
        rw [hcall] at hinline
        cases hinline }
  have hfile : Is env (Matching env m (View.outer env)) (fileText path) := by
    refine .ask fun m' _ => Akin.after inferInstance fun _ => .state fun {s t} halike => ?_
    have himports : importLines { env with model := m' } path t.session =
        importLines env path s.session := by
      change importLines env path t.session = _
      rw [← importLines_faces, show t.session.faces = s.session.faces from halike.session,
        importLines_faces]
    rw [himports]
    infer_instance
  exact hfile.out

/-- Two endings of a rendering show the same of the imported units. -/
inductive SameEnding {α : Type} : Except Halt (α × Session) → Except Halt (α × Session) → Prop where
  | ended {a : α} {s t : Session} (h : t.faces = s.faces) : SameEnding (.ok (a, s)) (.ok (a, t))
  | halted (halt halt' : Halt) : SameEnding (.error halt) (.error halt')

theorem sameEnding_renderTo (hcall : env.strategy = .call)
    (h : env.model.SameAround env.unit.unitName m) (path : String) :
    SameEnding (renderTo env path) (renderTo { env with model := m } path) := by
  have hboth := matching_fileText hcall h path env.start env.start ⟨rfl, rfl, rfl, .refl⟩
  unfold renderTo
  dsimp only
  unfold Env.start at hboth
  revert hboth
  generalize (fileText path).run _ _ = p
  generalize (fileText path).run _ _ = q
  rintro (@⟨r, s, t, hsame⟩ | ⟨⟨_, rfl⟩, hone | ⟨_, rfl⟩⟩)
  · rcases r with (r | text | _) | text
    · exact .ended hsame.session
    · exact .halted _ _
    · exact .halted _ _
    · exact .ended hsame.session
  · exact hone.elim
  · exact .halted _ _

theorem sameEnding_renderUnit (hcall : env.strategy = .call)
    (h : env.model.SameAround env.unit.unitName m) :
    SameEnding (renderUnit env) (renderUnit { env with model := m }) := by
  unfold renderUnit
  cases outputPath env.profile env.unit with
  | error => exact .halted _ _
  | ok path =>
    have hboth := sameEnding_renderTo hcall h path
    simp only [Bind.bind, Except.bind]
    revert hboth
    generalize renderTo env path = p
    generalize renderTo _ path = q
    rintro (@⟨ending, s, t, hsame⟩ | _)
    · cases ending with
      | error r => exact .ended hsame
      | ok text =>
        have hgates : runGates env text t.faces = runGates env text s.faces := congrArg _ hsame
        change runGates { env with model := m } text t = runGates env text s at hgates
        dsimp only
        rw [hgates]
        cases runGates env text s <;> exact .ended hsame
    · exact .halted _ _

/-- What becomes of a unit: its file or refusal, and what is said about it. -/
def outcome (env : Env) : Option (Except Refusal OutputUnit × List Diagnostic) :=
  (renderUnit env).toOption.map fun (ending, s) => (ending, s.diagnostics)

/-- **A unit is rendered without a look inside of others.** -/
theorem renderUnit_eq_of_interfaces {env : Env} {m : Model} (hcall : env.strategy = .call)
    (h : env.model.SameAround env.unit.unitName m) :
    outcome { env with model := m } = outcome env := by
  have hboth := sameEnding_renderUnit hcall h
  unfold outcome
  revert hboth
  generalize renderUnit env = p
  generalize renderUnit _ = q
  rintro (@⟨ending, s, t, hsame⟩ | _)
  · have hdiagnostics : t.faces.diagnostics = s.faces.diagnostics := congrArg _ hsame
    exact congrArg (fun d => some (ending, d)) hdiagnostics
  · rfl

def callingTest : SourceUnit :=
  { bareUnit "T.java" "LoginTest" .testClass with tests := [{
    name := "login", provenance := ⟨"T.java", 3, 5⟩
    actions := [.delegate { call := .mk "c1" "Opener" "start" [] .static "" "Opener.start()"
                            provenance := ⟨"T.java", 4, 4⟩ }] }] }

def openingUnit (address : String) : SourceUnit :=
  { bareUnit "O.java" "Opener" .utilityModule with methods := [{
    name := "start", params := [], returnType := "void", role := .helper, static := true
    actions := [.navigate (.literal { value := .text address }) ⟨"O.java", 4, 4⟩]
    provenance := ⟨"O.java", 3, 5⟩ }] }

def callingModel (address : String) : Model :=
  Linking.linkedModel [callingTest, openingUnit address] []

def callingEnv : Env where
  model := callingModel "a"
  profile := playwrightTs
  strategy := .call
  unit := callingTest

theorem sameAround_callingModel :
    (callingModel "a").SameAround callingTest.unitName (callingModel "b") where
  units := .cons ⟨rfl, rfl, rfl, rfl, .cons ⟨rfl, rfl, rfl, rfl, rfl⟩ .nil⟩ (.cons (.refl _) .nil)
  resolutions := rfl
  superclasses := rfl
  lineage h := by
    induction h with
    | refl => rfl
    | tail _ hnext => cases hnext

theorem renderUnit_eq_of_interfaces_callingEnv : (outcome callingEnv).any (·.1.isOk) = true ∧
    outcome { callingEnv with model := callingModel "b" } = outcome callingEnv :=
  ⟨by decide +kernel, renderUnit_eq_of_interfaces rfl sameAround_callingModel⟩

end TestMigration.Rendering
