import TestMigration.Proofs.Extraction.PageObjects
/-!
# The page objects of a class, body by body

The fields of a class are read first, then its constructors and setups, then its other methods, each
in the state that those before it have left; only the variables of a body go out of scope at its
end. The page objects that are created on the way (`creations`) all go into one table, so the table
is made of that list: of the entries for a name the last one counts (`pageObjects_of_extract`).
-/

namespace TestMigration.Extraction

open Syntax TestMigration.Action Text

/-! ### Fields -/

/-- The page object that a field is given. A field of a project type holds one whatever it starts
with. One declared as a browser or a wait may still be given another object. -/
def fieldCreation? (c : Context) (s : State) (f : FieldDecl) : Option (String × String) :=
  if (f.annotations.find? fun a => isLocatorAnnotation a.name).isSome then none
  else if isDriverType (baseType f.typeName) then
    match f.init with
    | some (.new created args _ _) =>
      let s₁ := stateAfter (do
        define 0 f.name { kind := .driver, typeName := f.typeName }
        addDriver f.name) c s
      createdByNew? s₁ 0 f.name created args
    | _ => none
  else if isWaitType (baseType f.typeName) then
    let s₁ := stateAfter (define 0 f.name { kind := .wait, typeName := f.typeName }) c s
    f.init.bind (creation? s₁ 0 f.name f.typeName)
  else if baseType f.typeName == "Actions" || isScriptType (baseType f.typeName)
      || (baseType f.typeName == "By" && f.init.isSome) then none
  else if isProjectType f.typeName then some (f.name, baseType f.typeName)
  else none

def fieldCreations (c : Context) : List FieldDecl → State → List (String × String)
  | [], _ => []
  | f :: rest,
    s => (fieldCreation? c s f).toList ++ fieldCreations c rest (stateAfter (readField f) c s)

section Fields

variable {c : Context} {s s' : State}
variable (a : Annotation) {f : FieldDecl} {r : FieldReading}

instance {α : Type} (step : Extract α) [Keeps Unrecorded step] :
    Keeps Unrecorded (attempt step) := by
  refine @keeps_tryCatch _ _ _ _ _ inferInstance fun stop => ?_
  split <;> infer_instance

instance : Keeps Unrecorded (annotatedLocator a) := by
  unfold annotatedLocator
  dsimp only
  repeat' first
    | infer_instance
    | split

instance : Keeps Unrecorded (defineValue f) := by
  unfold defineValue
  infer_instance

instance : Keeps Unrecorded (annotatedField f a) := by
  refine .andThen inferInstance fun found => ?_
  split <;> infer_instance

instance (init : Expr) : Keeps Unrecorded (locatorField f init) := by
  refine .andThen inferInstance fun found => ?_
  split <;> infer_instance

theorem recorded_plainField {r : Except Stop FieldReading}
    (hrun : (plainField f).runFrom c s = (r, s')) :
    Recorded (if isProjectType f.typeName then some (f.name, baseType f.typeName)
      else none).toList s s' := by
  unfold plainField at hrun
  by_cases hproject : isProjectType f.typeName = true
  · rw [if_pos hproject] at hrun ⊢
    cases hrun
    rfl
  · rw [if_neg hproject] at hrun ⊢
    refine Keeps.of_runFrom (R := Unrecorded) (h := ?_) hrun
    split
    · have hmodify (l : Literal) : Keeps Unrecorded (modify fun s : State =>
          { s with constants := Table.put f.name l s.constants } : Extract PUnit) :=
        unrecorded_modify fun _ => rfl
      infer_instance
    · infer_instance

theorem recorded_readField (hrun : (readField f).runFrom c s = (.ok r, s')) :
    Recorded (fieldCreation? c s f).toList s s' := by
  unfold readField at hrun
  unfold fieldCreation?
  dsimp only at hrun ⊢
  cases hfind : f.annotations.find? fun a => isLocatorAnnotation a.name with
  | some a =>
    rw [hfind] at hrun
    exact recorded_of_keeps hrun
  | none =>
    rw [hfind] at hrun
    rw [Option.isSome_none, if_neg (by decide)]
    dsimp only at hrun
    by_cases hdriver : isDriverType (baseType f.typeName) = true
    · rw [if_pos hdriver] at hrun ⊢
      obtain ⟨_, s₁, hdefine, hrun⟩ := exists_of_runFrom_bind hrun
      obtain ⟨_, s₂, hadd, hrun⟩ := exists_of_runFrom_bind hrun
      have hset : Recorded [] s s₂ :=
        (recorded_of_keeps hdefine).trans (recorded_of_keeps hadd)
      split
      · rename_i created args _ _ hinit
        rw [hinit] at hrun
        obtain ⟨taken, s₃, habsorb, hrun⟩ := exists_of_runFrom_bind hrun
        cases hrun
        rw [stateAfter, runFrom_bind_ok hdefine, hadd]
        exact (absorbs_absorbNew habsorb).recorded.after hset
      · rename_i hinit
        split at hrun
        · rename_i hnew
          exact (hinit _ _ _ _ hnew).elim
        · cases hrun
          exact hset
    · rw [if_neg hdriver] at hrun ⊢
      by_cases hwait : isWaitType (baseType f.typeName) = true
      · rw [if_pos hwait] at hrun ⊢
        obtain ⟨_, s₁, hdefine, hrun⟩ := exists_of_runFrom_bind hrun
        have hset : Recorded [] s s₁ := recorded_of_keeps hdefine
        rw [stateAfter, hdefine]
        cases hinit : f.init with
        | none =>
          rw [hinit] at hrun
          cases hrun
          exact hset
        | some init =>
          rw [hinit] at hrun
          obtain ⟨taken, s₃, habsorb, hrun⟩ := exists_of_runFrom_bind hrun
          cases hrun
          exact (absorbs_absorb habsorb).recorded.after hset
      · rw [if_neg hwait] at hrun ⊢
        by_cases hactions : (baseType f.typeName == "Actions") = true
        · rw [if_pos hactions] at hrun
          cases hrun
          rw [hactions, Bool.true_or, Bool.true_or, if_pos rfl]
          rfl
        · rw [if_neg hactions] at hrun
          by_cases hscript : isScriptType (baseType f.typeName) = true
          · rw [if_pos hscript] at hrun
            cases hrun
            rw [hscript, Bool.or_true, Bool.true_or, if_pos rfl]
            rfl
          · rw [if_neg hscript] at hrun
            rw [eq_false_of_ne_true hactions, eq_false_of_ne_true hscript, Bool.false_or,
              Bool.false_or]
            by_cases hby : (baseType f.typeName == "By") = true
            · rw [if_pos hby] at hrun
              rw [hby, Bool.true_and]
              cases hinit : f.init with
              | some init =>
                rw [hinit] at hrun
                exact recorded_of_keeps hrun
              | none =>
                rw [hinit] at hrun
                rw [Option.isSome_none, if_neg (by decide)]
                exact recorded_plainField hrun
            · rw [if_neg hby] at hrun
              rw [eq_false_of_ne_true hby, Bool.false_and, if_neg (by decide)]
              exact recorded_plainField hrun

theorem recorded_readFields {fields : List FieldDecl}
    (hrun : (readFields fields).runFrom c s = (.ok r, s')) :
    Recorded (fieldCreations c fields s) s s' := by
  induction fields generalizing s r with
  | nil =>
    cases hrun
    rfl
  | cons f _ ih =>
    obtain ⟨_, _, hfirst, hrun⟩ := exists_of_runFrom_bind hrun
    obtain ⟨_, _, hrest, hrun⟩ := exists_of_runFrom_bind hrun
    cases hrun
    rw [fieldCreations, stateAfter_of_runFrom hfirst]
    exact (recorded_readField hfirst).trans (ih hrest)

end Fields

/-! ### Methods -/

/-- The page objects that the body of a method creates, with its parameters. -/
def bodyCreations (c : Context) (m : MethodDecl) (role : Option MethodRole) (s : State) :
    List (String × String) :=
  let c := { c with method := m.name, role }
  let first := opened 0 { s with refs := 0 }
  creationsIn c first.1 m.body (stateAfter
    (m.params.forM fun p => define first.1 p.name (paramBinding m.name p)) c first.2)

/-- The role in which the body of a method is read, and the state: before, something may be remarked
about the method. -/
def entered (kind : UnitKind) (c : Context) (m : MethodDecl) (s : State) :
    Option MethodRole × State :=
  if hasMark m [.test] then
    (none, if m.params.isEmpty then s else stateAfter (remark (.parameters m.name) m.span) c s)
  else
    match (roleOf m kind).runFrom c s with
    | (.ok role, s₁) => (some role, s₁)
    | (.error _, s₁) => (none, s₁)

/-- The page objects that methods create, in the order of reading. -/
def methodCreations (kind : UnitKind) (c : Context) :
    List MethodDecl → State → List (String × String)
  | [], _ => []
  | m :: rest, s =>
    let first := entered kind c m s
    bodyCreations c m first.1 first.2 ++
      methodCreations kind c rest (stateAfter (methodActions m first.1) c first.2)

section Methods

variable {c : Context} {s s' : State} {kind : UnitKind} {m : MethodDecl}
variable {setup teardown : List String}

theorem recorded_methodActions {role : Option MethodRole} {actions : List Action}
    (hrun : (methodActions m role).runFrom c s = (.ok actions, s')) :
    Recorded (bodyCreations c m role s) s s' := by
  unfold methodActions at hrun
  rw [runFrom_withReader, runFrom_bind_ok (runFrom_modify _),
    runFrom_bind_ok (runFrom_openScope ..)] at hrun
  obtain ⟨_, s₁, hparams, hrun⟩ := exists_of_runFrom_bind hrun
  have hkept : Recorded [] s s₁ :=
    recorded_of_keeps (s := (opened 0 { s with refs := 0 }).2) hparams
  rw [bodyCreations, stateAfter, hparams]
  exact .after (recorded_block _ _ m.body hrun) hkept

instance (m : MethodDecl) (kind : UnitKind) : Keeps Unrecorded (roleOf m kind) := by
  unfold roleOf
  repeat' first
    | infer_instance
    | split

/-- For a test the page objects of its body are recorded, which becomes its actions. -/
theorem methodActions_of_readTest (kind : UnitKind) {t : TestCase}
    (htest : hasMark m [.test] = true)
    (hrun : (readTest setup teardown m).runFrom c s = (.ok t, s')) :
    t.name = m.name ∧ Recorded [] s (entered kind c m s).2 ∧
      (methodActions m (entered kind c m s).1).runFrom c (entered kind c m s).2 =
        (.ok t.actions, s') := by
  unfold readTest at hrun
  dsimp only at hrun
  rw [entered, if_pos htest]
  by_cases hparams : m.params.isEmpty = true
  · rw [hparams] at hrun
    obtain ⟨actions, s₁, hactions, hrun⟩ := exists_of_runFrom_bind hrun
    cases hrun
    rw [if_pos hparams]
    exact ⟨rfl, rfl, hactions⟩
  · rw [eq_false_of_ne_true hparams] at hrun
    obtain ⟨_, s₁, hremark, hrun⟩ := exists_of_runFrom_bind hrun
    obtain ⟨actions, _, hactions, hrun⟩ := exists_of_runFrom_bind hrun
    cases hrun
    rw [if_neg hparams, stateAfter, hremark]
    exact ⟨rfl, recorded_of_keeps hremark, hactions⟩

theorem methodActions_of_readMethod {method : Method} (htest : ¬hasMark m [.test] = true)
    (hrun : (readMethod kind m).runFrom c s = (.ok method, s')) :
    method.name = m.name ∧ Recorded [] s (entered kind c m s).2 ∧
      (methodActions m (entered kind c m s).1).runFrom c (entered kind c m s).2 =
        (.ok method.actions, s') := by
  obtain ⟨_, _, hrole, hrun⟩ := exists_of_runFrom_bind hrun
  obtain ⟨_, _, hactions, hrun⟩ := exists_of_runFrom_bind hrun
  cases hrun
  rw [entered, if_neg htest, hrole]
  exact ⟨rfl, recorded_of_keeps hrole, hactions⟩

/-- A declaration gives a test or a method of the unit, with these actions. -/
def IsBodyOf (m : MethodDecl) (methods : List Method) (tests : List TestCase)
    (actions : List Action) : Prop :=
  (∃ t ∈ tests, t.name = m.name ∧ t.actions = actions) ∨
    ∃ method ∈ methods, method.name = m.name ∧ method.actions = actions

theorem exists_of_readMethods_cons {rest : List MethodDecl} {read : MethodReading}
    (hrun : (readMethods kind setup teardown (m :: rest)).runFrom c s = (.ok read, s')) :
    ∃ actions s₁ others, Recorded [] s (entered kind c m s).2 ∧
      (methodActions m (entered kind c m s).1).runFrom c (entered kind c m s).2 =
        (.ok actions, s₁) ∧
      (readMethods kind setup teardown rest).runFrom c s₁ = (.ok others, s') ∧
      IsBodyOf m read.methods read.tests actions ∧ others.methods ⊆ read.methods ∧
      others.tests ⊆ read.tests := by
  rw [readMethods] at hrun
  split at hrun
  · rename_i htest
    obtain ⟨t, s₁, hread, hrun⟩ := exists_of_runFrom_bind hrun
    obtain ⟨others, s₂, hrest, hrun⟩ := exists_of_runFrom_bind hrun
    cases hrun
    obtain ⟨hname, hbefore, hactions⟩ := methodActions_of_readTest kind htest hread
    exact ⟨_, s₁, others, hbefore, hactions, hrest, .inl ⟨t, List.mem_cons_self, hname, rfl⟩,
      List.Subset.refl _, List.subset_cons_self _ _⟩
  · rename_i htest
    obtain ⟨method, s₁, hread, hrun⟩ := exists_of_runFrom_bind hrun
    obtain ⟨others, s₂, hrest, hrun⟩ := exists_of_runFrom_bind hrun
    cases hrun
    obtain ⟨hname, hbefore, hactions⟩ := methodActions_of_readMethod htest hread
    exact ⟨_, s₁, others, hbefore, hactions, hrest, .inr ⟨method, List.mem_cons_self, hname, rfl⟩,
      List.subset_cons_self _ _, List.Subset.refl _⟩

theorem recorded_readMethods {methods : List MethodDecl} {read : MethodReading}
    (hrun : (readMethods kind setup teardown methods).runFrom c s = (.ok read, s')) :
    Recorded (methodCreations kind c methods s) s s' := by
  induction methods generalizing s read with
  | nil =>
    cases hrun
    rfl
  | cons m rest ih =>
    obtain ⟨actions, s₁, others, hbefore, hactions, hrest, -⟩ := exists_of_readMethods_cons hrun
    rw [methodCreations, stateAfter_of_runFrom hactions]
    exact ((recorded_methodActions hactions).after hbefore).trans (ih hrest)

end Methods

/-! ### Classes -/

def readingOrder (decl : ClassDecl) : List MethodDecl :=
  decl.methods.filter comesFirst ++ decl.methods.filter (!comesFirst ·)

/-- The page objects that variables of a class are given, in the order of reading: those of its
fields, then those of its bodies. -/
def classCreations (c : Context) (decl : ClassDecl) (s : State) : List (String × String) :=
  fieldCreations c decl.fields s ++
    methodCreations (kindOf decl) c (readingOrder decl) (stateAfter (readFields decl.fields) c s)

/-- The page objects that variables of a unit are given, in the order of reading. -/
def creations (tree : Tree) : List (String × String) :=
  match tree.primaryIndex?, tree.primaryClass? with
  | some primary, some decl =>
    let c : Context := {
      unitName := tree.unitName, framework := frameworkOf tree.imports, imports := tree.imports,
      decl }
    classCreations c decl (stateAfter (remarkIgnored tree decl primary) c {})
  | _, _ => []

variable {tree : Tree} {decl : ClassDecl} {primary : Nat} {unit : SourceUnit}

instance : Keeps Unrecorded (remarkIgnored tree decl primary) := by
  unfold remarkIgnored
  infer_instance

theorem recorded_readClass {c : Context} {s s' : State}
    (hrun : (readClass tree decl primary).runFrom c s = (.ok unit, s')) :
    Recorded (classCreations c decl (stateAfter (remarkIgnored tree decl primary) c s)) s s' ∧
      unit.context.pageObjects = s'.context.pageObjects := by
  obtain ⟨_, s₁, hignored, hrun⟩ := exists_of_runFrom_bind hrun
  obtain ⟨_, _, hfields, hrun⟩ := exists_of_runFrom_bind hrun
  obtain ⟨_, _, hmethods, hrun⟩ := exists_of_runFrom_bind hrun
  obtain ⟨_, _, hprov, hrun⟩ := exists_of_runFrom_bind hrun
  cases hprov
  cases hrun
  have hstart : Recorded [] s s₁ := recorded_of_keeps hignored
  rw [stateAfter_of_runFrom hignored, classCreations, stateAfter_of_runFrom hfields]
  refine ⟨((recorded_readFields hfields).trans (recorded_readMethods hmethods)).after hstart, ?_⟩
  dsimp only
  split <;> rfl

/-- The page objects of a unit are those that its variables are given; of one name the last one
counts. -/
theorem pageObjects_of_extract (h : extract tree = .ok unit) :
    unit.context.pageObjects = Table.ofPairs (creations tree) := by
  unfold extract at h
  split at h
  · rename_i primary decl hprimary hdecl
    unfold creations
    rw [hprimary, hdecl]
    dsimp only at h
    split at h
    · rename_i s' hrun
      cases h
      obtain ⟨hrecorded, hunit⟩ := recorded_readClass (s := {}) hrun
      rw [hunit]
      exact hrecorded
    · cases h
    · cases h
  · cases h

/-! ### Test classes -/

def testMethod (name : String) (body : List Stmt) (span : Span) : MethodDecl where
  name
  params := []
  returnType := "void"
  modifiers := ["public"]
  annotations := [{ name := "Test", arguments := [], text := "@Test" }]
  body
  text := ""
  span

/-- A class with a browser and some tests. -/
def testTree (methods : List MethodDecl) : Tree where
  unitName := "p/Flow.java"
  language := "java"
  package := "p"
  imports := ["org.junit.*"]
  classes := [{
    name := "FlowTest", modifiers := ["public"], annotations := [], superclass := none
    interfaces := []
    fields := [{
      typeName := "WebDriver", name := "driver", modifiers := ["private"], annotations := []
      init := none, text := "", span := ⟨4, 4, 1⟩ }]
    methods, nested := [], text := "", span := ⟨3, 21, 1⟩ }]

end TestMigration.Extraction
