import Mathlib.Data.List.Forall2
import TestMigration.Proofs.Rendering.Effects
import TestMigration.Proofs.Tables
/-!
# Kinds of steps

Most functions of rendering only put others together. What goes through steps that follow each other
holds of all of them as soon as it holds of the few steps that do something by themselves: those
that look around, stop, make a remark, ask for an import, write a line or change the frame. Here a
kind of steps is the parameter, with one class of kinds for each of these abilities; a function is
of a kind that has the abilities it needs.

A kind is about two steps at once. The first is taken in an environment, the second in the same
environment with another model, whose units may differ inside (`Beside`). Most kinds have to do with
one environment only (`Kind.Single`). Where a step goes on with what another has given, only what
that one can give in the environment counts: the units that imports are asked for have been found in
the model.
-/

namespace TestMigration

open TestMigration.Action

/-- Two methods that differ at most in their bodies. -/
structure Method.SameSignature (m m' : Method) : Prop where
  name : m'.name = m.name
  params : m'.params = m.params
  returnType : m'.returnType = m.returnType
  role : m'.role = m.role
  static : m'.static = m.static

/-- Two units that look the same from outside. -/
structure SourceUnit.SameInterface (u u' : SourceUnit) : Prop where
  unitName : u'.unitName = u.unitName
  simpleName : u'.simpleName = u.simpleName
  package : u'.package = u.package
  kind : u'.kind = u.kind
  methods : List.Forall₂ Method.SameSignature u.methods u'.methods

/-- The end of a run because something is not in the model. -/
def Halt.isLookup : Halt → Bool
  | .unknownUnit _ | .unknownMethod .. => true
  | _ => false

theorem SourceUnit.SameInterface.refl (u : SourceUnit) : u.SameInterface u :=
  ⟨rfl, rfl, rfl, rfl, List.forall₂_same.mpr fun _ _ => ⟨rfl, rfl, rfl, rfl, rfl⟩⟩

end TestMigration

namespace TestMigration.Rendering

open TestMigration.Action Text Profile

/-- Two models with the same links whose units look the same from outside. Some units also have the
same superclasses. -/
structure Beside (inside : SourceUnit → Prop) (m m' : Model) : Prop where
  units : List.Forall₂ SourceUnit.SameInterface m.units m'.units
  resolutions : m'.resolutions = m.resolutions
  superclassChain : ∀ u, inside u → m'.superclassChain u.unitName = m.superclassChain u.unitName

/-- A kind of steps. -/
structure Kind where
  Holds {α : Type} : Render α → Render α → Prop
  /-- The units in whose frames the steps are taken. -/
  inside : SourceUnit → Prop := fun _ => True

/-- Two steps are of a kind, in the environment for which it has its abilities. -/
class Akin (env : Env) (K : Kind) {α : Type} (x y : Render α) : Prop where
  out : K.Holds x y

abbrev Is (env : Env) (K : Kind) {α : Type} (x : Render α) : Prop := Akin env K x x

/-- A unit of a model, and one that looks the same. -/
structure Found (m : Model) (u u' : SourceUnit) : Prop extends u.SameInterface u' where
  mem : u ∈ m.units

/-- Something looked up in a model, for a call that leads somewhere or for superclasses, is not
there. -/
inductive Missing (m : Model) (inside : SourceUnit → Prop) (e : Halt) : Prop where
  | unit {c : Call} {key : MethodKey} (hkey : m.resolve? c = some key)
      (h : m.unit key.unitName = .error e)
  | method {c : Call} {key : MethodKey} (hkey : m.resolve? c = some key)
      (h : m.method key = .error e)
  | chain {u : SourceUnit} (hu : inside u) (h : m.superclassChain u.unitName = .error e)

/-- A field of a unit or its superclasses, which may stand for an element. -/
def Reached (m : Model) (inside : SourceUnit → Prop) (f : LocatorField) : Prop :=
  ∃ u chain, inside u ∧ m.superclassChain u.unitName = .ok chain ∧
    ∃ v ∈ u :: chain, f ∈ v.locatorFields

section Beside

variable {inside : SourceUnit → Prop} {m m' : Model}
variable {α : Type} {R : α → α → Prop} {l l' : List α}

theorem Beside.refl (m : Model) : Beside inside m m :=
  ⟨List.forall₂_same.mpr fun u _ => .refl u, rfl, fun _ _ => rfl⟩

theorem Beside.found (h : Beside inside m m') : List.Forall₂ (Found m) m.units m'.units :=
  (List.Forall₂.imp fun _ _ hu => ⟨hu.2, hu.1⟩) (List.forall₂_and_left m.units m'.units |>.mpr
    ⟨fun _ hu => hu, h.units⟩)

theorem rel_head? (h : List.Forall₂ R l l') : Option.Rel R l.head? l'.head? := by
  cases h with
  | nil => exact .none
  | cons hab => exact .some hab

theorem rel_find? {p : α → Bool} (hp : ∀ {a b}, R a b → p b = p a) (h : List.Forall₂ R l l') :
    Option.Rel R (l.find? p) (l'.find? p) := by
  rw [← List.head?_filter, ← List.head?_filter]
  exact rel_head? (List.rel_filter (fun _ _ hab => by simp only [hp hab]) h)

theorem Beside.unit? (h : Beside inside m m') (name : String) :
    Option.Rel (Found m) (m.unit? name) (m'.unit? name) :=
  rel_find? (fun hu => by rw [hu.unitName]) h.found

theorem Beside.unit (h : Beside inside m m') (name : String) :
    (∃ e, m.unit name = .error e ∧ m'.unit name = .error e) ∨
      ∃ u u', m.unit name = .ok u ∧ m'.unit name = .ok u' ∧ Found m u u' := by
  have hunit := h.unit? name
  unfold Model.unit
  revert hunit
  generalize m.unit? name = a
  generalize m'.unit? name = b
  rintro (hu | _)
  · exact .inr ⟨_, _, rfl, rfl, hu⟩
  · exact .inl ⟨_, rfl, rfl⟩

theorem Beside.method (h : Beside inside m m') (key : MethodKey) :
    (∃ e, m.method key = .error e ∧ m'.method key = .error e) ∨
      ∃ d d', m.method key = .ok d ∧ m'.method key = .ok d' ∧ d.SameSignature d' := by
  unfold Model.method
  rcases h.unit key.unitName with ⟨e, he, he'⟩ | ⟨u, u', hu, hu', hfound⟩
  · rw [he, he']
    exact .inl ⟨e, rfl, rfl⟩
  · have hnamed : List.Forall₂ Method.SameSignature (u.findMethods key.method (some key.arity))
        (u'.findMethods key.method (some key.arity)) :=
      List.rel_filter (fun _ _ hd => by simp only [hd.name, hd.role, Method.arity, hd.params])
        hfound.methods
    rw [hu, hu']
    simp only [Bind.bind, Except.bind]
    revert hnamed
    generalize u.findMethods key.method (some key.arity) = l
    generalize u'.findMethods key.method (some key.arity) = l'
    rintro (_ | ⟨hd, _⟩)
    · exact .inl ⟨_, rfl, rfl⟩
    · exact .inr ⟨_, _, rfl, rfl, hd⟩

theorem Beside.object (h : Beside inside m m') (typeName : String) (near : SourceUnit) :
    Option.Rel (Found m) ((unitForType m typeName near).filter (·.kind == .pageObject))
      ((unitForType m' typeName near).filter (·.kind == .pageObject)) := by
  have hnamed := List.rel_filter (p := (·.simpleName == afterLast '.' (beforeFirst '<' typeName)))
    (q := (·.simpleName == afterLast '.' (beforeFirst '<' typeName)))
    (fun _ _ hu => by simp only [hu.simpleName]) h.found
  have hmeant : Option.Rel (Found m) (unitForType m typeName near)
      (unitForType m' typeName near) := by
    unfold unitForType
    dsimp only
    have hnear := rel_find? (p := (·.package == near.package)) (fun hu => by rw [hu.package]) hnamed
    revert hnear
    generalize List.find? _ _ = a
    generalize List.find? _ _ = b
    rintro (hu | _)
    · exact .some hu
    · exact rel_head? hnamed
  revert hmeant
  generalize unitForType m typeName near = a
  generalize unitForType m' typeName near = b
  rintro (hu | _)
  · rw [Option.filter_some, Option.filter_some, hu.kind]
    split
    · exact .some hu
    · exact .none
  · exact .none

end Beside

namespace Kind

/-- Steps of the kind look around and follow each other. -/
class Chains (env : Env) (K : Kind) : Prop where
  ofPure {α : Type} (a : α) : K.Holds (pure a) (pure a)
  ofAsk {β : Type} {f g : Env → Render β} : (∀ m, Beside K.inside env.model m →
    K.Holds (f env) (g { env with model := m })) → K.Holds (read >>= f) (read >>= g)
  ofFrame {β : Type} {f g : Frame → Render β} : (∀ o, K.inside o.unit → K.Holds (f o) (g o)) →
    K.Holds (frame >>= f) (frame >>= g)
  ofBind {α β : Type} {x y : Render α} {f g : α → Render β} : K.Holds x y →
    (∀ {a s s'}, x.run env s = (.ok a, s') → K.Holds (f a) (g a)) → K.Holds (x >>= f) (y >>= g)

/-- Both steps are taken in the same environment, in frames of any unit. -/
class Single (K : Kind) : Prop where
  ofRead : K.Holds read read
  anywhere (u : SourceUnit) : K.inside u := by intro; trivial

/-- Steps of the kind are taken for the unit that is rendered. -/
class Home (env : Env) (K : Kind) : Prop where
  here : K.inside env.unit

instance {env : Env} {K : Kind} [Single K] : Home env K := ⟨Single.anywhere env.unit⟩

/-- Steps of the kind refuse the unit, and end the run where a value cannot be written. -/
class Stops (env : Env) (K : Kind) : Prop extends Chains env K where
  ofRefusal {α : Type} (fault : Fault) (position : Option Position) :
    K.Holds (refuse fault position : Render α) (refuse fault position)
  ofHalt {α : Type} {h : Halt} (hown : h.isLookup = false) :
    K.Holds (throw (.halted h) : Render α) (throw (.halted h))

/-- Steps of the kind end the run where the model lacks something. -/
class Looks (env : Env) (K : Kind) : Prop extends Stops env K where
  ofMissing {α : Type} {h : Halt} (hmissing : Missing env.model K.inside h) :
    K.Holds (throw (.halted h) : Render α) (throw (.halted h))

/-- Steps of the kind end the run for any reason. -/
class Halts (env : Env) (K : Kind) : Prop extends Stops env K where
  ofAnyHalt {α : Type} (h : Halt) : K.Holds (throw (.halted h) : Render α) (throw (.halted h))
  ofHalt _ := ofAnyHalt _

/-- Steps of the kind make remarks, ask for imports and trace locators. -/
class Remarks (env : Env) (K : Kind) : Prop extends Chains env K where
  ofNote (key message : String) (position : Option Position) :
    K.Holds (note key message position) (note key message position)
  ofClass {u u' : SourceUnit} (hu : Found env.model u u') : K.Holds (needClass u) (needClass u')
  ofModule {u u' : SourceUnit} (hu : Found env.model u u') : K.Holds (needModule u) (needModule u')
  ofFunction {u u' : SourceUnit} (hu : Found env.model u u') (name : String) :
    K.Holds (needFunction u name) (needFunction u' name)
  ofLocator (p : Provenance) (fragment : String) (l : Option Locator) (scope : String) :
    K.Holds (trace .locator p fragment l scope) (trace .locator p fragment l scope)

/-- Steps of the kind write values, which may have no target form. -/
class Values (env : Env) (K : Kind) : Prop extends Looks env K, Remarks env K where
  ofVerbatim {α : Type} (text : String) :
    K.Holds (throw (.untranslatable text) : Render α) (throw (.untranslatable text))

/-- Steps of the kind write the elements of fields, through any number of fields. -/
class Fields (env : Env) (K : Kind) : Prop extends Values env K where
  ofField (f : LocatorField) : K.Holds (fieldText f) (fieldText f)

class Prints (env : Env) (K : Kind) : Prop extends Chains env K where
  ofLine (text : String) : K.Holds (line text) (line text)
  ofComment (text : String) : K.Holds (comment text) (comment text)

/-- Steps of the kind go into frames of their own. -/
class Frames (env : Env) (K : Kind) : Prop extends Chains env K, Home env K where
  ofInFrame {α : Type} (f : Frame) (hf : K.inside f.unit) {x y : Render α} :
    K.Holds x y → K.Holds (inFrame f x) (inFrame f y)

/-- Steps of the kind look at what has been written and leave lines blank. -/
class Lays (env : Env) (K : Kind) : Prop extends Prints env K where
  ofStatements : K.Holds statements statements
  ofLineCount : K.Holds lineCount lineCount
  ofBlank (count : Nat) : K.Holds (modifyCode (·.blank count)) (modifyCode (·.blank count))
  ofIndented {x y : Render Unit} : K.Holds x y → K.Holds (indented x) (indented y)

class Acts (env : Env) (K : Kind) : Prop extends Prints env K where
  ofAction (p : Provenance) (fragment : String) (l : Option Locator) (scope : String) :
    K.Holds (trace .action p fragment l scope) (trace .action p fragment l scope)

class Declares (env : Env) (K : Kind) : Prop extends Prints env K where
  ofDeclare (name : String) :
    K.Holds (modifyFrame fun f => { f with declared := insertNew name f.declared })
      (modifyFrame fun f => { f with declared := insertNew name f.declared })

class Binds (env : Env) (K : Kind) : Prop extends Declares env K where
  ofElement (id text : String) :
    K.Holds (modifyFrame fun f => { f with elements := Table.put id text f.elements })
      (modifyFrame fun f => { f with elements := Table.put id text f.elements })

end Kind

/-! ### Looking around -/

section Chains

variable {env : Env} {K : Kind} {α β : Type} [Kind.Chains env K]

instance is_pure (a : α) : Is env K (pure a : Render α) := ⟨Kind.Chains.ofPure env a⟩

theorem Akin.after {x y : Render α} {f g : α → Render β} (hx : Akin env K x y)
    (hf : ∀ {a s s'}, x.run env s = (.ok a, s') → Akin env K (f a) (g a)) :
    Akin env K (x >>= f) (y >>= g) := ⟨Kind.Chains.ofBind hx.out fun hrun => (hf hrun).out⟩

instance (x y : Render α) (f g : α → Render β) [hx : Akin env K x y]
    [hf : ∀ a, Akin env K (f a) (g a)] : Akin env K (x >>= f) (y >>= g) :=
  hx.after fun {a _ _} _ => hf a

theorem Akin.ask {f g : Env → Render β} (h : ∀ m, Beside K.inside env.model m →
    Akin env K (f env) (g { env with model := m })) : Akin env K (read >>= f) (read >>= g) :=
  ⟨Kind.Chains.ofAsk fun m hm => (h m hm).out⟩

instance (f g : Env → Render β) [h : ∀ m, Akin env K (f env) (g { env with model := m })] :
    Akin env K (read >>= f) (read >>= g) := .ask fun m _ => h m

instance is_read [Kind.Single K] : Is env K (read : Render Env) := ⟨Kind.Single.ofRead⟩

theorem Akin.look {f g : Frame → Render β} (h : ∀ o, K.inside o.unit → Akin env K (f o) (g o)) :
    Akin env K (frame >>= f) (frame >>= g) := ⟨Kind.Chains.ofFrame env fun o ho => (h o ho).out⟩

instance : Is env K frame := by
  exact .look fun o _ => is_pure o

instance (c : Prop) [Decidable c] (x x' y y' : Render α) [hx : Akin env K x x']
    [hy : Akin env K y y'] : Akin env K (if c then x else y) (if c then x' else y') := by
  split
  · exact hx
  · exact hy

instance akin_forM (l : List β) (f g : β → Render PUnit) [hf : ∀ b, Akin env K (f b) (g b)] :
    Akin env K (l.forM f) (l.forM g) := by
  induction l with
  | nil => exact is_pure _
  | cons b _ ih => exact (hf b).after fun _ => ih

instance : Is env K profile := by unfold profile; infer_instance

instance : Is env K phrases := by unfold phrases; infer_instance

instance (name : String) : Is env K (ident name) := by unfold ident; infer_instance

instance (name : String) : Is env K (receiverText name) := by
  refine .after inferInstance fun _ => Akin.after inferInstance fun _ => ?_
  split <;> infer_instance

instance (name : String) : Is env K (commandTemplate name) := by
  unfold commandTemplate; infer_instance

theorem Akin.object {typeName : String} {near : SourceUnit} {f g : Option SourceUnit → Render β}
    (hnone : Akin env K (f none) (g none))
    (hsome : ∀ {u u'}, Found env.model u u' → Akin env K (f (some u)) (g (some u'))) :
    Akin env K (pageObjectFor typeName near >>= f) (pageObjectFor typeName near >>= g) := by
  refine .ask fun m hm => ?_
  have hmeant := hm.object typeName near
  revert hmeant
  generalize Option.filter _ _ = a
  generalize Option.filter _ _ = b
  rintro (hu | _)
  · exact hsome hu
  · exact hnone

instance [Kind.Single K] (typeName : String) (near : SourceUnit) :
    Is env K (pageObjectFor typeName near) := by unfold pageObjectFor; infer_instance

instance [Kind.Single K] : Is env K fieldCount := by unfold fieldCount; infer_instance

end Chains

/-! ### Stopping -/

section Stops

variable {env : Env} {K : Kind} {α β : Type} [Kind.Stops env K]

instance is_refuse (fault : Fault) (position : Option Position) :
    Is env K (refuse fault position : Render α) := ⟨Kind.Stops.ofRefusal env fault position⟩

instance (p : Provenance) (fault : Fault) : Is env K (refuseAt p fault : Render α) :=
  is_refuse fault _

theorem is_halted {h : Halt} (hown : h.isLookup = false) :
    Is env K (throw (.halted h) : Render α) :=
  ⟨Kind.Stops.ofHalt env hown⟩

instance (l : Literal) : Is env K (literal l) := by
  have : Is env K (throw (.halted .numberTooLong) : Render PUnit) := is_halted rfl
  unfold literal; infer_instance

instance (name : String) : Is env K (variableText name) := by
  refine .after inferInstance fun _ => Akin.after inferInstance fun _ =>
    Akin.after inferInstance fun _ => ?_
  repeat' first
    | infer_instance
    | split

instance (query : String) : Is env K (queryTemplate query) := by
  refine .after inferInstance fun _ => ?_
  split <;> infer_instance

instance (query : String) : Is env K (pageQuery query) := by
  refine .after inferInstance fun _ => ?_
  split <;> infer_instance

instance (ref : ElementRef) : Is env K (freeElement ref) := by
  unfold freeElement; infer_instance

theorem Akin.resolved {c : Call} {position : Option Position} {f g : MethodKey → Render β}
    (h : ∀ {key}, env.model.resolve? c = some key → Akin env K (f key) (g key)) :
    Akin env K (resolveCall c position >>= f) (resolveCall c position >>= g) := by
  unfold resolveCall
  rw [bind_assoc, bind_assoc]
  refine .ask fun m hm => ?_
  rw [show m.resolve? c =
    env.model.resolve? c by rw [Model.resolve?, hm.resolutions, Model.resolve?]]
  cases hkey : env.model.resolve? c with
  | some key => exact .after inferInstance fun hrun => by cases hrun; exact h hkey
  | none => exact .after inferInstance fun hrun => by cases hrun

instance (c : Call) (position : Option Position) : Is env K (resolveCall c position) := by
  rw [← bind_pure (resolveCall c position)]
  exact .resolved fun _ => is_pure _

instance (seconds : Float) : Is env K (milliseconds seconds) := by
  unfold milliseconds
  split
  · infer_instance
  · exact is_halted rfl
  · exact is_halted rfl

end Stops

/-! ### Looking up -/

section Looks

variable {env : Env} {K : Kind} {β : Type}
variable {m : Model} {c : Call} {key : MethodKey} {u : SourceUnit}

instance [Kind.Halts env K] (x : Except Halt β) : Is env K (liftHalt x) := by
  cases x with
  | ok a => exact is_pure a
  | error h => exact ⟨Kind.Halts.ofAnyHalt env h⟩

instance [Kind.Single K] [Kind.Halts env K] (c : Call) : Is env K (callTarget c) := by
  unfold callTarget; infer_instance

instance [Kind.Halts env K] : Kind.Looks env K where
  ofMissing _ := Kind.Halts.ofAnyHalt env _

variable [Kind.Looks env K]

theorem is_missing {e : Halt} (h : Missing env.model K.inside e) :
    Is env K (throw (.halted e) : Render β) := ⟨Kind.Looks.ofMissing h⟩

theorem is_lookup {x : Except Halt β} (h : ∀ e, x = .error e → Missing env.model K.inside e) :
    Is env K (liftHalt x) := by
  cases x with
  | ok a => exact is_pure a
  | error e => exact is_missing (h e rfl)

theorem Akin.unit (hm : Beside K.inside env.model m)
    (hkey : env.model.resolve? c = some key) {f g : SourceUnit → Render β}
    (h : ∀ {u u'}, Found env.model u u' → Akin env K (f u) (g u')) :
    Akin env K (liftHalt (env.model.unit key.unitName) >>= f)
      (liftHalt (m.unit key.unitName) >>= g) := by
  rcases hm.unit key.unitName with ⟨e, he, he'⟩ | ⟨u, u', hu, hu', hfound⟩
  · rw [he, he']
    exact (is_missing (.unit hkey he)).after nofun
  · rw [hu, hu']
    exact h hfound

theorem Akin.method (hm : Beside K.inside env.model m)
    (hkey : env.model.resolve? c = some key) {f g : Method → Render β}
    (h : ∀ {d d'}, Method.SameSignature d d' → Akin env K (f d) (g d')) :
    Akin env K (liftHalt (env.model.method key) >>= f) (liftHalt (m.method key) >>= g) := by
  rcases hm.method key with ⟨e, he, he'⟩ | ⟨d, d', hd, hd', hsame⟩
  · rw [he, he']
    exact (is_missing (.method hkey he)).after nofun
  · rw [hd, hd']
    exact h hsame

theorem Akin.chain (hm : Beside K.inside env.model m) (hu : K.inside u) :
    Akin env K (liftHalt (env.model.superclassChain u.unitName))
      (liftHalt (m.superclassChain u.unitName)) := by
  rw [hm.superclassChain u hu]
  exact is_lookup fun _ => .chain hu

theorem reached_of_run {inside : SourceUnit → Prop} (hu : inside u) {name : String}
    {f : LocatorField} {s s' : State} (h : (fieldLocator name u).run env s = (.ok (some f), s')) :
    Reached env.model inside f := by
  unfold fieldLocator at h
  rw [run_bind_ok run_read] at h
  obtain ⟨_, _, hlift, hfound⟩ := exists_of_run_bind h
  obtain ⟨v, hv, hf⟩ := List.exists_of_findSome?_eq_some (Except.ok.inj (Prod.mk.inj hfound).1)
  exact ⟨u, _, hu, (run_liftHalt hlift).1, v, hv, List.mem_of_find?_eq_some hf⟩

theorem is_fieldLocator (name : String) (hu : K.inside u) : Is env K (fieldLocator name u) := by
  exact .ask fun m hm => (Akin.chain hm hu).after fun _ => inferInstance

instance is_superclasses [Kind.Home env K] : Is env K superclasses := by
  exact .ask fun m hm => .chain hm Kind.Home.here

instance [Kind.Home env K] : Is env K contextObjects := by
  unfold contextObjects; infer_instance

theorem akin_element {field field' : LocatorField → Render String}
    (hfield : ∀ {f}, Reached env.model K.inside f → Akin env K (field f) (field' f))
    (ref : ElementRef) :
    Akin env K (element field ref) (element field' ref) := by
  refine .look fun o ho => ?_
  split
  · infer_instance
  · split
    · split
      · infer_instance
      · refine (is_fieldLocator ref.name ho).after fun {found _ _} hrun => ?_
        cases found with
        | none => infer_instance
        | some found => exact hfield (reached_of_run ho hrun)
    · infer_instance

instance {field : LocatorField → Render String} [hfield : ∀ f, Is env K (field f)]
    (ref : ElementRef) : Is env K (element field ref) := akin_element (fun _ => hfield _) ref

theorem Akin.target {f g : SourceUnit × Method → Render β}
    (h : ∀ {u u' d d'}, Found env.model u u' → Method.SameSignature d d' →
      Akin env K (f (u, d)) (g (u', d'))) :
    Akin env K (callTarget c >>= f) (callTarget c >>= g) := by
  have hfound : ∀ {m}, Beside K.inside env.model m → Akin env K
        (resolveCall c >>= fun key => liftHalt (env.model.unit key.unitName) >>= fun u =>
          liftHalt (env.model.method key) >>= fun d => f (u, d))
        (resolveCall c >>= fun key => liftHalt (m.unit key.unitName) >>= fun u =>
          liftHalt (m.method key) >>= fun d => g (u, d)) := fun hm =>
    .resolved fun hkey => .unit hm hkey fun hu => .method hm hkey fun hd => h hu hd
  unfold callTarget
  rw [bind_assoc, bind_assoc]
  refine .ask fun m hm => ?_
  split
  · exact .after (Akin.after inferInstance fun hrun => by cases hrun) fun hrun => by cases hrun
  · simpa only [bind_assoc, pure_bind] using hfound hm

end Looks

/-! ### Remarks and imports -/

section Remarks

variable {env : Env} {K : Kind} [Kind.Remarks env K]

instance (key message : String) (position : Option Position) :
    Is env K (note key message position) := ⟨Kind.Remarks.ofNote env key message position⟩

instance (p : Provenance) (fragment : String) (l : Option Locator) (scope : String) :
    Is env K (trace .locator p fragment l scope) := ⟨Kind.Remarks.ofLocator env p fragment l scope⟩

theorem akin_needClass {u u' : SourceUnit} (hu : Found env.model u u') :
    Akin env K (needClass u) (needClass u') := ⟨Kind.Remarks.ofClass hu⟩

instance (code : String) (args : List String) : Is env K (scriptParts code args) := by
  unfold scriptParts; infer_instance

instance (typeName : String) : Is env K (typeText typeName) := by
  refine .ask fun m _ => ?_
  dsimp only
  split
  · infer_instance
  · split
    · rw [pure_bind]
      infer_instance
    · refine .object inferInstance fun hu => ?_
      dsimp only
      rw [hu.simpleName]
      exact (akin_needClass hu).after fun _ => inferInstance

instance (name typeName : String) : Is env K (paramText name typeName) := by
  unfold paramText; infer_instance

instance (params : List Param) : Is env K (paramTexts params) := by
  induction params with
  | nil => unfold paramTexts; infer_instance
  | cons p => unfold paramTexts; infer_instance

instance (m : Method) (pageParam selfParam : Bool) :
    Is env K (paramList m pageParam selfParam) := by unfold paramList; infer_instance

instance (m : Method) : Is env K (returnText m) := by unfold returnText; infer_instance

end Remarks

/-! ### Values -/

section Values

variable {env : Env} {K : Kind} [Kind.Values env K]

instance {α : Type} (text : String) :
    Is env K (throw (.untranslatable text) : Render α) := ⟨Kind.Values.ofVerbatim env text⟩

theorem akin_callText {c : Call} {target target' : SourceUnit}
    (htarget : Found env.model target target')
    {method method' : Method} (hmethod : method.SameSignature method') (args : List String) :
    Akin env K (callText c target method args) (callText c target' method' args) := by
  have := akin_needClass (K := K) htarget
  have : Akin env K (needModule target) (needModule target') := ⟨Kind.Remarks.ofModule htarget⟩
  have : ∀ name, Akin env K (needFunction target name) (needFunction target' name) :=
    fun name => ⟨Kind.Remarks.ofFunction htarget name⟩
  unfold callText callReceiver implicitPage
  rw [hmethod.name, hmethod.params, hmethod.static, htarget.kind, htarget.unitName,
    htarget.simpleName]
  refine .after inferInstance fun _ => ?_
  split
  · infer_instance
  · refine .after inferInstance fun _ => .ask fun _ _ => ?_
    split
    · infer_instance
    · split <;> infer_instance

variable {field field' : LocatorField → Render String}

section Akin

variable (hfield : ∀ {f}, Reached env.model K.inside f → Akin env K (field f) (field' f))

include hfield

mutual

theorem Akin.value (v : Value) : Akin env K (value field v) (value field' v) := by
  have helement := akin_element hfield
  match v with
  | .literal _ | .variable _ | .driver | .element _ | .elementQuery _ _ none | .pageQuery _
  | .verbatim _ => unfold Rendering.value; infer_instance
  | .elementQuery _ _ (some arg) =>
    have := Akin.value arg
    unfold Rendering.value; infer_instance
  | .not operand =>
    have := Akin.value operand
    unfold Rendering.value; infer_instance
  | .binary _ left right | .contains left right =>
    have := Akin.value left
    have := Akin.value right
    unfold Rendering.value; infer_instance
  | .call (.mk _ _ _ args _ _ _) =>
    unfold Rendering.value
    exact .target fun hu hd => (Akin.values args).1.after fun _ => akin_callText hu hd _
  | .script _ args =>
    have := (Akin.values args).2
    unfold Rendering.value; infer_instance
  | .construct _ args =>
    have := (Akin.values args).1
    unfold Rendering.value constructed
    simp only [bind_assoc]
    refine .after inferInstance fun _ => .object ?_ fun hu => ?_
    · exact .after inferInstance fun hrun => by cases hrun
    · dsimp only
      rw [bind_assoc, bind_assoc, pure_bind, pure_bind, hu.simpleName]
      exact (akin_needClass hu).after fun _ => inferInstance

theorem Akin.values (vs : List Value) : Akin env K (valueList field vs) (valueList field' vs) ∧
    Akin env K (scriptArgs field vs) (scriptArgs field' vs) := by
  have helement := akin_element hfield
  match vs with
  | [] => exact ⟨by unfold valueList; infer_instance, by unfold scriptArgs; infer_instance⟩
  | v :: rest =>
    have := Akin.value v
    obtain ⟨_, _⟩ := Akin.values rest
    constructor
    · unfold valueList; infer_instance
    · cases v <;> unfold scriptArgs <;> infer_instance

end

theorem Akin.selector (template : String) (escape : Option SelectorPlace) (v : Value) :
    Akin env K (selector field template escape v) (selector field' template escape v) := by
  have := Akin.value hfield v
  refine .after inferInstance fun _ => ?_
  split
  · infer_instance
  · cases v <;> infer_instance

theorem Akin.locatorExpression (l : Locator) (scope : String) (p : Provenance) :
    Akin env K (locatorExpression field l scope p) (locatorExpression field' l scope p) := by
  have := Akin.value hfield l.value
  have := Akin.selector hfield
  refine .after inferInstance fun _ => ?_
  dsimp only
  split
  · infer_instance
  · split <;> infer_instance

end Akin

section Same

variable [hfield : ∀ f, Is env K (field f)]

instance (v : Value) : Is env K (value field v) := .value (fun _ => hfield _) v

instance (vs : List Value) : Is env K (valueList field vs) := (Akin.values (fun _ => hfield _) vs).1

instance (vs : List Value) : Is env K (scriptArgs field vs) :=
  (Akin.values (fun _ => hfield _) vs).2

instance (template : String) (escape : Option SelectorPlace) (v : Value) :
    Is env K (selector field template escape v) := .selector (fun _ => hfield _) template escape v

instance (l : Locator) (scope : String) (p : Provenance) :
    Is env K (locatorExpression field l scope p) := .locatorExpression (fun _ => hfield _) l scope p

end Same

instance is_fieldElement (n : Nat) (f : LocatorField) : Is env K (fieldElement n f) := by
  induction n generalizing f with
  | zero => exact is_halted rfl
  | succ n => unfold fieldElement; infer_instance

instance (priority := low) [Kind.Single K] : Kind.Fields env K where
  ofField f := by
    exact @Akin.out env _ _ _ _ (.after inferInstance fun _ => is_fieldElement _ f)

end Values

section Fields

variable {env : Env} {K : Kind} [Kind.Fields env K]

instance (f : LocatorField) : Is env K (fieldText f) := ⟨Kind.Fields.ofField env f⟩

instance (v : Value) : Is env K (valueText v) := by unfold valueText; infer_instance

instance (ref : ElementRef) : Is env K (elementText ref) := by
  unfold elementText; infer_instance

instance (l : Locator) (scope : String) (p : Provenance) :
    Is env K (locatorText l scope p) := by unfold locatorText; infer_instance

instance (method : String) (param : Param) (arg : Value) (a : Arrival) :
    Is env K (passArgument method param arg a) := by
  unfold passArgument
  cases arg <;> infer_instance

instance (method : String) (pairs : List (Param × Value)) (a : Arrival) :
    Is env K (passArguments method pairs a) := by
  induction pairs generalizing a with
  | nil => unfold passArguments; infer_instance
  | cons => unfold passArguments; infer_instance

end Fields

/-! ### Lines -/

section Lines

variable {env : Env} {K : Kind}

instance [Kind.Prints env K] (text : String) : Is env K (line text) :=
  ⟨Kind.Prints.ofLine env text⟩

instance [Kind.Prints env K] (text : String) : Is env K (comment text) :=
  ⟨Kind.Prints.ofComment env text⟩

instance is_untranslated [Kind.Prints env K] (text : String) : Is env K (untranslated text) := by
  refine .after inferInstance fun _ => ?_
  split <;> infer_instance

instance [Kind.Prints env K] : Is env K closeBlock := by unfold closeBlock; infer_instance

section Lays

variable [Kind.Lays env K]

instance : Is env K statements := ⟨Kind.Lays.ofStatements env⟩

instance : Is env K lineCount := ⟨Kind.Lays.ofLineCount env⟩

instance (count : Nat) : Is env K (modifyCode (·.blank count)) := ⟨Kind.Lays.ofBlank env count⟩

instance (x y : Render Unit) [hx : Akin env K x y] : Akin env K (indented x) (indented y) :=
  ⟨Kind.Lays.ofIndented env hx.out⟩

instance (before : Nat) (closing : String) : Is env K (endBlock before closing) := by
  unfold endBlock; infer_instance

instance [Kind.Remarks env K] (base : Option SourceUnit) :
    Is env K (memberDeclarations base) := by
  refine .ask fun _ _ => ?_
  dsimp only
  split
  · split
    · exact .after inferInstance fun _ => Akin.after inferInstance fun _ => inferInstance
    · exact .after inferInstance fun _ => inferInstance
  · infer_instance

end Lays

theorem akin_inFrame [Kind.Frames env K] {α : Type} {f : Frame} (hf : K.inside f.unit)
    {x y : Render α} (h : Akin env K x y) : Akin env K (inFrame f x) (inFrame f y) :=
  ⟨Kind.Frames.ofInFrame env f hf h.out⟩

instance [Kind.Frames env K] [Kind.Single K] {α : Type} (f : Frame) (x : Render α)
    [hx : Is env K x] : Is env K (inFrame f x) := akin_inFrame (Kind.Single.anywhere f.unit) hx

instance is_memberValues [Kind.Fields env K] [Kind.Prints env K] [Kind.Frames env K] :
    Is env K memberValues := by
  refine .ask fun m _ => ?_
  refine .after ?_ fun _ => @akin_forM _ _ _ _ _ _ _ fun member =>
    .object inferInstance fun hu => ?_
  · have : ∀ f : Frame, f.unit = env.unit → ∀ {x : Render String}, Is env K x →
        Is env K (inFrame f x) :=
      fun f hf x hx => akin_inFrame (hf ▸ Kind.Home.here) hx
    refine @akin_forM _ _ _ _ _ _ _ fun field => ?_
    exact .after (this _ rfl inferInstance) fun _ => inferInstance
  · dsimp only
    rw [hu.simpleName]
    exact (akin_needClass hu).after fun _ => inferInstance

instance [Kind.Acts env K] (p : Provenance) (fragment : String) (l : Option Locator)
    (scope : String) : Is env K (trace .action p fragment l scope) :=
  ⟨Kind.Acts.ofAction env p fragment l scope⟩

instance [Kind.Acts env K] (p : Provenance) (text : String) : Is env K (emitLine p text) := by
  unfold emitLine; infer_instance

theorem isLookup_of_secondsOf {v : Scalar} {h : Halt} (hv : secondsOf v = .error h) :
    h.isLookup = false := by
  unfold secondsOf at hv
  repeat' split at hv
  all_goals cases hv <;> rfl

instance [Kind.Acts env K] [Kind.Stops env K] [Kind.Remarks env K] (name : String)
    (args : List Value) (p : Provenance) : Is env K (commandAction name args p) := by
  have (v : Scalar) : Is env K (liftHalt (secondsOf v)) := by
    cases hv : secondsOf v with
    | ok => exact is_pure _
    | error h => exact is_halted (isLookup_of_secondsOf hv)
  refine .after inferInstance fun _ => ?_
  split
  · infer_instance
  · split
    · infer_instance
    · split <;> infer_instance

instance [Kind.Acts env K] [Kind.Fields env K] (a : Assertion) :
    Is env K (assertAction a) := by
  refine .after inferInstance fun _ => ?_
  split
  · infer_instance
  · cases a.expected <;> cases a.message <;> infer_instance

end Lines

/-! ### Variables -/

section Variables

variable {env : Env} {K : Kind} [Kind.Declares env K]

instance (name : String) :
    Is env K (modifyFrame fun f => { f with declared := insertNew name f.declared }) :=
  ⟨Kind.Declares.ofDeclare env name⟩

instance (name text : String) (declare : Bool) : Is env K (bindLine name text declare) := by
  unfold bindLine; infer_instance

instance [Kind.Remarks env K] (bound : List String) (name : String) :
    Is env K (declareObject bound name) := by
  refine .after inferInstance fun _ => ?_
  split
  · infer_instance
  · refine .object inferInstance fun hu => ?_
    dsimp only
    rw [hu.simpleName]
    exact (akin_needClass hu).after fun _ => inferInstance

instance [Kind.Remarks env K] (body : List Action) : Is env K (declareObjects body) := by
  unfold declareObjects; infer_instance

instance [Kind.Fields env K] (d : Delegation) : Is env K (callAction d) := by
  unfold callAction; infer_instance

instance [Kind.Acts env K] [Kind.Fields env K] (s : ScriptRun) :
    Is env K (scriptAction s) := by unfold scriptAction; infer_instance

end Variables

section Elements

variable {env : Env} {K : Kind} [Kind.Binds env K]

instance (ref : ElementRef) (inline : Bool) (text : String) :
    Is env K (bindElement ref inline text) := by
  have : ∀ text, Is env K
      (modifyFrame fun f => { f with elements := Table.put ref.id text f.elements }) :=
    fun text => ⟨Kind.Binds.ofElement env ref.id text⟩
  unfold bindElement; infer_instance

instance [Kind.Fields env K] (l : Lookup) : Is env K (locateAction l) := by
  unfold locateAction
  cases l.parent <;> infer_instance

instance [Kind.Fields env K] (k : Pick) : Is env K (pickAction k) := by
  unfold pickAction; infer_instance

end Elements

/-! ### Relations between states -/

/-- The steps that keep a relation in an environment. -/
def Keeping (env : Env) (R : Effect) : Kind where
  Holds x _ := ∀ s, R s (stopOf (x.run env s).1) (x.run env s).2

/-- A relation that also allows steps to stop for lack of a target form. -/
class Lenient (R : Effect) : Prop extends Tolerant R where
  verbatim (s : State) (text : String) : R s (some (.untranslatable text)) s

instance : Lenient Quiet := ⟨fun _ _ => ⟨⟨rfl, rfl⟩, rfl⟩⟩

instance : Lenient Calm := ⟨fun s text => (Lenient.verbatim (R := Quiet) s text).calm⟩

instance : Lenient Steady := ⟨fun _ _ => ⟨rfl, rfl⟩⟩

instance : Lenient Bounded := ⟨fun s text => (Lenient.verbatim (R := Steady) s text).bounded⟩

section Keeping

variable {env : Env} {R : Effect}

instance [Composable R] : Kind.Chains env (Keeping env R) where
  ofPure _ := Composable.refl
  ofAsk h := h _ (.refl _)
  ofFrame h s := h s.frame trivial s
  ofBind := by
    intro α β x _ f _ hx hf s
    rcases hrun : x.run env s with ⟨_ | a, s'⟩
    · rw [run_bind_error hrun]
      have := hx s
      rwa [hrun] at this
    · rw [run_bind_ok hrun]
      have := hx s
      rw [hrun] at this
      exact Composable.trans this (hf hrun s')

instance [Composable R] : Kind.Single (Keeping env R) where
  ofRead := Composable.refl

instance (priority := low) {α : Type} {x : Render α} [h : ∀ env, Is env (Keeping env R) x] :
    Keeps R x := ⟨fun env => (h env).out⟩

instance (priority := low) {α : Type} {x y : Render α} [h : Keeps R x] :
    Akin env (Keeping env R) x y := ⟨h.out env⟩

variable [Composable R]

instance [Tolerant R] : Kind.Halts env (Keeping env R) where
  ofRefusal fault position s := Tolerant.plain ((keeps_refuse fault position).out env s)
  ofAnyHalt h s := Tolerant.plain ((keeps_halted h).out env s)

instance [Tolerant R] : Kind.Remarks env (Keeping env R) where
  ofNote key message position s := Tolerant.plain ((keeps_note key message position).out env s)
  ofClass _ s := Tolerant.plain ((keeps_needClass _).out env s)
  ofModule _ s := Tolerant.plain ((keeps_needModule _).out env s)
  ofFunction _ name s := Tolerant.plain ((keeps_needFunction _ name).out env s)
  ofLocator p fragment l scope s :=
    Tolerant.plain ((keeps_trace_locator p fragment l scope).out env s)

instance [Tolerant R] : Kind.Acts env (Keeping env R) where
  ofLine text s := Tolerant.plain ((keeps_line text).out env s)
  ofComment text s := Tolerant.plain ((keeps_comment text).out env s)
  ofAction p fragment l scope s :=
    Tolerant.plain ((keeps_trace_action p fragment l scope).out env s)

instance [Tolerant R] [CodeFree R] : Kind.Lays env (Keeping env R) where
  ofStatements := keeps_statements.out env
  ofLineCount := keeps_lineCount.out env
  ofBlank _ s := CodeFree.code s.code _ (Composable.refl s)
  ofIndented hx s := by
    rw [run_indented]
    exact CodeFree.code (s := { s with code := s.code.deeper }) s.code _ (hx _)

instance [Lenient R] : Kind.Values env (Keeping env R) where
  ofVerbatim text s := Lenient.verbatim s text

instance [Tolerant R]
    [h : ∀ name, Keeps R (modifyFrame fun f => { f with declared := insertNew name f.declared })] :
    Kind.Declares env (Keeping env R) where
  ofDeclare name := (h name).out env

instance [Tolerant R] [h : ∀ f, Keeps R (modifyFrame f)] : Kind.Binds env (Keeping env R) where
  ofElement _ _ := (h _).out env

end Keeping

end TestMigration.Rendering
