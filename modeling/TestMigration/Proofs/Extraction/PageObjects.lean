import TestMigration.Proofs.Extraction.Effects
import TestMigration.Proofs.Tables
/-!
# The page objects of a class

A variable that is given a new page object leaves no action; the class remembers its type, in one
table for all of its bodies. What the table says in the end depends on the order in which the bodies
are read, which is not that of the source. Here the entries are listed in the order in which they
are made (`creations`), and the table is made of them (`pageObjects_eq_ofPairs`), so for one name
the last one counts.

Whether a statement creates a page object depends on what its arguments denote, so each statement is
asked in the state that those before it have left (`creation?`, `creationsIn`).
-/

namespace TestMigration.Extraction

open Syntax TestMigration.Action Text

/-! ### What creates a page object -/

/-- The page object that a variable is given as a new object: of a project type that needs only the
browser. -/
def createdByNew? (s : State) (scope : Nat) (name typeName : String) (args : List Expr) :
    Option (String × String) :=
  let created := baseType typeName
  if (browserOf? created).isSome || isWaitType created || created == "Actions" then none
  else if isProjectType created && args.all (isContextArg s scope) then some (name, created)
  else none

/-- The page object that a variable is given: as a new object, or with elements from a factory. -/
def creation? (s : State) (scope : Nat) (name typeName : String) : Expr → Option (String × String)
  | .new created args _ _ => createdByNew? s scope name created args
  | .call (some owner) "initElements" _ _ _ =>
    if owner.isName "PageFactory" && !isDriverType (baseType typeName) then
      some (name, baseType typeName)
    else none
  | _ => none

/-- The page object that a variable is given by an assignment, by its declared type. -/
def assigned? (s : State) (scope : Nat) (target value : Expr) : Option (String × String) :=
  (target.ownField? <|> target.name?).bind fun name =>
    creation? s scope name (((s.bindingOf? scope target).map Binding.typeName).getD "") value

/-- The listed page objects have been recorded between two states. -/
def Recorded (log : List (String × String)) (s s' : State) : Prop :=
  s'.context.pageObjects = Table.merge s.context.pageObjects log

section Recorded

variable {log log' : List (String × String)} {s s' s'' : State}

theorem Unrecorded.recorded (h : Unrecorded s s') : Recorded [] s s' := h

theorem Recorded.trans (h : Recorded log s s') (h' : Recorded log' s' s'') :
    Recorded (log ++ log') s s'' := by
  unfold Recorded at *
  rw [h', h, Table.merge, Table.merge, Table.merge, List.foldl_append]

theorem Recorded.after (h' : Recorded log s' s'') (h : Recorded [] s s') : Recorded log s s'' := by
  have := h.trans h'
  rwa [List.nil_append] at this

theorem Recorded.before (h : Recorded log s s') (h' : Recorded [] s' s'') : Recorded log s s'' := by
  have := h.trans h'
  rwa [List.append_nil] at this

theorem recorded_of_keeps {α : Type} {x : Extract α} [h : Keeps Unrecorded x] {c : Context}
    {r : Except Stop α} (hrun : x.runFrom c s = (r, s')) : Recorded [] s s' :=
  (h.of_runFrom hrun).recorded

end Recorded

/-! ### Statements that give a variable its value -/

section Absorb

variable {c : Context} {s s' : State} {scope : Nat} {name typeName : String}

/-- What is taken into the context is recorded if it is a page object; otherwise nothing changes. -/
structure Absorbs (created : Option (String × String)) (s : State) (r : Except Stop Bool)
    (s' : State) :
    Prop where
  recorded : Recorded created.toList s s'
  untouched : r = .ok false → s' = s ∧ created = none

variable {target : Nat} {field : Bool} {r : Except Stop Bool} {init : Expr} {span : Span}
variable {reads : Readers}

theorem absorbs_absorbNew {args : List Expr}
    (hrun : (absorbNew scope target name typeName args field).runFrom c s = (r, s')) :
    Absorbs (createdByNew? s scope name typeName args) s r s' := by
  unfold absorbNew at hrun
  dsimp only at hrun
  unfold createdByNew?
  dsimp only
  cases hbrowser : browserOf? (baseType typeName) with
  | some =>
    rw [hbrowser] at hrun
    cases hrun
    exact ⟨rfl, nofun⟩
  | none =>
    rw [hbrowser] at hrun
    by_cases hwait : isWaitType (baseType typeName) = true
    · rw [if_pos hwait] at hrun
      simp only [hwait]
      rcases htimeout : (timeoutOfNew? args).runFrom c s with ⟨_ | timeout, s₁⟩
      · rw [runFrom_bind_error htimeout] at hrun
        cases hrun
        exact ⟨recorded_of_keeps htimeout, nofun⟩
      · rw [runFrom_bind_ok htimeout] at hrun
        have hkept : Recorded [] s s₁ := recorded_of_keeps htimeout
        cases timeout with
        | none =>
          cases hrun
          exact ⟨hkept, nofun⟩
        | some seconds =>
          change (if (field || producesContext c.role) = true then do
              recordTimeout name seconds
              pure true
            else pure true : Extract Bool).runFrom c _ = (r, s') at hrun
          split at hrun <;> cases hrun <;> exact ⟨hkept, nofun⟩
    · rw [if_neg hwait] at hrun
      by_cases hactions : (baseType typeName == "Actions") = true
      · rw [if_pos hactions] at hrun
        cases hrun
        simp only [hactions, Bool.or_true]
        exact ⟨rfl, nofun⟩
      · rw [if_neg hactions, runFrom_bind_ok runFrom_get] at hrun
        simp only [hwait, hactions]
        split at hrun
        · rename_i hproject
          cases hrun
          rw [if_pos hproject]
          exact ⟨rfl, nofun⟩
        · rename_i hproject
          cases hrun
          rw [if_neg hproject]
          exact ⟨rfl, fun _ => ⟨rfl, rfl⟩⟩

theorem creation?_eq_none
    (h : s.isDriver scope init = true ∨ isDriverType (baseType typeName) = true)
    (hnew : ∀ created args text at_, init ≠ .new created args text at_) :
    creation? s scope name typeName init = none := by
  unfold creation?
  split
  · exact (hnew _ _ _ _ rfl).elim
  · rcases h with h | h
    · cases h
    · simp [h]
  · rfl

theorem absorbs_absorbGiven (hnew : ∀ created args text at_, init ≠ .new created args text at_)
    (hrun : (absorbGiven scope target name typeName init span).runFrom c s = (r, s')) :
    Absorbs (creation? s scope name typeName init) s r s' := by
  unfold absorbGiven at hrun
  rw [runFrom_bind_ok runFrom_get] at hrun
  by_cases hknown : (s.isDriver scope init &&
      (isDriverType (baseType typeName) || typeName == "")) = true
  · rw [if_pos hknown] at hrun
    cases hrun
    rw [Bool.and_eq_true] at hknown
    rw [creation?_eq_none (.inl hknown.1) hnew]
    exact ⟨rfl, nofun⟩
  · rw [if_neg hknown] at hrun
    by_cases hdriver : isDriverType (baseType typeName) = true
    · rw [if_pos hdriver] at hrun
      cases hrun
      rw [creation?_eq_none (.inr hdriver) hnew]
      exact ⟨rfl, nofun⟩
    · rw [if_neg hdriver] at hrun
      split at hrun
      · rename_i owner _ _ _
        by_cases howner : owner.isName "PageFactory" = true
        · rw [if_pos howner] at hrun
          cases hrun
          rw [creation?, howner, eq_false_of_ne_true hdriver]
          exact ⟨rfl, nofun⟩
        · rw [if_neg howner] at hrun
          cases hrun
          rw [creation?, eq_false_of_ne_true howner]
          exact ⟨rfl, fun _ => ⟨rfl, rfl⟩⟩
      · rename_i hcall
        cases hrun
        have hnone : creation? s scope name typeName init = none := by
          unfold creation?
          split
          · exact (hnew _ _ _ _ rfl).elim
          · exact (hcall _ _ _ _ rfl).elim
          · rfl
        rw [hnone]
        exact ⟨rfl, fun _ => ⟨rfl, rfl⟩⟩

theorem absorbs_absorb (hrun : (absorb scope name typeName init span field).runFrom c s = (r, s')) :
    Absorbs (creation? s scope name typeName init) s r s' := by
  unfold absorb at hrun
  dsimp only at hrun
  split at hrun
  · rw [creation?]
    exact absorbs_absorbNew hrun
  · split at hrun
    · cases hrun
      exact ⟨rfl, nofun⟩
    · exact absorbs_absorbGiven nofun hrun
  · rename_i hnew _
    exact absorbs_absorbGiven hnew hrun

theorem recorded_of_absorb {rest : Extract (List Action)} {r : Except Stop (List Action)}
    (hrun : (do if ← absorb scope name typeName init span field then return [] else rest :
      Extract (List Action)).runFrom c s = (r, s'))
    (hrest : creation? s scope name typeName init = none → rest.runFrom c s = (r, s') →
      Recorded [] s s') :
    Recorded (creation? s scope name typeName init).toList s s' := by
  rcases habsorb : (absorb scope name typeName init span field).runFrom c s with ⟨_ | taken, _⟩
  · rw [runFrom_bind_error habsorb] at hrun
    cases hrun
    exact (absorbs_absorb habsorb).recorded
  · rw [runFrom_bind_ok habsorb] at hrun
    cases taken with
    | true =>
      cases hrun
      exact (absorbs_absorb habsorb).recorded
    | false =>
      obtain ⟨rfl, hnone⟩ := (absorbs_absorb habsorb).untouched rfl
      rw [hnone]
      exact hrest hnone hrun

theorem recorded_bindVariable [Unrecording reads] {init : Option Expr}
    {declare : Bool} {r : Except Stop (List Action)}
    (hrun : (bindVariable reads scope name typeName init span declare).runFrom c s = (r, s')) :
    Recorded (init.bind (creation? s scope name typeName)).toList s s' := by
  unfold bindVariable at hrun
  obtain ⟨prov, hprov⟩ : ∃ prov, (provenanceOf span).runFrom c s = (.ok prov, s) := ⟨_, rfl⟩
  rw [runFrom_bind_ok hprov] at hrun
  cases init with
  | none => exact recorded_of_keeps hrun
  | some init =>
    refine recorded_of_absorb hrun fun _ hrest => Keeps.of_runFrom (R := Unrecorded) (h := ?_) hrest
    repeat' first
      | infer_instance
      | split

theorem recorded_assignment [Unrecording reads] {target value : Expr} {text : String}
    {r : Except Stop (List Action)}
    (hrun : (assignment reads scope target value text span).runFrom c s = (r, s')) :
    Recorded (assigned? s scope target value).toList s s' := by
  unfold assignment at hrun
  unfold assigned?
  cases hname : target.ownField? <|> target.name? with
  | none =>
    rw [hname] at hrun
    exact recorded_of_keeps hrun
  | some =>
    rw [hname] at hrun
    rw [runFrom_bind_ok runFrom_get] at hrun
    refine recorded_of_absorb hrun fun hnone hrest => ?_
    split at hrest
    · cases hrest
      rfl
    · have hbound := recorded_bindVariable hrest
      rwa [Option.bind_some, hnone] at hbound

end Absorb

/-! ### Bodies -/

def stateAfter {α : Type} (x : Extract α) (c : Context) (s : State) : State := (x.runFrom c s).2

theorem stateAfter_of_runFrom {α : Type} {x : Extract α} {c : Context} {s s' : State}
    {r : Except Stop α}
    (h : x.runFrom c s = (r, s')) : stateAfter x c s = s' := by rw [stateAfter, h]

def opened (scope : Nat) (s : State) : Nat × State :=
  ((s.scopes.child scope).2, { s with scopes := (s.scopes.child scope).1 })

mutual

/-- The page objects that variables are given in a statement, in the order of reading. What is not
understood creates none, and neither side of a condition that is not understood is read. -/
def creationsOf (c : Context) (scope : Nat) : Stmt → State → List (String × String)
  | .localVar typeName name init _ _, s => (init.bind (creation? s scope name typeName)).toList
  | .assign target value _ _, s => (assigned? s scope target value).toList
  | .ite condition thenBody elseBody _ _, s =>
    match (isGuard scope condition).runFrom c s with
    | (.ok true, _) => creationsIn c (opened scope s).1 thenBody (opened scope s).2
    | _ =>
      match (valueOf (readers condition.depth) scope condition).runFrom c s with
      | (.error _, _) => []
      | (.ok _, s₁) =>
        let first := opened scope s₁
        let second := opened scope (stateAfter (block first.1 thenBody) c first.2)
        creationsIn c first.1 thenBody first.2 ++ creationsIn c second.1 elseBody second.2
  | .try body catches none _ span, s =>
    let first := opened scope s
    creationsIn c first.1 body first.2 ++
      creationsAfter c scope span catches (stateAfter (block first.1 body) c first.2)
  | .try body catches (some last) _ span, s =>
    let first := opened scope s
    let final := opened scope (stateAfter
      (trial span catches (do block (← openScope scope) body) (firstHandler scope catches)) c s)
    creationsIn c first.1 body first.2 ++
      creationsAfter c scope span catches (stateAfter (block first.1 body) c first.2) ++
      creationsIn c final.1 last final.2
  | .expr .., _ | .ret .., _ | .verbatim .., _ => []

/-- The page objects of the handlers of a try statement: those of the first, if it is read. -/
def creationsAfter (c : Context) (scope : Nat) (span : Span) :
    List Catch → State → List (String × String)
  | [], _ => []
  | .mk types name body at_ :: rest, s =>
    if onlyInterrupted (.mk types name body at_ :: rest) then []
    else
      let handler := opened scope (stateAfter
        (if rest.isEmpty then pure () else remark .severalCatches span) c s)
      creationsIn c handler.1 body handler.2

/-- The page objects that variables are given in several statements. Each is read with an empty
queue in the state that those before it have left. -/
def creationsIn (c : Context) (scope : Nat) : List Stmt → State → List (String × String)
  | [], _ => []
  | st :: rest, s =>
    creationsOf c scope st { s with pending := [] } ++
      creationsIn c scope rest (stateAfter (guarded scope st (convert scope st)) c s)

end

variable {r : Except Stop (List Action)}

/-- How a statement that is read on its own ends: all but what stops everything is caught. It
becomes its text, or what it is converted to behind its lookups, and the queue is as before. -/
theorem exists_of_guarded {c : Context} {s s' : State} {scope : Nat} {st : Stmt}
    {inner : Extract (List Action)} (hrun : (guarded scope st inner).runFrom c s = (r, s')) :
    ∃ r₀ s₀, inner.runFrom c { s with pending := [] } = (r₀, s₀) ∧ Unrecorded s₀ s' ∧
      ((∃ why, r₀ = .error (.halted why) ∧ r = .error (.halted why)) ∨ s'.pending = s.pending ∧
        ((∃ cause reason p, r₀ = .error (.unrecognized cause) ∧
          r = .ok [.verbatim (trim st.text) reason p]) ∨
          ∃ actions, r₀ = .ok actions ∧ r = .ok (s₀.pending ++ actions))) := by
  unfold guarded at hrun
  rw [runFrom_bind_ok runFrom_get, runFrom_bind_ok (runFrom_modify _), runFrom_bind,
    runFrom_tryCatch, runFrom_bind] at hrun
  rcases hinner : inner.runFrom c { s with pending := [] } with ⟨(cause | why) | actions, s₀⟩
  · rw [hinner] at hrun
    refine ⟨_, _, rfl, ?_⟩
    cases st with
    | localVar _ name =>
      have hreport (d : Diagnostic) : (report d).runFrom c s₀ =
          (.ok (), { s₀ with diagnostics := s₀.diagnostics ++ [d] }) := rfl
      dsimp only at hrun
      rw [runFrom_bind_ok runFrom_read, runFrom_bind_ok (hreport _),
        runFrom_bind_ok runFrom_get] at hrun
      by_cases hnew : (s₀.scopes.lookup scope name).isNone = true
      · rw [if_pos hnew] at hrun
        cases hrun
        exact ⟨rfl, .inr ⟨rfl, .inl ⟨_, _, _, rfl, rfl⟩⟩⟩
      · rw [if_neg hnew] at hrun
        cases hrun
        exact ⟨rfl, .inr ⟨rfl, .inl ⟨_, _, _, rfl, rfl⟩⟩⟩
    | _ =>
      cases hrun
      exact ⟨rfl, .inr ⟨rfl, .inl ⟨_, _, _, rfl, rfl⟩⟩⟩
  · rw [hinner] at hrun
    cases hrun
    exact ⟨_, _, rfl, rfl, .inl ⟨why, rfl, rfl⟩⟩
  · rw [hinner] at hrun
    cases hrun
    exact ⟨_, _, rfl, rfl, .inr ⟨rfl, .inr ⟨_, rfl, rfl⟩⟩⟩

/-- A step in which everything that is not understood is caught. -/
class Caught {α : Type} (x : Extract α) : Prop where
  ne_unrecognized {c : Context} {s s' : State} {cause : Cause} :
    x.runFrom c s ≠ (.error (.unrecognized cause), s')

section Caught

variable {α β : Type} {c : Context} {s s' : State}
variable {x : Extract α}

instance (a : α) : Caught (pure a : Extract α) := ⟨nofun⟩

instance (span : Span) : Caught (provenanceOf span) := ⟨nofun⟩

instance (r : Remark) (span : Span) : Caught (remark r span) := ⟨nofun⟩

instance (scope : Nat) : Caught (openScope scope) := ⟨nofun⟩

/-- A step that catches everything gives a result, or everything stops. -/
theorem exists_ok_of_bind [hx : Caught x] {f : α → Extract β} {r : Except Stop β}
    (hgo : ∀ why, r ≠ .error (.halted why)) (hrun : (x >>= f).runFrom c s = (r, s')) :
    ∃ a s₁, x.runFrom c s = (.ok a, s₁) ∧ (f a).runFrom c s₁ = (r, s') := by
  rcases hfirst : x.runFrom c s with ⟨(_ | why) | a, s₁⟩
  · exact absurd hfirst hx.ne_unrecognized
  · rw [runFrom_bind_error hfirst] at hrun
    cases hrun
    exact absurd rfl (hgo why)
  · rw [runFrom_bind_ok hfirst] at hrun
    exact ⟨a, s₁, rfl, hrun⟩

theorem ok_of_caught [hx : Caught x] {r : Except Stop α}
    (hgo : ∀ why, r ≠ .error (.halted why)) (hrun : x.runFrom c s = (r, s')) : ∃ a, r = .ok a := by
  rcases r with (_ | why) | a
  · exact absurd hrun hx.ne_unrecognized
  · exact absurd rfl (hgo why)
  · exact ⟨a, rfl⟩

instance (x : Extract α) (f : α → Extract β) [hx : Caught x] [hf : ∀ a, Caught (f a)] :
    Caught (x >>= f) := by
  refine ⟨fun {c s s' cause} hrun => ?_⟩
  obtain ⟨a, _, -, hrest⟩ := exists_ok_of_bind (fun _ => by simp) hrun
  exact (hf a).ne_unrecognized hrest

instance (p : Prop) [Decidable p] (x y : Extract α) [hx : Caught x] [hy : Caught y] :
    Caught (if p then x else y) := by
  split
  · exact hx
  · exact hy

instance (scope : Nat) (st : Stmt) (inner : Extract (List Action)) :
    Caught (guarded scope st inner) := by
  refine ⟨fun {c s s' cause} hrun => ?_⟩
  obtain ⟨_, _, -, -, ⟨_, -, h⟩ | ⟨-, ⟨_, _, _, -, h⟩ | ⟨_, -, h⟩⟩⟩ := exists_of_guarded hrun <;>
    cases h

instance (scope : Nat) (body : List Stmt) : Caught (block scope body) := by
  induction body with
  | nil =>
    unfold block
    infer_instance
  | cons =>
    unfold block
    infer_instance

instance (scope : Nat) (catches : List Catch) : Caught (firstHandler scope catches) := by
  unfold firstHandler
  split <;> infer_instance

instance (span : Span) (catches : List Catch) (body fallback : Extract (List Action))
    [Caught body] [Caught fallback] : Caught (trial span catches body fallback) := by
  unfold trial
  infer_instance

end Caught

theorem runFrom_openScope (c : Context) (s : State) (scope : Nat) :
    (openScope scope).runFrom c s = (.ok (opened scope s).1, (opened scope s).2) := rfl

theorem exists_isGuard (c : Context) (s : State) (scope : Nat) (condition : Expr) :
    ∃ b, (isGuard scope condition).runFrom c s = (.ok b, s) := by
  unfold isGuard
  split
  · split <;> exact ⟨_, rfl⟩
  · exact ⟨_, rfl⟩

theorem exists_of_trial {c : Context} {s s' : State} {scope : Nat} {span : Span}
    {catches : List Catch}
    {body : List Stmt} {fallback : Extract (List Action)} (hgo : ∀ why, r ≠ .error (.halted why))
    (hrun : (trial span catches (do block (← openScope scope) body) fallback).runFrom c s =
      (r, s')) :
    ∃ actions s₁, (block (opened scope s).1 body).runFrom c (opened scope s).2 = (.ok actions, s₁) ∧
      (if onlyInterrupted catches then return actions
        else do
          if catches.length > 1 then remark .severalCatches span
          return [.probe actions (← fallback) (← provenanceOf span)] :
          Extract (List Action)).runFrom c s₁ = (r, s') := by
  obtain ⟨actions, s₁, hbody, hrest⟩ := exists_ok_of_bind hgo hrun
  exact ⟨actions, s₁, hbody, hrest⟩

mutual

/-- A statement records the page objects it creates, unless everything stops. -/
theorem recorded_convert (c : Context) (scope : Nat) : ∀ (st : Stmt) {s s' : State}
    {r : Except Stop (List Action)}, (∀ why, r ≠ .error (.halted why)) →
    (convert scope st).runFrom c s = (r, s') → Recorded (creationsOf c scope st s) s s'
  | .localVar typeName name init _ span, s, s', r, _, hrun => by
    rw [convert] at hrun
    rw [creationsOf]
    exact recorded_bindVariable hrun
  | .assign target value text span, s, s', r, _, hrun => by
    rw [convert] at hrun
    rw [creationsOf]
    exact recorded_assignment hrun
  | .expr value text span, s, s', r, _, hrun => by
    unfold convert at hrun
    rw [creationsOf]
    split at hrun <;> exact recorded_of_keeps hrun
  | .ret value _ span, s, s', r, _, hrun => by
    rw [convert] at hrun
    rw [creationsOf]
    exact recorded_of_keeps hrun
  | .verbatim _ _ reason, s, s', r, _, hrun => by
    rw [convert] at hrun
    rw [creationsOf]
    exact recorded_of_keeps hrun
  | .ite condition thenBody elseBody _ span, s, s', r, hgo, hrun => by
    rw [convert] at hrun
    rw [creationsOf]
    obtain ⟨guard, hguard⟩ := exists_isGuard c s scope condition
    rw [runFrom_bind_ok hguard] at hrun
    rw [hguard]
    cases guard with
    | true =>
      rw [if_pos rfl, runFrom_bind_ok (runFrom_openScope c s scope)] at hrun
      obtain ⟨actions, rfl⟩ := ok_of_caught hgo hrun
      exact recorded_block c _ thenBody hrun
    | false =>
      rw [if_neg (by decide)] at hrun
      dsimp only
      rcases hvalue : (valueOf (readers condition.depth) scope condition).runFrom c s with
        ⟨stop | value, s₁⟩
      · rw [runFrom_bind_error hvalue] at hrun
        cases hrun
        exact recorded_of_keeps hvalue
      · rw [runFrom_bind_ok hvalue, runFrom_bind_ok (runFrom_openScope c s₁ scope)] at hrun
        obtain ⟨_, s₂, hthen, hrun⟩ := exists_ok_of_bind hgo hrun
        rw [runFrom_bind_ok (runFrom_openScope c s₂ scope)] at hrun
        obtain ⟨_, s₃, helse, hrun⟩ := exists_ok_of_bind hgo hrun
        cases hrun
        dsimp only
        rw [stateAfter_of_runFrom hthen]
        have hfirst : Recorded [] s s₁ := recorded_of_keeps hvalue
        exact .after (Recorded.trans (recorded_block c _ thenBody hthen)
          (recorded_block c _ elseBody helse)) hfirst
  | .try body catches none _ span, s, s', r, hgo, hrun => by
    rw [convert] at hrun
    rw [creationsOf]
    obtain ⟨actions, s₁, hbody, hrest⟩ := exists_of_trial hgo hrun
    rw [stateAfter_of_runFrom hbody]
    exact .trans (recorded_block c _ body hbody)
      (recorded_handlers c scope span actions catches hgo hrest)
  | .try body catches (some last) _ span, s, s', r, hgo, hrun => by
    rw [convert] at hrun
    rw [creationsOf]
    obtain ⟨_, s₂, htrial, hrun⟩ := exists_ok_of_bind hgo hrun
    obtain ⟨actions, s₁, hbody, hrest⟩ := exists_of_trial (fun _ => by simp) htrial
    rw [stateAfter_of_runFrom hbody, stateAfter_of_runFrom htrial]
    refine .trans (Recorded.trans (recorded_block c _ body hbody)
      (recorded_handlers c scope span actions catches (fun _ => by simp) hrest)) ?_
    cases last with
    | nil =>
      cases hrun
      rw [creationsIn]
      rfl
    | cons st rest =>
      rw [if_neg (by simp), runFrom_bind_ok (runFrom_openScope c s₂ scope)] at hrun
      obtain ⟨_, s₃, hlast, hrun⟩ := exists_ok_of_bind hgo hrun
      cases hrun
      exact recorded_block c _ (st :: rest) hlast

theorem recorded_handlers (c : Context) (scope : Nat) (span : Span) (actions : List Action) :
    ∀ (catches : List Catch) {s s' : State} {r : Except Stop (List Action)},
    (∀ why, r ≠ .error (.halted why)) →
    (if onlyInterrupted catches then return actions
      else do
        if catches.length > 1 then remark .severalCatches span
        return [.probe actions (← firstHandler scope catches) (← provenanceOf span)] :
        Extract (List Action)).runFrom c s = (r, s') →
    Recorded (creationsAfter c scope span catches s) s s'
  | [], s, s', r, hgo, hrun => by
    cases hrun
    rw [creationsAfter]
    rfl
  | .mk types name body at_ :: rest, s, s', r, hgo, hrun => by
    rw [creationsAfter]
    by_cases honly : onlyInterrupted (.mk types name body at_ :: rest) = true
    · rw [if_pos honly] at hrun
      cases hrun
      rw [if_pos honly]
      rfl
    · rw [if_neg honly] at hrun
      rw [if_neg honly]
      cases rest with
      | nil =>
        rw [if_neg (by simp), firstHandler] at hrun
        obtain ⟨fallback, s₁, hhandler, hrun⟩ := exists_ok_of_bind hgo hrun
        cases hrun
        rw [runFrom_bind_ok (runFrom_openScope c s scope)] at hhandler
        exact recorded_block c _ body hhandler
      | cons _ rest =>
        rw [if_pos (by simp), firstHandler] at hrun
        obtain ⟨_, s₁, hremark, hrun⟩ := exists_ok_of_bind hgo hrun
        obtain ⟨fallback, _, hhandler, hrun⟩ := exists_ok_of_bind hgo hrun
        cases hrun
        rw [List.isEmpty_cons, if_neg (by decide), stateAfter_of_runFrom hremark]
        rw [runFrom_bind_ok (runFrom_openScope c s₁ scope)] at hhandler
        have hsame : Recorded [] s s₁ := recorded_of_keeps hremark
        exact .after (recorded_block c _ body hhandler) hsame

theorem recorded_block (c : Context) (scope : Nat) : ∀ (body : List Stmt) {s s' : State}
    {actions : List Action}, (block scope body).runFrom c s = (.ok actions, s') →
    Recorded (creationsIn c scope body s) s s'
  | [], s, s', actions, hrun => by
    rw [block] at hrun
    rw [creationsIn]
    exact recorded_of_keeps hrun
  | st :: rest, s, s', actions, hrun => by
    rw [block] at hrun
    rw [creationsIn]
    obtain ⟨first, s₁, hfirst, hrun⟩ := exists_of_runFrom_bind hrun
    obtain ⟨others, s₂, hrest, hrun⟩ := exists_of_runFrom_bind hrun
    cases hrun
    rw [stateAfter_of_runFrom hfirst]
    obtain ⟨r₀, s₀, hconvert, hkept, ⟨why, -, hstop⟩ | ⟨-, hgo⟩⟩ := exists_of_guarded hfirst
    · cases hstop
    · have hgo : ∀ why, r₀ ≠ .error (.halted why) := by
        obtain ⟨_, _, _, rfl, -⟩ | ⟨_, rfl, -⟩ := hgo <;> exact nofun
      have hone := (recorded_convert c scope st hgo hconvert).before hkept.recorded
      exact .trans hone (recorded_block c scope rest hrest)

end

end TestMigration.Extraction
