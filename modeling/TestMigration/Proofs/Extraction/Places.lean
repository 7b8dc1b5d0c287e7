import TestMigration.Proofs.Extraction.ClassPageObjects
/-!
# Statements at their places

The statements of a body are read one behind the other, and what they become is put together in that
order (`standsAt_of_block`). A condition or an exception handler has bodies of its own, and what
these become stands inside of the action for the whole statement, or in its place (`Embeds`). So any
statement, however deep inside of others, is found again in the actions, along the way that leads to
it (`Appears`).

A way ends early at a statement passed on as text. And a condition that only guards something the
tests are given is taken away, with its else side.
-/

namespace TestMigration.Extraction

open Syntax TestMigration.Action Text

/-- The bodies inside of a statement. -/
inductive Part where
  | thenSide
  | elseSide
  | tried
  /-- The first handler of a try statement. -/
  | handler
  | last
  deriving DecidableEq, Repr

def handlerBody : List Catch → List Stmt
  | [] => []
  | .mk _ _ body _ :: _ => body

/-- The statements of a part. Handlers of an interrupted pause do not count. -/
def Part.of : Part → Stmt → List Stmt
  | .thenSide, .ite _ thenBody _ _ _ => thenBody
  | .elseSide, .ite _ _ elseBody _ _ => elseBody
  | .tried, .try body _ _ _ _ => body
  | .handler, .try _ catches _ _ _ => if onlyInterrupted catches then [] else handlerBody catches
  | .last, .try _ _ (some ending) _ _ => ending
  | _, _ => []

/-- The statement of a number in the body that a way leads to. A way goes from a numbered statement
to one of its parts. -/
def statementAt? : List (Nat × Part) → Nat → List Stmt → Option Stmt
  | [], k, body => body[k]?
  | (j, part) :: way, k, body => body[j]?.bind fun outer => statementAt? way k (part.of outer)

/-- What a statement has become holds what a part of it has become. -/
inductive Embeds : Stmt → Part → List Action → List Action → Prop
  | guard {e : Expr} {thenBody elseBody : List Stmt} {text : String} {span : Span}
      {inner : List Action} :
    Embeds (.ite e thenBody elseBody text span) .thenSide inner inner
  | thenSide {e : Expr} {thenBody elseBody : List Stmt} {text : String} {span : Span}
    {lookups inner other : List Action} {v : Value} {p : Provenance} :
    Embeds (.ite e thenBody elseBody text span) .thenSide inner
      (lookups ++ [.branch v inner other p])
  | elseSide {e : Expr} {thenBody elseBody : List Stmt} {text : String} {span : Span}
    {lookups inner other : List Action} {v : Value} {p : Provenance} :
    Embeds (.ite e thenBody elseBody text span) .elseSide inner
      (lookups ++ [.branch v other inner p])
  | tried {body : List Stmt} {catches : List Catch} {last : Option (List Stmt)} {text : String}
      {span : Span}
    {inner rest : List Action} (h : onlyInterrupted catches = true) :
    Embeds (.try body catches last text span) .tried inner (inner ++ rest)
  | attempted {body : List Stmt} {catches : List Catch} {last : Option (List Stmt)} {text : String}
    {span : Span} {inner fallback rest : List Action} {p : Provenance} :
    Embeds (.try body catches last text span) .tried inner (.probe inner fallback p :: rest)
  | handler {body : List Stmt} {catches : List Catch} {last : Option (List Stmt)} {text : String}
    {span : Span} {inner tried rest : List Action} {p : Provenance} :
    Embeds (.try body catches last text span) .handler inner (.probe tried inner p :: rest)
  | last {body : List Stmt} {catches : List Catch} {last : List Stmt} {text : String} {span : Span}
    {inner first : List Action} :
    Embeds (.try body catches (some last) text span) .last inner (first ++ inner)

/-- A statement of a body has been read on its own; what it has become stands between what those
before and behind it have become. -/
structure StandsAt (c : Context) (i : Nat) (s : State) (body : List Stmt)
    (actions : List Action) (k : Nat) (st : Stmt) (s₁ : State) (own : List Action) : Prop where
  statement : body[k]? = some st
  placed : ∃ first rest s₂ s₃, actions = first ++ own ++ rest ∧
    (block i (body.take k)).runFrom c s = (.ok first, s₁) ∧
    (guarded i st (convert i st)).runFrom c s₁ = (.ok own, s₂) ∧
    (block i (body.drop (k + 1))).runFrom c s₂ = (.ok rest, s₃)

/-- A statement is passed on as text. -/
def PassedOn (st : Stmt) (own : List Action) : Prop :=
  ∃ reason p, own = [.verbatim (trim st.text) reason p]

/-- A condition that only guards something the tests are given. -/
def Guards (c : Context) (i : Nat) (s : State) (st : Stmt) : Prop :=
  ∃ e thenBody elseBody text span, st = .ite e thenBody elseBody text span ∧
    (isGuard i e).runFrom c s = (.ok true, s)

/-- What a statement has become stands at its place in the actions of a body, or the way to it ends
early: at a statement passed on as text, or at the else side of a guard. -/
def Appears (c : Context) (st : Stmt) :
    List (Nat × Part) → Nat → Nat → State → List Stmt → List Action → Prop
  | [], k, i, s, body, actions => ∃ s₁ own, StandsAt c i s body actions k st s₁ own
  | (j, part) :: way, k, i, s, body, actions => ∃ outer s₁ own,
      StandsAt c i s body actions j outer s₁ own ∧
      (PassedOn outer own ∨ part = .elseSide ∧ Guards c i { s₁ with pending := [] } outer ∨
        ∃ i' s' inner, Embeds outer part inner own ∧ Appears c st way k i' s' (part.of outer) inner)

section Reading

variable {c : Context} {i : Nat} {s s' : State}
variable {st : Stmt} {actions : List Action} {body : List Stmt} {k : Nat} {catches : List Catch}
variable {span : Span} {text : String} {part : Part}

/-- What a statement that is read on its own becomes: its text, or what it is converted to behind
its lookups. The queue is as before. -/
theorem exists_of_guarded_ok {x : Extract (List Action)} {own : List Action}
    (hrun : (guarded i st x).runFrom c s = (.ok own, s')) :
    s'.pending = s.pending ∧ (PassedOn st own ∨ ∃ actions s₀,
      x.runFrom c { s with pending := [] } = (.ok actions, s₀) ∧ own = s₀.pending ++ actions) := by
  obtain ⟨_, s₀, hx, -, ⟨_, -, h⟩ | ⟨hpending, ⟨_, reason, p, -, h⟩ | ⟨actions, rfl, h⟩⟩⟩ :=
    exists_of_guarded hrun <;> cases h
  · exact ⟨hpending, .inl ⟨reason, p, rfl⟩⟩
  · exact ⟨hpending, .inr ⟨actions, s₀, hx, rfl⟩⟩

theorem exists_of_block_cons {rest : List Stmt}
    (hrun : (block i (st :: rest)).runFrom c s = (.ok actions, s')) :
    ∃ own others s₁, actions = own ++ others ∧ (guarded i st (convert i st)).runFrom c s =
      (.ok own, s₁) ∧
      (block i rest).runFrom c s₁ = (.ok others, s') := by
  obtain ⟨own, s₁, hfirst, hrun⟩ := exists_of_runFrom_bind hrun
  obtain ⟨others, _, hrest, hrun⟩ := exists_of_runFrom_bind hrun
  cases hrun
  exact ⟨own, others, s₁, rfl, hfirst, hrest⟩

theorem pending_of_block
    (hrun : (block i body).runFrom c s = (.ok actions, s')) : s'.pending = s.pending := by
  induction body generalizing s actions with
  | nil =>
    cases hrun
    rfl
  | cons _ _ ih =>
    obtain ⟨_, _, _, -, hfirst, hrest⟩ := exists_of_block_cons hrun
    exact (ih hrest).trans (exists_of_guarded_ok hfirst).1

/-- **The statements of a body keep their order.** -/
theorem standsAt_of_block
    (hrun : (block i body).runFrom c s = (.ok actions, s')) (hk : body[k]? = some st) :
    ∃ s₁ own, StandsAt c i s body actions k st s₁ own := by
  induction body generalizing k s actions with
  | nil => simp at hk
  | cons first _ ih =>
    obtain ⟨own, others, s₁, rfl, hfirst, hrest⟩ := exists_of_block_cons hrun
    cases k with
    | zero =>
      obtain rfl : first = st := by simpa using hk
      exact ⟨s, own, by simp, [], others, s₁, s', by simp, rfl, hfirst, hrest⟩
    | succ k =>
      obtain ⟨s₂, mine, _, before, behind, s₃, s₄, rfl, hbefore, hmine, hbehind⟩ := ih hrest hk
      refine ⟨s₂, mine, hk, own ++ before, behind, s₃, s₄, by simp, ?_, hmine, hbehind⟩
      rw [List.take_succ_cons, block, runFrom_bind_ok hfirst, runFrom_bind_ok hbefore]
      rfl

/-! ### Parts of statements -/

theorem exists_of_inner
    (hrun : (do block (← openScope i) body : Extract (List Action)).runFrom c s =
      (.ok actions, s')) :
    s'.pending = s.pending ∧ ∃ i₁ s₁, (block i₁ body).runFrom c s₁ = (.ok actions, s') := by
  exact ⟨(pending_of_block hrun).trans rfl, _, _, hrun⟩

theorem exists_of_firstHandler (hrun : (firstHandler i catches).runFrom c s = (.ok actions, s')) :
    s'.pending = s.pending ∧ ∃ i₁ s₁, (block i₁ (handlerBody catches)).runFrom c s₁ =
      (.ok actions, s') := by
  rcases catches with _ | ⟨⟨_, _, _, _⟩, _⟩
  · cases hrun
    exact ⟨rfl, i, s, by rfl⟩
  · exact exists_of_inner hrun

theorem exists_of_trial_ok
    (hrun : (trial span catches (do block (← openScope i) body)
      (firstHandler i catches)).runFrom c s = (.ok actions, s')) :
    s'.pending = s.pending ∧ ∃ i₁ s₁ s₂ inner, (block i₁ body).runFrom c s₁ = (.ok inner, s₂) ∧
      (onlyInterrupted catches = true ∧ actions = inner ∨
        onlyInterrupted catches = false ∧ ∃ i₃ s₃ s₄ fallback p,
          (block i₃ (handlerBody catches)).runFrom c s₃ = (.ok fallback, s₄) ∧
          actions = [.probe inner fallback p]) := by
  obtain ⟨inner, s₂, hbody, hrest⟩ := exists_of_trial (fun _ => by simp) hrun
  have hpending : s₂.pending = s.pending := (pending_of_block hbody).trans rfl
  by_cases honly : onlyInterrupted catches = true
  · rw [if_pos honly] at hrest
    cases hrest
    exact ⟨hpending, _, _, _, _, hbody, .inl ⟨honly, rfl⟩⟩
  · rw [if_neg honly] at hrest
    -- A remark on further handlers leaves the queue alone.
    obtain ⟨s₃, hremark, hrest⟩ : ∃ s₃, s₃.pending = s₂.pending ∧ (do
        return [.probe inner (← firstHandler i catches) (← provenanceOf span)] :
          Extract (List Action)).runFrom c s₃ = (.ok actions, s') := by
      split at hrest
      · obtain ⟨_, s₃, hremark, hrest⟩ := exists_of_runFrom_bind hrest
        cases hremark
        refine ⟨_, ?_, hrest⟩
        rfl
      · exact ⟨s₂, rfl, hrest⟩
    obtain ⟨fallback, s₄, hhandler, hrest⟩ := exists_of_runFrom_bind hrest
    cases hrest
    obtain ⟨hsame, i₁, s₁, hhandler⟩ := exists_of_firstHandler hhandler
    exact ⟨(hsame.trans hremark).trans hpending, _, _, _, _, hbody,
      .inr ⟨by simpa using honly, _, _, _, _, _, hhandler, rfl⟩⟩

theorem embeds_ite {e : Expr} {thenBody elseBody : List Stmt} (hs : s.pending = [])
    (hrun : (convert i (.ite e thenBody elseBody text span)).runFrom c s = (.ok actions, s'))
    (hpart : part.of (.ite e thenBody elseBody text span) ≠ []) :
    part = .elseSide ∧ Guards c i s (.ite e thenBody elseBody text span) ∨ ∃ i₁ s₁ s₂ inner,
      (block i₁ (part.of (.ite e thenBody elseBody text span))).runFrom c s₁ = (.ok inner, s₂) ∧
      Embeds (.ite e thenBody elseBody text span) part inner (s'.pending ++ actions) := by
  rw [convert] at hrun
  obtain ⟨b, hguard⟩ := exists_isGuard c s i e
  rw [runFrom_bind_ok hguard] at hrun
  cases b with
  | true =>
    cases part with
    | thenSide =>
      obtain ⟨hpending, i₁, s₁, hthen⟩ := exists_of_inner hrun
      exact .inr ⟨i₁, s₁, s', actions, hthen, by rw [hpending, hs]; exact .guard⟩
    | elseSide => exact .inl ⟨rfl, _, _, _, _, _, rfl, hguard⟩
    | tried | handler | last => exact absurd rfl hpart
  | false =>
    obtain ⟨v, s₁, -, hrun⟩ := exists_of_runFrom_bind hrun
    rw [runFrom_bind_ok (runFrom_openScope ..)] at hrun
    obtain ⟨_, s₂, hthen, hrun⟩ := exists_of_runFrom_bind hrun
    rw [runFrom_bind_ok (runFrom_openScope ..)] at hrun
    obtain ⟨_, _, helse, hrun⟩ := exists_of_runFrom_bind hrun
    cases hrun
    cases part with
    | thenSide => exact .inr ⟨_, _, _, _, hthen, .thenSide⟩
    | elseSide => exact .inr ⟨_, _, _, _, helse, .elseSide⟩
    | tried | handler | last => exact absurd rfl hpart

theorem embeds_try {last : Option (List Stmt)} (hs : s.pending = [])
    (hrun : (convert i (.try body catches last text span)).runFrom c s = (.ok actions, s'))
    (hpart : part.of (.try body catches last text span) ≠ []) : ∃ i₁ s₁ s₂ inner,
      (block i₁ (part.of (.try body catches last text span))).runFrom c s₁ = (.ok inner, s₂) ∧
      Embeds (.try body catches last text span) part inner (s'.pending ++ actions) := by
  -- What the first parts become, and what stands behind it.
  obtain ⟨first, rest, s₀, rfl, htrial, hpending, hlast⟩ :
    ∃ first rest s₀, actions = first ++ rest ∧
      (trial span catches (do block (← openScope i) body) (firstHandler i catches)).runFrom c s =
        (.ok first, s₀) ∧ s'.pending = s₀.pending ∧ (part = .last → ∃ i₁ s₁ s₂,
          (block i₁ (part.of (.try body catches last text span))).runFrom c s₁ =
            (.ok rest, s₂)) := by
    cases last with
    | none =>
      exact ⟨actions, [], s', by simp, hrun, rfl, fun h => by subst h; exact absurd rfl hpart⟩
    | some last =>
      obtain ⟨first, s₀, htrial, hrun⟩ := exists_of_runFrom_bind hrun
      split at hrun
      · rename_i hempty
        cases hrun
        exact ⟨actions, [], s', by simp, htrial, rfl, fun h => by
          subst h; exact absurd (List.isEmpty_iff.mp hempty) hpart⟩
      · rw [runFrom_bind_ok (runFrom_openScope ..)] at hrun
        obtain ⟨rest, s₁, hlast, hrun⟩ := exists_of_runFrom_bind hrun
        cases hrun
        exact ⟨first, rest, s₀, rfl, htrial, (pending_of_block hlast).trans rfl, fun h => by
          subst h; exact ⟨_, _, _, hlast⟩⟩
  obtain ⟨hsame, i₁, s₁, s₂, inner, hbody, hkind⟩ := exists_of_trial_ok htrial
  rw [hpending, hsame, hs]
  cases part with
  | thenSide | elseSide => exact absurd rfl hpart
  | tried =>
    obtain ⟨honly, rfl⟩ | ⟨-, i₃, s₃, s₄, fallback, p, -, rfl⟩ := hkind
    · exact ⟨i₁, s₁, s₂, _, hbody, .tried honly⟩
    · exact ⟨i₁, s₁, s₂, inner, hbody, .attempted⟩
  | handler =>
    obtain ⟨honly, -⟩ | ⟨honly, i₃, s₃, s₄, fallback, p, hhandler, rfl⟩ := hkind
    · simp [Part.of, honly] at hpart
    · exact ⟨i₃, s₃, s₄, fallback, by simpa [Part.of, honly] using hhandler, .handler⟩
  | last =>
    obtain ⟨i₃, s₃, s₄, hlast⟩ := hlast rfl
    cases last with
    | none => exact absurd rfl hpart
    | some last => exact ⟨i₃, s₃, s₄, rest, hlast, .last⟩

/-- The parts of a converted statement are converted, but for the else side of a guard. -/
theorem embeds_of_convert (hs : s.pending = [])
    (hrun : (convert i st).runFrom c s = (.ok actions, s')) (hpart : part.of st ≠ []) :
    part = .elseSide ∧ Guards c i s st ∨ ∃ i₁ s₁ s₂ inner,
      (block i₁ (part.of st)).runFrom c s₁ = (.ok inner, s₂) ∧
      Embeds st part inner (s'.pending ++ actions) := by
  cases st with
  | ite => exact embeds_ite hs hrun hpart
  | «try» => exact .inr (embeds_try hs hrun hpart)
  | _ => cases part <;> exact absurd rfl hpart

theorem appears_of_block (way : List (Nat × Part))
    (hrun : (block i body).runFrom c s = (.ok actions, s'))
    (hst : statementAt? way k body = some st) : Appears c st way k i s body actions := by
  induction way generalizing i s s' body actions with
  | nil => exact standsAt_of_block hrun hst
  | cons step way ih =>
    obtain ⟨j, part⟩ := step
    obtain ⟨outer, houter, hst⟩ := Option.bind_eq_some_iff.mp hst
    obtain ⟨s₁, own, hstands⟩ := standsAt_of_block hrun houter
    refine ⟨outer, s₁, own, hstands, ?_⟩
    obtain ⟨-, -, -, _, _, -, -, hown, -⟩ := hstands
    have hpart : part.of outer ≠ [] := by
      intro hnil
      rw [hnil] at hst
      rcases way with _ | ⟨⟨_, _⟩, way⟩ <;> simp [statementAt?] at hst
    obtain ⟨-, hpassed | ⟨_, _, hconvert, rfl⟩⟩ := exists_of_guarded_ok hown
    · exact .inl hpassed
    · obtain hguard | ⟨i₁, s₄, _, inner, hinner, hembeds⟩ := embeds_of_convert rfl hconvert hpart
      · exact .inr (.inl hguard)
      · exact .inr (.inr ⟨i₁, s₄, inner, hembeds, ih hinner hst⟩)

end Reading

/-! ### The methods of a class -/

/-- Statements become actions, read somewhere. -/
def ReadAs (body : List Stmt) (actions : List Action) : Prop :=
  ∃ c i s s', (block i body).runFrom c s = (.ok actions, s')

section Methods

variable {c : Context} {s s' : State} {kind : UnitKind} {m : MethodDecl}
  {setup teardown : List String}

theorem readAs_of_methodActions {role : Option MethodRole} {actions : List Action}
    (hrun : (methodActions m role).runFrom c s = (.ok actions, s')) : ReadAs m.body actions := by
  unfold methodActions at hrun
  rw [runFrom_withReader, runFrom_bind_ok (runFrom_modify _),
    runFrom_bind_ok (runFrom_openScope ..)] at hrun
  obtain ⟨_, _, -, hblock⟩ := exists_of_runFrom_bind hrun
  exact ⟨_, _, _, _, hblock⟩

theorem exists_of_readMethods {methods : List MethodDecl} {read : MethodReading}
    (hrun : (readMethods kind setup teardown methods).runFrom c s = (.ok read, s'))
    (hm : m ∈ methods) :
    ∃ actions, IsBodyOf m read.methods read.tests actions ∧ ReadAs m.body actions := by
  induction methods generalizing s read with
  | nil => cases hm
  | cons _ _ ih =>
    obtain ⟨actions, _, _, -, hactions, hrest, hfirst, hmethods, htests⟩ :=
      exists_of_readMethods_cons hrun
    rcases List.mem_cons.mp hm with rfl | hm
    · exact ⟨actions, hfirst, readAs_of_methodActions hactions⟩
    · obtain ⟨actions, ⟨t, ht, h⟩ | ⟨method, hm, h⟩, hbody⟩ := ih hrest hm
      · exact ⟨actions, .inl ⟨t, htests ht, h⟩, hbody⟩
      · exact ⟨actions, .inr ⟨method, hmethods hm, h⟩, hbody⟩

theorem exists_of_readClass {tree : Tree} {decl : ClassDecl} {primary : Nat} {unit : SourceUnit}
    (hrun : (readClass tree decl primary).runFrom c s = (.ok unit, s')) (hm : m ∈ decl.methods) :
    ∃ actions, IsBodyOf m unit.methods unit.tests actions ∧ ReadAs m.body actions := by
  obtain ⟨_, _, -, hrun⟩ := exists_of_runFrom_bind hrun
  obtain ⟨_, _, -, hrun⟩ := exists_of_runFrom_bind hrun
  obtain ⟨_, _, hmethods, hrun⟩ := exists_of_runFrom_bind hrun
  obtain ⟨_, _, hprov, hrun⟩ := exists_of_runFrom_bind hrun
  cases hprov
  cases hrun
  have hordered : m ∈ decl.methods.filter comesFirst ++ decl.methods.filter (!comesFirst ·) := by
    cases hfirst : comesFirst m <;> simp [hm]
  obtain ⟨actions, hbody, hread⟩ := exists_of_readMethods hmethods hordered
  refine ⟨actions, ?_, hread⟩
  simpa [IsBodyOf, inSourceOrder] using hbody

end Methods

/-- **Every statement of a class is read at its place**, however deep, unless one around it is
passed on as text or takes it away as the else side of a guard. -/
theorem nested_statements_converted {tree : Tree} {decl : ClassDecl} {unit : SourceUnit}
    (hdecl : tree.primaryClass? = some decl) (h : extract tree = .ok unit) {m : MethodDecl}
    (hm : m ∈ decl.methods) :
    ∃ actions c i s, IsBodyOf m unit.methods unit.tests actions ∧ ∀ way k st,
      statementAt? way k m.body = some st → Appears c st way k i s m.body actions := by
  unfold extract at h
  split at h
  · rename_i primary decl' hprimary hdecl'
    cases hdecl.symm.trans hdecl'
    dsimp only at h
    split at h
    · rename_i s' hrun
      cases h
      obtain ⟨actions, hbody, c, i, s₁, _, hblock⟩ := exists_of_readClass (s := {}) hrun hm
      exact ⟨actions, c, i, s₁, hbody, fun way k st hst => appears_of_block way hblock hst⟩
    · cases h
    · cases h
  · cases h

section Lines

variable (n : Nat)

def nameAt (name : String) : Expr := .name name name ⟨n, n, 1⟩

def textAt (value : String) : Expr := .literal .string (.text value) value ⟨n, n, 1⟩

def callAt (target : Expr) (method : String) (args : List Expr) : Expr :=
  .call (some target) method args (target.text ++ "." ++ method ++ "()") ⟨n, n, 1⟩

def exprAt (value : Expr) : Stmt := .expr value (value.text ++ ";") ⟨n, n, 1⟩

def openAt (url : String) : Stmt := exprAt n (callAt n (nameAt n "driver") "get" [textAt n url])

end Lines

/-- A class with one test, whose statements are given. -/
def flowTree (body : List Stmt) : Tree := testTree [testMethod "flow" body ⟨5, 20, 1⟩]

/-- A test that opens further pages, depending on the title and on whether it can be read. -/
def nestedOpening : List Stmt :=
  [openAt 6 "a", .try
    [.ite (callAt 8 (callAt 8 (nameAt 8 "driver") "getTitle" []) "equals" [textAt 8 "x"])
      [openAt 9 "b"] [openAt 11 "c"] "" ⟨8, 12, 1⟩]
    [.mk ["TimeoutException"] "e" [openAt 14 "d"] ⟨13, 15, 1⟩] (some [openAt 16 "e"]) "" ⟨7, 17, 1⟩]

theorem exists_ok_of_isSome {ε α : Type} {x : Except ε α} (h : x.toOption.isSome = true) :
    ∃ a, x = .ok a := by
  cases x with
  | error e => cases h
  | ok a => exact ⟨a, rfl⟩

theorem nested_statements_converted_nestedOpening :
    ∃ actions c i s, Appears c (openAt 11 "c")
      [(1, .tried), (0, .elseSide)] 0 i s nestedOpening actions := by
  obtain ⟨unit, hunit⟩ : ∃ unit, extract (flowTree nestedOpening) = .ok unit :=
    exists_ok_of_isSome (by decide +kernel)
  obtain ⟨actions, c, i, s, -, hplaces⟩ := nested_statements_converted rfl hunit List.mem_cons_self
  exact ⟨actions, c, i, s, hplaces _ _ _ rfl⟩

/-- A test that opens one of two pages, depending on whether there is a browser. -/
def guardedOpening : List Stmt :=
  [.ite (.binary "!=" (nameAt 7 "driver") (.literal .null .absent "null" ⟨7, 7, 1⟩) "" ⟨7, 7, 1⟩)
    [openAt 8 "a"] [openAt 10 "b"] "" ⟨7, 11, 1⟩]

/-- Of such a test only the first page is left, and nothing is reported. -/
theorem else_side_of_guard_dropped : ((extract (flowTree guardedOpening)).toOption.map fun unit =>
      unit.tests.map fun t => t.actions.map Action.provenance) = some [[⟨"p/Flow.java", 8, 8⟩]] ∧
    statementAt? [(0, .elseSide)] 0 guardedOpening = some (openAt 10 "b") ∧
    ((extract (flowTree guardedOpening)).toOption.map fun unit => unit.diagnostics.length) =
      some 0 :=
  ⟨by decide +kernel, rfl, by decide +kernel⟩

end TestMigration.Extraction
