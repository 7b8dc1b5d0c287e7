import TestMigration.Proofs.Rendering.VariableScopes
/-!
# Names that clash in spliced methods

Splicing a method puts its lines into the body that calls it. The texts of the arguments are written
for the parameters, and the variables of the method keep their names. So a variable of the method
may have the name of one of the caller that an argument mentions, and the argument then means
another variable. Where spliced lines get no block of their own, such a variable even overwrites
that of the caller.

No name is ever changed to avoid that. A body is hygienic exactly if none of the variables declared
inside of spliced methods clashes with what was passed to a method around it, or, where there are no
blocks, with what the bodies around it declare; and each of these variables is a parameter or a
local variable of a method that some call leads to (`hygienic_iff_openings_safe`).
-/

namespace TestMigration.Rendering

open TestMigration.Action Text Profile

/-! ### Free names -/

/-- The characters of a text that stand outside of quotes. -/
def unquotedFrom : OperandScan → List Char → List Char
  | _, [] => []
  | scan, c :: rest =>
    if scan.quote.isSome then unquotedFrom (scan.step c) rest
    else c :: unquotedFrom (scan.step c) rest

/-- Whether a name occurs free in an expression: as a word, outside of quotes and not behind a
dot. -/
def occursFree (name text : String) : Bool :=
  mentions name.toList none (unquotedFrom {} text.toList)

example : occursFree "x" "page.locator(x)" = true ∧ occursFree "x" "'x' + y.x" = false := by
  decide +kernel

/-! ### The lines of spliced methods -/

mutual

/-- The lines of a piece that give variables a value, each with the number of bodies around it. -/
def Piece.linesAt (depth : Nat) : Piece → List (Nat × VariableLine)
  | .rest .. => []
  | .variable v => [(depth, v)]
  | .block _ pieces => linesAt depth pieces
  | .body _ pieces => linesAt (depth + 1) pieces

/-- The lines that give a variable a value, with their depths. -/
def linesAt (depth : Nat) : List Piece → List (Nat × VariableLine)
  | [] => []
  | piece :: rest => piece.linesAt depth ++ linesAt depth rest

end

def declaredNames (lines : List (Nat × VariableLine)) : List String :=
  (lines.filter (·.2.form ≠ .assign)).map (·.2.target)

/-- The names that a body declares itself, without the bodies inside of it. -/
def ownNames (pieces : List Piece) : List String :=
  declaredNames ((linesAt 0 pieces).filter (·.1 = 0))

/-- A spliced method: what was passed to it, the names it declares, and those of the body that calls
it. -/
structure Splice where
  passed : List String
  declared : List String
  caller : List String
  deriving DecidableEq, Repr

mutual

/-- The spliced methods of a piece, also inside of others, where `caller` are the names of the body
around it. -/
def Piece.splices (caller : List String) : Piece → List Splice
  | .rest .. | .variable _ => []
  | .block _ pieces => splicesIn caller pieces
  | .body passed pieces =>
    ⟨passed, declaredNames (linesAt 0 pieces), caller⟩ :: splicesIn (ownNames pieces) pieces

def splicesIn (caller : List String) : List Piece → List Splice
  | [] => []
  | piece :: rest => piece.splices caller ++ splicesIn caller rest

end

/-- A name clashes neither with texts that are passed on nor, where there are no blocks, with names
around it. -/
def Safe (flat : Bool) (passed around : List String) (name : String) : Prop :=
  (∀ text ∈ passed, occursFree name text = false) ∧ (flat = true → name ∉ around)

variable {flat : Bool} {pieces : List Piece}

instance (flat : Bool) (passed around : List String) (name : String) :
    Decidable (Safe flat passed around name) := inferInstanceAs (Decidable (_ ∧ _))

/-- No name that a spliced method declares occurs free in what was passed to it; and where there are
no blocks, none is declared by its caller. -/
def Hygienic (flat : Bool) (pieces : List Piece) : Prop :=
  ∀ c ∈ splicesIn (ownNames pieces) pieces, ∀ name ∈ c.declared, Safe flat c.passed c.caller name

instance (flat : Bool) (pieces : List Piece) : Decidable (Hygienic flat pieces) :=
  inferInstanceAs (Decidable (∀ c ∈ splicesIn (ownNames pieces) pieces, ∀ name ∈ c.declared, _))

/-! ### The variables that are declared -/

/-- A declared variable of the source, with all texts passed to the methods around it, and all names
of the bodies around these. -/
structure Opening where
  name : String
  passed : List String
  around : List String
  deriving DecidableEq, Repr

mutual

/-- The variables that a piece declares. -/
def Piece.openings (passed around caller : List String) : Piece → List Opening
  | .rest .. => []
  | .variable v => if v.form = .assign then [] else [⟨v.name, passed, around⟩]
  | .block _ pieces => openingsIn passed around caller pieces
  | .body texts pieces => openingsIn (passed ++ texts) (around ++ caller) (ownNames pieces) pieces

/-- The declarations of spliced bodies, with what is around them. -/
def openingsIn (passed around caller : List String) : List Piece → List Opening
  | [] => []
  | piece :: rest => piece.openings passed around caller ++ openingsIn passed around caller rest

end

theorem safe_append {passed texts around caller : List String} {name : String} :
    Safe flat (passed ++ texts) (around ++ caller) name ↔
      Safe flat passed around name ∧ Safe flat texts caller name := by
  simp only [Safe, List.mem_append, or_imp, forall_and, not_or]
  exact and_and_and_comm

theorem safe_nil (flat : Bool) (name : String) : Safe flat [] [] name := by simp [Safe]

theorem declaredNames_append (lines more : List (Nat × VariableLine)) :
    declaredNames (lines ++ more) = declaredNames lines ++ declaredNames more := by
  simp [declaredNames]

mutual

/-- How deep a line is depends on where it is counted from, but not which line it is. -/
theorem Piece.map_linesAt (depth : Nat) (piece : Piece) :
    (piece.linesAt depth).map Prod.snd = (piece.linesAt 0).map Prod.snd := by
  match piece with
  | .rest .. | .variable _ => simp [Piece.linesAt]
  | .block _ pieces => simpa [Piece.linesAt] using Rendering.map_linesAt depth pieces
  | .body _ pieces =>
    simpa [Piece.linesAt] using
      (Rendering.map_linesAt (depth + 1) pieces).trans (Rendering.map_linesAt 1 pieces).symm

theorem map_linesAt (depth : Nat) (pieces : List Piece) :
    (linesAt depth pieces).map Prod.snd = (linesAt 0 pieces).map Prod.snd := by
  match pieces with
  | [] => simp [linesAt]
  | piece :: rest =>
    simp only [linesAt, List.map_append]
    rw [piece.map_linesAt depth, map_linesAt depth rest]

end

theorem declaredNames_linesAt (depth : Nat) (pieces : List Piece) :
    declaredNames (linesAt depth pieces) = declaredNames (linesAt 0 pieces) := by
  have hsplit : ∀ lines : List (Nat × VariableLine), declaredNames lines =
      ((lines.map Prod.snd).filter (·.form ≠ .assign)).map (·.target) := by
    intro lines
    simp [declaredNames, List.filter_map, Function.comp_def]
  rw [hsplit, hsplit, map_linesAt]

def Named (env : Env) (lines : List (Nat × VariableLine)) : Prop :=
  ∀ x ∈ lines, x.2.target = env.profile.naming.ident x.2.name

theorem named_linesAt_zero {env : Env} {depth : Nat}
    (h : Named env (linesAt depth pieces)) : Named env (linesAt 0 pieces) := by
  intro x hx
  have hline : x.2 ∈ (linesAt depth pieces).map Prod.snd := by
    rw [map_linesAt]
    exact List.mem_map_of_mem hx
  obtain ⟨y, hy, hsame⟩ := List.mem_map.mp hline
  rw [← hsame]
  exact h y hy

mutual

/-- The declarations of a piece are safe if they are safe from what is around it and its spliced
methods are hygienic. -/
theorem Piece.openings_safe_iff {env : Env} (piece : Piece)
    (h : Named env (piece.linesAt 0)) (passed around caller : List String) :
    (∀ o ∈ piece.openings passed around caller,
        Safe flat o.passed o.around (env.profile.naming.ident o.name)) ↔
      (∀ name ∈ declaredNames (piece.linesAt 0), Safe flat passed around name) ∧
        ∀ c ∈ piece.splices caller, ∀ name ∈ c.declared, Safe flat c.passed c.caller name := by
  match piece with
  | .rest .. => simp [Piece.openings, Piece.linesAt, Piece.splices, declaredNames]
  | .variable v =>
    have htarget : v.target = env.profile.naming.ident v.name := h (0, v) (by simp [Piece.linesAt])
    by_cases hform : v.form = .assign
    · simp [Piece.openings, Piece.linesAt, Piece.splices, declaredNames, hform]
    · simp [Piece.openings, Piece.linesAt, Piece.splices, declaredNames, hform, htarget]
  | .block _ pieces =>
    rw [Piece.openings, Piece.linesAt, Piece.splices]
    exact Rendering.openings_safe_iff pieces (by rwa [Piece.linesAt] at h) passed around caller
  | .body _ pieces =>
    rw [Piece.linesAt] at h
    rw [Piece.openings, Piece.linesAt, Piece.splices, declaredNames_linesAt (0 + 1),
      Rendering.openings_safe_iff pieces (named_linesAt_zero h), List.forall_mem_cons, ← and_assoc]
    -- Inside of the method, its own texts and the names of its caller are added to what is around.
    refine and_congr_left fun _ => ?_
    simp only [safe_append]
    exact forall₂_and

theorem openings_safe_iff {env : Env} (pieces : List Piece)
    (h : Named env (linesAt 0 pieces)) (passed around caller : List String) :
    (∀ o ∈ openingsIn passed around caller pieces,
        Safe flat o.passed o.around (env.profile.naming.ident o.name)) ↔
      (∀ name ∈ declaredNames (linesAt 0 pieces), Safe flat passed around name) ∧
        ∀ c ∈ splicesIn caller pieces, ∀ name ∈ c.declared, Safe flat c.passed c.caller name := by
  match pieces with
  | [] => simp [openingsIn, linesAt, splicesIn, declaredNames]
  | piece :: rest =>
    rw [linesAt] at h
    obtain ⟨hpiece, hrest⟩ := List.forall_mem_append.mp h
    rw [openingsIn, linesAt, splicesIn, declaredNames_append]
    simp only [List.forall_mem_append]
    rw [piece.openings_safe_iff hpiece, openings_safe_iff rest hrest]
    tauto

end

theorem hygienic_iff_safe {env : Env} (h : Named env (linesAt 0 pieces)) :
    Hygienic flat pieces ↔ ∀ o ∈ openingsIn [] [] (ownNames pieces) pieces,
      Safe flat o.passed o.around (env.profile.naming.ident o.name) := by
  rw [openings_safe_iff pieces h]
  exact (and_iff_right fun name _ => safe_nil flat name).symm

/-! ### Where the variables come from -/

def localNames (m : Method) : List String := m.params.map (·.name) ++ (all m.actions).map boundName

/-- A parameter or local variable of a called method. -/
def Local (env : Env) (name : String) : Prop :=
  ∃ (c : Call) (key : MethodKey) (m : Method), env.model.resolve? c = some key ∧
    env.model.method key = .ok m ∧ name ∈ localNames m

/-- The lines outside of spliced methods are those of certain variables, and those inside belong to
the methods. -/
def Stems (env : Env) (own : String → Prop) (pieces : List Piece) : Prop :=
  ∀ depth, Named env (linesAt depth pieces) ∧ ∀ x ∈ linesAt depth pieces,
    x.1 = depth ∧ own x.2.name ∨ depth < x.1 ∧ Local env x.2.name

section Stems

variable {env : Env} {own own' : String → Prop} {first second : List Piece}
variable {a a' : Arrival} {method : String} {s s' : State}

theorem linesAt_append (depth : Nat) (pieces more : List Piece) :
    linesAt depth (pieces ++ more) = linesAt depth pieces ++ linesAt depth more := by
  induction pieces with
  | nil => simp [linesAt]
  | cons _ _ ih => rw [List.cons_append, linesAt, linesAt, ih, List.append_assoc]

theorem stems_nil (own : String → Prop) : Stems env own [] := by
  intro _
  simp [Named, linesAt]

theorem Stems.append (h : Stems env own first) (h' : Stems env own second) :
    Stems env own (first ++ second) := by
  intro depth
  rw [linesAt_append]
  exact ⟨List.forall_mem_append.mpr ⟨(h depth).1, (h' depth).1⟩,
    List.forall_mem_append.mpr ⟨(h depth).2, (h' depth).2⟩⟩

theorem Stems.local_of_lt {depth : Nat} {x : Nat × VariableLine} (h : Stems env own pieces)
    (hx : x ∈ linesAt depth pieces) (hdeep : depth < x.1) : Local env x.2.name := by
  rcases (h depth).2 x hx with ⟨_, -⟩ | ⟨-, hlocal⟩
  · omega
  · exact hlocal

theorem stems_block (opening : String) (h : Stems env own first) :
    Stems env own [.block opening first] := by
  intro depth
  simp only [linesAt, List.append_nil]
  exact h depth

/-- The lines of a called method are its own, wherever it is spliced. -/
theorem stems_body (passed : List String) (h : Stems env (Local env) first) :
    Stems env own [.body passed first] := by
  intro depth
  simp only [linesAt, List.append_nil]
  refine ⟨(h (depth + 1)).1, fun x hx => .inr ?_⟩
  rcases (h (depth + 1)).2 x hx with ⟨hdepth, hlocal⟩ | ⟨hdepth, hlocal⟩ <;>
    exact ⟨by omega, hlocal⟩

theorem stems_variable {v : VariableLine} (htarget : v.target = env.profile.naming.ident v.name)
    (hown : own v.name) : Stems env own [.variable v] := by
  intro _
  simp only [Named, linesAt, Piece.linesAt, List.append_nil, List.forall_mem_singleton]
  exact ⟨htarget, .inl ⟨trivial, hown⟩⟩

theorem stems_givenLines {given : List (String × String)} (h : ∀ b ∈ given, own b.1) :
    Stems env own (givenLines env given) := by
  induction given with
  | nil => exact stems_nil own
  | cons b _ ih =>
    obtain ⟨hfirst, hrest⟩ := List.forall_mem_cons.mp h
    exact (stems_variable rfl hfirst).append (ih hrest)

theorem stems_step {a : Action} {f : Frame} (h : own a.boundName) :
    Stems env own (outlineStep env f a).1 := by
  unfold outlineStep
  cases hline : variableLine? env f a with
  | none => exact stems_nil own
  | some v =>
    obtain ⟨_, rfl⟩ := eq_boundLine_of_variableLine? hline
    exact stems_variable rfl h

theorem stems_fork {opening turn : String} {both : Bool} {o o' : List Piece × Frame}
    (h : Stems env own o.1) (h' : Stems env own o'.1) :
    Stems env own (outlineFork opening turn both o o').1 := by
  cases both with
  | true => exact (stems_block opening h).append (stems_block turn h')
  | false => exact stems_block opening h

variable {planned : Planning}

mutual

/-- **The lines of an action are those of the variables it binds.** -/
theorem stems_action
    (hplanned : ∀ f d pieces, planned f d = some pieces → ∀ own, Stems env own pieces)
    (a : Action) : ∀ (f : Frame) {own : String → Prop}, (∀ b ∈ a.nested, own b.boundName) →
      Stems env own (outlineAction env planned f a).1 := by
  cases a with
  | delegate d =>
    intro f own hown
    rw [outlineAction]
    by_cases hinline : env.strategy = .inline
    · rw [if_pos hinline]
      cases hpieces : planned f d with
      | some pieces => exact hplanned f d pieces hpieces own
      | none => exact stems_nil own
    · rw [if_neg hinline]
      exact stems_step (hown _ (by simp [nested]))
  | branch _ thenBody elseBody p =>
    intro f own hown
    rw [outlineAction]
    split
    · exact stems_nil own
    · exact stems_fork (stems_outline hplanned thenBody f fun b hb => hown b (by simp [nested, hb]))
        (stems_outline hplanned elseBody _ fun b hb => hown b (by simp [nested, hb]))
  | probe body fallback p =>
    intro f own hown
    rw [outlineAction]
    split
    · exact stems_step (hown _ (by simp [nested]))
    · exact stems_fork (stems_outline hplanned body f fun b hb => hown b (by simp [nested, hb]))
        (stems_outline hplanned fallback _ fun b hb => hown b (by simp [nested, hb]))
  | _ =>
    intro f own hown
    rw [outlineAction]
    exact stems_step (hown _ (by simp [nested]))

/-- **The lines of actions are those of the variables they bind.** -/
theorem stems_outline
    (hplanned : ∀ f d pieces, planned f d = some pieces → ∀ own, Stems env own pieces)
    (actions : List Action) :
    ∀ (f : Frame) {own : String → Prop}, (∀ b ∈ all actions, own b.boundName) →
      Stems env own (outline env planned f actions).1 := by
  match actions with
  | [] =>
    intro f own _
    rw [outline]
    exact stems_nil own
  | a :: rest =>
    intro f own hown
    rw [all] at hown
    obtain ⟨hfirst, hrest⟩ := List.forall_mem_append.mp hown
    rw [outline]
    exact (stems_action hplanned a f hfirst).append (stems_outline hplanned rest _ hrest)

end

/-- A variable for what is passed to a method is that of a parameter. -/
theorem bindings_passArgument {param : Param} {arg : Value}
    (hrun : (passArgument method param arg a).run env s = (.ok a', s')) :
    ∀ b ∈ a'.bindings, b ∈ a.bindings ∨ b.1 = param.name := by
  cases arg with
  | elementQuery | pageQuery | not | binary | contains | call | script | construct | verbatim =>
    obtain ⟨text, s₁, -, hreturn⟩ := exists_of_run_bind hrun
    cases hreturn
    intro b hb
    rcases List.mem_append.mp hb with hb | hb
    · exact .inl hb
    · exact .inr (congrArg Prod.fst (List.mem_singleton.mp hb))
  | _ =>
    obtain ⟨text, s₁, -, hreturn⟩ := exists_of_run_bind hrun
    cases hreturn
    exact fun b hb => .inl hb

theorem bindings_passArguments {pairs : List (Param × Value)}
    (hrun : (passArguments method pairs a).run env s = (.ok a', s')) :
    ∀ b ∈ a'.bindings, b ∈ a.bindings ∨ b.1 ∈ pairs.map (·.1.name) := by
  induction pairs generalizing a s with
  | nil =>
    cases hrun
    exact fun b hb => .inl hb
  | cons _ _ ih =>
    obtain ⟨_, _, hfirst, hrest⟩ := exists_of_run_bind hrun
    intro b hb
    rcases ih hrest b hb with hb | hb
    · rcases bindings_passArgument hfirst b hb with hb | hb
      · exact .inl hb
      · exact .inr (by simp [hb])
    · exact .inr (List.mem_cons_of_mem _ hb)

/-- **The lines of a spliced method are those of its parameters and local variables**, and of
methods spliced into it. -/
theorem stems_splicedOutline (n : Nat) (f : Frame) (d : Delegation) (pieces : List Piece)
    (h : splicedOutline env n f d = some pieces) (own : String → Prop) : Stems env own pieces := by
  induction n generalizing f d pieces own with
  | zero => cases h
  | succ n ih =>
    obtain ⟨key, hkey, h⟩ := Option.bind_eq_some_iff.mp h
    obtain ⟨⟨callee, m⟩, hmethod, h⟩ := Option.bind_eq_some_iff.mp h
    obtain ⟨a, hpass, h⟩ := Option.bind_eq_some_iff.mp h
    cases h
    have hmethod : env.model.method key = .ok m := by
      simp only [splicedMethod?, hkey] at hmethod
      split at hmethod
      · rename_i hfound
        cases hmethod
        exact hfound
      · cases hmethod
    have hlocal : ∀ name ∈ localNames m, Local env name := fun name hname =>
      ⟨d.call, key, m, hkey, hmethod, hname⟩
    have hgiven : Stems env (Local env) (givenLines env a.bindings) := by
      -- What an argument is bound to is a parameter, since arguments are passed in pairs with them.
      refine stems_givenLines fun b hb => hlocal _ (List.mem_append_left _ ?_)
      rcases hrun : (passArguments m.name (m.params.zip d.call.args) {}).run env { frame := f } with
        ⟨stop | a', s'⟩
      · simp [evalIn, hrun, Except.toOption] at hpass
      · obtain rfl : a' = a := by simpa [evalIn, hrun, Except.toOption] using hpass
        rcases bindings_passArguments hrun b hb with hb | hb
        · cases hb
        · obtain ⟨_, hpair, hname⟩ := List.mem_map.mp hb
          exact hname ▸ List.mem_map_of_mem (List.of_mem_zip hpair).1
    have hlines := hgiven.append (stems_outline ih m.actions (spliceFrame f callee key m a)
      fun b hb => hlocal _ (List.mem_append_right _ (List.mem_map_of_mem hb)))
    refine stems_body _ ?_
    split
    · exact hlines
    · exact stems_block _ hlines

end Stems

/-- What spliced methods of a body declare belongs to the methods. -/
theorem stems_renderedOutline (env : Env) (f : Frame) (actions : List Action) :
    Stems env (fun _ => True) (renderedOutline env f actions).1 :=
  (stems_givenLines fun _ _ => trivial).append
    (stems_outline (stems_splicedOutline _) actions _ fun _ _ => trivial)

/-- The bodies of a hook name their variables likewise, one level deeper. -/
theorem stems_hookOutline (env : Env) (label : String) (declared : List String)
    (methods : List (SourceUnit × Method)) :
    Named env (linesAt 0 (hookOutline env label declared methods)) ∧
      ∀ x ∈ linesAt 0 (hookOutline env label declared methods), 1 < x.1 → Local env x.2.name := by
  induction methods generalizing declared with
  | nil => simp [Named, hookOutline, linesAt]
  | cons entry _ ih =>
    rw [hookOutline, linesAt, Piece.linesAt]
    have hfirst := stems_renderedOutline env
      { unit := entry.1, mode := .test, page := env.profile.pageRef
        body := label ++ ":" ++ entry.1.simpleName ++ "." ++ entry.2.name,
          declared } entry.2.actions
    obtain ⟨hnamed, hlocal⟩ := ih _
    exact ⟨List.forall_mem_append.mpr ⟨(hfirst 1).1, hnamed⟩,
      List.forall_mem_append.mpr ⟨fun x hx => hfirst.local_of_lt hx, hlocal⟩⟩

/-! ### The main result -/

/-- **A body is hygienic exactly if its declared variables clash with nothing that was passed to the
methods around them**, or, where there are no blocks, with nothing that is declared around these.
Those inside of spliced methods are parameters and local variables of the methods. The bodies of a
hook are one level deeper, each being the body of a method. -/
theorem hygienic_iff_openings_safe (env : Env) :
    (∀ {actions : List Action} {f : Frame} {declared : List String} {s s' : State},
      (renderBody actions f).run env s = (.ok declared, s') →
        let pieces := (renderedOutline env f actions).1
        Drawn env.profile.phrases pieces s.code s'.code ∧
          (Hygienic env.profile.phrases.inlineOpen.isEmpty pieces ↔
            ∀ o ∈ openingsIn [] [] (ownNames pieces) pieces,
              Safe env.profile.phrases.inlineOpen.isEmpty o.passed o.around
                (env.profile.naming.ident o.name)) ∧
          ∀ x ∈ linesAt 0 pieces, 0 < x.1 → Local env x.2.name) ∧
      ∀ {label : String} {methods : List (SourceUnit × Method)} {s s' : State},
        (hookBodies label [] methods).run env s = (.ok (), s') →
          let pieces := hookOutline env label [] methods
          Drawn env.profile.phrases pieces s.code s'.code ∧
            (Hygienic env.profile.phrases.inlineOpen.isEmpty pieces ↔
              ∀ o ∈ openingsIn [] [] (ownNames pieces) pieces,
                Safe env.profile.phrases.inlineOpen.isEmpty o.passed o.around
                  (env.profile.naming.ident o.name)) ∧
            ∀ x ∈ linesAt 0 pieces, 1 < x.1 → Local env x.2.name := by
  refine ⟨fun {actions f declared s s'} hrun => ?_, fun {label methods s s'} hrun => ?_⟩
  · have hstems := stems_renderedOutline env f actions
    exact ⟨(draws_renderBody hrun).2.drawn, hygienic_iff_safe (hstems 0).1,
      fun x hx => hstems.local_of_lt hx⟩
  · obtain ⟨hnamed, hlocal⟩ := stems_hookOutline env label [] methods
    exact ⟨(draws_hookBodies label hrun).drawn, hygienic_iff_safe hnamed, hlocal⟩

/-- A body with a variable `x` that passes something to a helper. -/
def visiting (passed : Value) : List Action :=
  [givingX "a" true,
    .delegate { call := .mk "c1" "VisitTest" "visit" [passed] .self "" "visit(x)"
                provenance := ⟨"Visit.java", 9, 9⟩ }]

def visitUnit (localName : String) (passed : Value) : SourceUnit :=
  { bareUnit "Visit.java" "VisitTest" .testClass with methods := [
    { name := "visit", params := [{ name := "target", typeName := "String" }], returnType := "void"
      role := .helper, provenance := ⟨"Visit.java", 2, 5⟩
      actions := [
        .bind { name := localName, value := textValue "b", provenance := ⟨"Visit.java", 3, 3⟩ },
        .navigate (.variable "target") ⟨"Visit.java", 4, 4⟩] },
    { name := "setUp", params := [], returnType := "void", role := .setup
      actions := visiting passed, provenance := ⟨"Visit.java", 7, 10⟩ }] }

def visitEnv (profile : Profile) (localName : String) (passed : Value) : Env where
  model := Linking.linkedModel [visitUnit localName passed] []
  profile
  strategy := .inline
  unit := visitUnit localName passed

def visitState (localName : String) (passed : Value) : State where
  frame := { unit := visitUnit localName passed, mode := .test, page := "page", body := "setup" }

abbrev visitRun (profile : Profile) (localName : String) (passed : Value) :=
  (renderBody (visiting passed) (visitState localName passed).frame).run
    (visitEnv profile localName passed) (visitState localName passed)

def visitSetup (localName : String) (passed : Value) : List (SourceUnit × Method) :=
  ((visitUnit localName passed).methods.filter (·.role = .setup)).map (visitUnit localName passed,
    ·)

/-- A helper whose variable is not named as that of the caller. -/
theorem hygienic_iff_openings_safe_otherName :
    let env := visitEnv playwrightTs "y" (.variable "x")
    let start := visitState "y" (.variable "x")
    let lines := ["const x = 'a';", "// inlined VisitTest.visit", "\x7b", "  const y = 'b';",
      "  await page.goto(x);", "\x7d"]
    (∃ declared s', (renderBody (visiting (.variable "x")) start.frame).run env start =
          (.ok declared, s') ∧
        s'.code.lines = lines ∧
        Hygienic false (renderedOutline env start.frame (visiting (.variable "x"))).1) ∧
      ∃ s', (hookBodies "setup" [] (visitSetup "y" (.variable "x"))).run env start = (.ok (), s') ∧
        s'.code.lines = lines ∧
        Hygienic false (hookOutline env "setup" [] (visitSetup "y" (.variable "x"))) := by
  have hbody : visitRun playwrightTs "y" (.variable "x") = (.ok ["x"], _) :=
    run_eq_of_toOption (by decide +kernel)
  have hhook : (hookBodies "setup" [] (visitSetup "y" (.variable "x"))).run
      (visitEnv playwrightTs "y" (.variable "x")) (visitState "y" (.variable "x")) = (.ok (), _) :=
    run_eq_of_toOption (by decide +kernel)
  obtain ⟨-, hclean, -⟩ := (hygienic_iff_openings_safe _).1 hbody
  obtain ⟨-, hclean', -⟩ := (hygienic_iff_openings_safe _).2 hhook
  exact ⟨⟨_, _, hbody, by decide +kernel, hclean.mpr (by decide +kernel)⟩,
    _, hhook, by decide +kernel, hclean'.mpr (by decide +kernel)⟩

/-- **A variable of a spliced helper can catch what the caller passes, and overwrite what it has.**
In the first body the helper goes to its own `x` and not to that of the caller; in the second,
without blocks, the `x` of the caller has another value behind the call. -/
theorem not_hygienic_sameName : (∃ declared s',
        (renderBody (visiting (.variable "x")) (visitState "x" (.variable "x")).frame).run
          (visitEnv playwrightTs "x" (.variable "x")) (visitState "x" (.variable "x")) =
            (.ok declared, s') ∧
        s'.code.lines = ["const x = 'a';", "// inlined VisitTest.visit", "\x7b", "  const x = 'b';",
          "  await page.goto(x);", "\x7d"] ∧
        ¬Hygienic false (renderedOutline (visitEnv playwrightTs "x" (.variable "x"))
          (visitState "x" (.variable "x")).frame (visiting (.variable "x"))).1) ∧
      ∃ declared s',
        (renderBody (visiting (textValue "c")) (visitState "x" (textValue "c")).frame).run
          (visitEnv playwrightPython "x" (textValue "c")) (visitState "x" (textValue "c")) =
            (.ok declared, s') ∧
        s'.code.lines =
          ["x = \"a\"", "# inlined VisitTest.visit", "x = \"b\"", "page.goto(\"c\")"] ∧
        ¬Hygienic true (renderedOutline (visitEnv playwrightPython "x" (textValue "c"))
          (visitState "x" (textValue "c")).frame (visiting (textValue "c"))).1 := by
  have hcaught : visitRun playwrightTs "x" (.variable "x") = (.ok ["x"], _) :=
    run_eq_of_toOption (by decide +kernel)
  have hoverwritten : visitRun playwrightPython "x" (textValue "c") = (.ok ["x"], _) :=
    run_eq_of_toOption (by decide +kernel)
  exact ⟨⟨_, _, hcaught, by decide +kernel, by decide +kernel⟩,
    _, _, hoverwritten, by decide +kernel, by decide +kernel⟩

end TestMigration.Rendering
