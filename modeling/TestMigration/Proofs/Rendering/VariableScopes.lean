import TestMigration.Proofs.Rendering.ClearedFields
import TestMigration.Proofs.Rendering.DrawnBodies
/-!
# Variables in their scopes

Whether a variable is declared or assigned is decided by two sets that rendering keeps for a body:
the variables declared so far, and those that get more than one value. Neither knows about blocks.
So two sides of a fork that both declare a variable are written with a declaration on the first side
and an assignment, out of its sight, on the second. And the bodies of a hook share the first set but
not the second, so a variable may be declared for good by one body and assigned by the next.

Which variables get more than one value is found out correctly for each body (`settled_outline`). So
the variables of a body are well scoped exactly if each assignment sees a declaration of its
variable, and no other body has declared the name for good (`wellScoped_iff_inSight`).
-/

namespace TestMigration.Rendering

open TestMigration.Action Text Profile

/-! ### What an assignment sees -/

/-- A declaration, as it is seen from some place behind it. -/
structure Declared where
  target : String
  /-- Whether the variable may be assigned. -/
  isMutable : Bool
  /-- The variable of the source, for a declaration of the body that sees it; otherwise empty. -/
  owner : String
  deriving DecidableEq, Repr

/-- The same declaration as it is seen from another body. -/
def Declared.foreign (e : Declared) : Declared := { e with owner := "" }

/-- An assignment, with the declarations before it in its own and in the enclosing blocks, innermost
first. -/
structure Assignment where
  name : String
  target : String
  sight : List (List Declared)
  deriving DecidableEq, Repr

/-- The declarations that a name refers to: those of the innermost block with any. -/
def reached (target : String) : List (List Declared) → List Declared
  | [] => []
  | block :: outer =>
    if block.any (·.target = target) then block.filter (·.target = target) else reached target outer

def VariableLine.declared? (v : VariableLine) : Option Declared :=
  if v.form = .assign then none
  else some ⟨v.target, v.form = .declareMutable, if v.own then v.name else ""⟩

mutual

/-- The assignments of a piece, and the declarations it adds to its block, given those in this block
and around it. -/
def Piece.visit (here : List Declared) (around : List (List Declared)) :
    Piece → List Assignment × List Declared
  | .rest .. => ([], [])
  | .variable v =>
    if v.form = .assign then ([⟨v.name, v.target, here :: around⟩], [])
    else ([], v.declared?.toList)
  | .block _ pieces => ((visitAll [] (here :: around) pieces).1, [])
  | .body _ pieces =>
    let inside :=
  visitAll (here.map Declared.foreign) (around.map (List.map Declared.foreign)) pieces
    (inside.1, inside.2.map Declared.foreign)

def visitAll (here : List Declared) (around : List (List Declared)) :
    List Piece → List Assignment × List Declared
  | [] => ([], [])
  | piece :: rest =>
    let first := piece.visit here around
    let others := visitAll (here ++ first.2) around rest
    (first.1 ++ others.1, first.2 ++ others.2)

end

/-- Every assignment is made to a parameter, or behind a declaration in its own or an enclosing
block that lets the variable be assigned; and none refers to a variable that was declared for
good. -/
def WellScoped (params : List String) (pieces : List Piece) : Prop :=
  ∀ a ∈ (visitAll [] [] pieces).1,
    ((∃ e ∈ a.sight.flatten, e.target = a.target ∧ e.isMutable = true) ∨ a.target ∈ params) ∧
      ∀ e ∈ reached a.target a.sight, e.isMutable = true

variable {target : String} {sight : List (List Declared)} {e : Declared}

variable {actions : List Action}

instance (params : List String) (pieces : List Piece) : Decidable (WellScoped params pieces) :=
  inferInstanceAs (Decidable (∀ a ∈ (visitAll [] [] pieces).1, _ ∧ _))

/-- Every assignment is made to a parameter or sees a declaration; and what it refers to was
declared by the same body for the same variable, or may be assigned anyway. -/
def InSight (params : List String) (pieces : List Piece) : Prop :=
  ∀ a ∈ (visitAll [] [] pieces).1,
    (reached a.target a.sight ≠ [] ∨ a.target ∈ params) ∧
      ∀ e ∈ reached a.target a.sight, e.isMutable = true ∨ a.name ≠ "" ∧ e.owner = a.name

instance (params : List String) (pieces : List Piece) : Decidable (InSight params pieces) :=
  inferInstanceAs (Decidable (∀ a ∈ (visitAll [] [] pieces).1, _ ∧ _))

theorem mem_of_mem_reached (he : e ∈ reached target sight) :
    e ∈ sight.flatten ∧ e.target = target := by
  induction sight with
  | nil => cases he
  | cons _ _ ih =>
    rw [reached] at he
    split at he
    · obtain ⟨hmem, htarget⟩ := List.mem_filter.mp he
      exact ⟨List.mem_append_left _ hmem, by simpa using htarget⟩
    · obtain ⟨hmem, htarget⟩ := ih he
      exact ⟨List.mem_append_right _ hmem, htarget⟩

theorem reached_ne_nil
    (he : e ∈ sight.flatten) (htarget : e.target = target) : reached target sight ≠ [] := by
  induction sight with
  | nil => cases he
  | cons _ _ ih =>
    rw [reached]
    split
    · rename_i hany
      obtain ⟨_, hmem, htarget'⟩ := List.any_eq_true.mp hany
      exact List.ne_nil_of_mem (List.mem_filter.mpr ⟨hmem, htarget'⟩)
    · rename_i hnone
      rcases List.mem_append.mp he with he | he
      · exact absurd (List.any_eq_true.mpr ⟨e, he, by simpa using htarget⟩) hnone
      · exact ih he

theorem visitAll_append (here : List Declared) (around : List (List Declared))
    (pieces more : List Piece) :
    visitAll here around (pieces ++ more) = ((visitAll here around pieces).1 ++
          (visitAll (here ++ (visitAll here around pieces).2) around more).1,
        (visitAll here around pieces).2 ++
          (visitAll (here ++ (visitAll here around pieces).2) around more).2) := by
  induction pieces generalizing here with
  | nil => simp [visitAll]
  | cons _ _ ih =>
    rw [List.cons_append, visitAll, visitAll, ih]
    simp only [List.append_assoc]

/-! ### The variables that get more than one value -/

/-- A variable that an action declares and a later one binds is known to get more than one value. -/
def Covers (known : List String) (actions : List Action) : Prop :=
  actions.Pairwise fun a b => a.declares = true → a.boundName ≠ "" → a.boundName = b.boundName →
    a.boundName ∈ known

theorem Covers.mono {known known' : List String} (h : Covers known actions)
    (hknown : ∀ n ∈ known, n ∈ known') : Covers known' actions :=
  h.imp fun h hdeclares hname hsame => hknown _ (h hdeclares hname hsame)

theorem covers_mutableNames (body : List Action) : Covers (mutableNames body) (all body) := by
  refine List.pairwise_iff_forall_sublist.mpr fun {a b} hsublist hdeclares hname hsame => ?_
  have hbound : [a, b].Sublist ((all body).filter (·.boundName != "")) := by
    have hfiltered := hsublist.filter (·.boundName != "")
    have hname' : b.boundName ≠ "" := hsame ▸ hname
    simpa [hname, hname'] using hfiltered
  rw [mutableNames, mem_foldl_insertNew, mem_foldl_insertNew]
  cases hb : b.declares with
  | true =>
    -- Both declare the variable, so it is counted twice.
    have hdeclared := (hbound.filter declares).map boundName
    simp only [List.filter_cons, hdeclares, hb, List.map_cons, if_true, ← hsame] at hdeclared
    have hcount := hdeclared.count_le a.boundName
    refine .inl (.inr (List.mem_filter.mpr ⟨hdeclared.subset (by simp), ?_⟩))
    simp at hcount ⊢
    omega
  | false =>
    -- The second one assigns the variable, and each variable that is assigned is counted.
    refine .inr (List.mem_map.mpr ⟨b, List.mem_filter.mpr ⟨hbound.subset (by simp), ?_⟩,
      hsame.symm⟩)
    simp [hb]

/-- Which variables get more than one value is not changed. -/
def Reserved (s : State) (_ : Option Stop) (s' : State) : Prop :=
  s'.frame.reassigned = s.frame.reassigned

instance : Composable Reserved := ⟨fun _ => rfl, fun h h' => Eq.trans h' h⟩

instance : Lenient Reserved where
  plain h := congrArg Frame.reassigned h.toQuiet.frame
  verbatim _ _ := rfl

instance (priority := low) {α : Type} {x : Render α} [h : Keeps Light x] :
    Keeps Reserved x :=
  h.mono fun h => by
    obtain ⟨_, _, hframe⟩ := h
    rw [Reserved, hframe]

instance {env : Env} : Kind.Binds env (Keeping env Reserved) where
  ofElement _ _ _ := rfl

theorem reassigned_frameIn {env : Env} {a : Action} (ha : standsAlone env a = true) (f : Frame) :
    (frameIn env f (bodyStep (fun _ => pure ()) a)).reassigned = f.reassigned := by
  have hlines : Keeps Reserved (actionLines (fun _ => pure ()) a) := by
    cases a with
    | branch => cases ha
    | probe _ _ p =>
      obtain ⟨_, hpresence⟩ := Option.isSome_iff_exists.mp ha
      rw [actionLines, hpresence]
      infer_instance
    | ret value => cases value <;> (unfold actionLines; infer_instance)
    | _ => unfold actionLines; infer_instance
  have hstep : Keeps Reserved (bodyStep (fun _ => pure ()) a) := by
    unfold bodyStep
    infer_instance
  exact hstep.out env { frame := f }

/-! ### Assignments see what may be assigned -/

/-- An assignment to a variable that the same body declared for it may be made. -/
def Settled (assignments : List Assignment) : Prop :=
  ∀ a ∈ assignments, a.name ≠ "" → ∀ e ∈ reached a.target a.sight, e.owner = a.name →
    e.isMutable = true

/-- A declaration of the body in sight of actions that bind the variable again may be changed. -/
def Ready (later : List Action) (sight : List (List Declared)) : Prop :=
  ∀ e ∈ sight.flatten, e.owner ≠ "" → (∃ b ∈ later, b.boundName = e.owner) → e.isMutable = true

section Ready

variable {later later' : List Action} {here new : List Declared} {around : List (List Declared)}

theorem Ready.mono (h : Ready later (here :: around)) (hlater : ∀ b ∈ later', b ∈ later) :
    Ready later' (here :: around) := by
  intro e he howner ⟨b, hb, hname⟩
  exact h e he howner ⟨b, hlater b hb, hname⟩

theorem Ready.behind (h : Ready (actions ++ later) (here :: around)) :
    Ready later (here :: around) := h.mono fun _ hb => List.mem_append_right _ hb

theorem ready_append : Ready later ((here ++ new) :: around) ↔
    Ready later (here :: around) ∧ Ready later [new] := by
  constructor
  · refine fun h => ⟨fun e he => h e ?_, fun e he => h e ?_⟩ <;> simp at he ⊢ <;> tauto
  · rintro ⟨h, h'⟩ e he howner hbound
    simp only [List.flatten_cons, List.mem_append] at he
    rcases he with (he | he) | he
    · exact h e (by simp [he]) howner hbound
    · exact h' e (by simp [he]) howner hbound
    · exact h e (by simpa using Or.inr he) howner hbound

theorem ready_of_foreign {sight : List (List Declared)} (h : ∀ e ∈ sight.flatten, e.owner = "") :
    Ready later sight := fun e he howner => absurd (h e he) howner

theorem owner_of_mem_foreign {declared : List Declared} {e : Declared}
    (he : e ∈ declared.map Declared.foreign) : e.owner = "" := by
  obtain ⟨_, -, rfl⟩ := List.mem_map.mp he
  rfl

end Ready

/-- Pieces whose assignments may be made, and behind which later actions may bind variables
again. -/
structure Visited (later : List Action) (here : List Declared) (around : List (List Declared))
    (pieces : List Piece) : Prop where
  settled : Settled (visitAll here around pieces).1
  ready : Ready later ((here ++ (visitAll here around pieces).2) :: around)

/-- Pieces whose assignments may be made anywhere, and that declare nothing for the body around
them. -/
def Closed (pieces : List Piece) : Prop :=
  ∀ here around, Settled (visitAll here around pieces).1 ∧
    ∀ e ∈ (visitAll here around pieces).2, e.owner = ""

theorem Settled.append {first second : List Assignment} (h : Settled first) (h' : Settled second) :
    Settled (first ++ second) := List.forall_mem_append.mpr ⟨h, h'⟩

section Outline

variable {env : Env} {planned : Planning}
variable {later : List Action} {here : List Declared} {around : List (List Declared)}
variable {pieces : List Piece} {f : Frame} {a : Action} {name opening turn : String}
variable {declare both : Bool}

theorem visited_of_visitAll_eq {visit : List Assignment × List Declared}
    (hvisit : visitAll here around pieces = visit) (hsettled : Settled visit.1)
    (hready : Ready later ((here ++ visit.2) :: around)) : Visited later here around pieces := by
  subst hvisit
  exact ⟨hsettled, hready⟩

theorem visited_nil (h : Ready later (here :: around)) : Visited later here around [] :=
  ⟨fun _ ha => (List.not_mem_nil ha).elim, by simpa [visitAll] using h⟩

theorem Visited.append {first second : List Piece} (h : Visited later here around first)
    {later' : List Action}
    (h' : Visited later' (here ++ (visitAll here around first).2) around second) :
    Visited later' here around (first ++ second) := by
  refine ⟨?_, ?_⟩
  · rw [visitAll_append]
    exact h.settled.append h'.settled
  · rw [visitAll_append, ← List.append_assoc]
    exact h'.ready

theorem visited_of_closed (h : Closed pieces) (hready : Ready later (here :: around)) :
    Visited later here around pieces := by
  obtain ⟨hsettled, hforeign⟩ := h here around
  exact ⟨hsettled, ready_append.mpr ⟨hready, ready_of_foreign (by simpa using hforeign)⟩⟩

theorem visitAll_givenLines (given : List (String × String)) (here : List Declared) :
    (visitAll here around (givenLines env given)).1 = [] ∧
      ∀ e ∈ (visitAll here around (givenLines env given)).2, e.owner = "" := by
  induction given generalizing here with
  | nil => exact ⟨rfl, by simp [givenLines, visitAll]⟩
  | cons b _ ih =>
    obtain ⟨hnone, hforeign⟩ := ih (here ++ [⟨env.profile.naming.ident b.1, false, ""⟩])
    exact ⟨hnone, List.forall_mem_cons.mpr ⟨rfl, hforeign⟩⟩

theorem closed_givenLines (given : List (String × String)) : Closed (givenLines env given) := by
  intro here around
  obtain ⟨hnone, hforeign⟩ := @visitAll_givenLines env around given here
  exact ⟨fun a ha => (List.not_mem_nil (hnone ▸ ha)).elim, hforeign⟩

theorem eq_boundLine_of_variableLine? {v : VariableLine}
    (h : variableLine? env f a = some v) : ∃ text, v = boundLine env f a text := by
  obtain ⟨x, -, hx⟩ := Option.bind_eq_some_iff.mp h
  obtain ⟨text, -, rfl⟩ := Option.map_eq_some_iff.mp hx
  exact ⟨text, rfl⟩

/-- A variable known to get more than one value is declared so that it may be assigned. -/
theorem bindForm_eq_declareMutable
    (hform : f.bindForm name declare ≠ .assign) (hname : name ∈ f.reassigned) :
    f.bindForm name declare = .declareMutable := by
  unfold Frame.bindForm at hform ⊢
  split
  · rw [if_pos (by simpa using hname)]
  · rename_i hassign
    rw [if_neg hassign] at hform
    exact absurd rfl hform

theorem declares_of_bindForm (hform : f.bindForm name declare ≠ .assign) : declare = true := by
  cases declare with
  | true => rfl
  | false => exact absurd rfl hform

/-- **An action without a body keeps assignments settled.** -/
theorem visited_step (hcovers : Covers f.reassigned (a.nested ++ later))
    (hready : Ready (a.nested ++ later) (here :: around)) :
    Visited later here around (outlineStep env f a).1 := by
  have hself : a ∈ a.nested := by cases a <;> simp [nested]
  unfold outlineStep
  cases hline : variableLine? env f a with
  | none => exact visited_nil hready.behind
  | some v =>
    obtain ⟨text, rfl⟩ := eq_boundLine_of_variableLine? hline
    by_cases hform : f.bindForm a.boundName a.declares = .assign
    · -- The action itself is one of those that may see its variable.
      have hvisit : visitAll here around [.variable (boundLine env f a text)] =
          ([⟨a.boundName, env.profile.naming.ident a.boundName, here :: around⟩], []) := by
        simp [visitAll, Piece.visit, boundLine, hform]
      refine visited_of_visitAll_eq hvisit ?_ (by simpa using hready.behind)
      intro b hb hname e he howner
      obtain rfl := List.mem_singleton.mp hb
      obtain ⟨hmem, -⟩ := mem_of_mem_reached he
      exact hready e hmem (howner ▸ hname) ⟨a, List.mem_append_left _ hself, howner.symm⟩
    · have hvisit : visitAll here around [.variable (boundLine env f a text)] =
          ([], [⟨env.profile.naming.ident a.boundName,
            f.bindForm a.boundName a.declares = .declareMutable, a.boundName⟩]) := by
        simp only [visitAll, Piece.visit, boundLine, if_neg hform, VariableLine.declared?]
        rfl
      refine visited_of_visitAll_eq hvisit (fun b hb => (List.not_mem_nil hb).elim)
        (ready_append.mpr ⟨hready.behind, ?_⟩)
      -- A later action that binds the variable again is one that the known variables account for.
      rintro e he howner ⟨b, hb, hname⟩
      obtain rfl : e = _ := by simpa using he
      have hpair := (List.pairwise_append.mp hcovers).2.2 a hself b hb
      have hknown := hpair (declares_of_bindForm hform) howner hname.symm
      simpa using bindForm_eq_declareMutable hform hknown

theorem visited_fork {first second : List Piece × Frame}
    (hfirst : Settled (visitAll [] (here :: around) first.1).1)
    (hsecond : Settled (visitAll [] (here :: around) second.1).1)
    (hready : Ready later (here :: around)) :
    Visited later here around (outlineFork opening turn both first second).1 := by
  have hblock : ∀ {opening : String} {pieces : List Piece},
      Settled (visitAll [] (here :: around) pieces).1 →
      Visited later here around [.block opening pieces] := by
    intro opening pieces h
    refine ⟨?_, ?_⟩
    · simpa [visitAll, Piece.visit] using h
    · simpa [visitAll, Piece.visit] using hready
  cases both with
  | true =>
    refine (hblock hfirst).append ?_
    have hnothing : (visitAll here around [.block opening first.1]).2 = [] := by
      simp [visitAll, Piece.visit]
    rw [hnothing, List.append_nil]
    exact hblock hsecond
  | false => exact hblock hfirst

theorem ready_inside (h : Ready later (here :: around)) : Ready later ([] :: here :: around) := by
  intro e he
  exact h e (by simpa using he)

def KeepsSettled (env : Env) (planned : Planning)
    (actions : List Action) : Prop :=
  ∀ (f : Frame) (later : List Action) (here : List Declared) (around : List (List Declared)),
    Covers f.reassigned (all actions ++ later) → Ready (all actions ++ later) (here :: around) →
    Visited later here around (outline env planned f actions).1 ∧
      (outline env planned f actions).2.reassigned = f.reassigned

/-- The second side of a fork sees nothing of the first, but starts with its frame. -/
theorem visited_sides {first second : List Action}
    (hnested : a.nested = a :: (all first ++ all second)) (hfirst : KeepsSettled env planned first)
    (hsecond : KeepsSettled env planned second) (hcovers : Covers f.reassigned (a.nested ++ later))
    (hready : Ready (a.nested ++ later) (here :: around)) :
    Visited later here around (outlineFork opening turn both (outline env planned f first)
        (outline env planned (outline env planned f first).2 second)).1 ∧
      (outlineFork opening turn both (outline env planned f first)
        (outline env planned (outline env planned f first).2 second)).2.reassigned =
          f.reassigned := by
  rw [hnested] at hready
  rw [hnested, List.cons_append, List.append_assoc] at hcovers
  have hinner := (List.pairwise_cons.mp hcovers).2
  -- For the first side, the actions of the second one are still to come.
  obtain ⟨hleft, hframe⟩ := hfirst f (all second ++ later) [] (here :: around) hinner
    (ready_inside (hready.mono fun b hb => by
      simp only [List.mem_append, List.mem_cons] at hb ⊢
      tauto))
  obtain ⟨hright, hframe'⟩ := hsecond _ later [] (here :: around)
    (hframe ▸ (List.pairwise_append.mp hinner).2.1)
    (ready_inside (hready.mono fun b hb => by
      simp only [List.mem_append, List.mem_cons] at hb ⊢
      tauto))
  exact ⟨visited_fork hleft.settled hright.settled hready.behind, hframe'.trans hframe⟩

mutual

/-- **An action keeps assignments settled.** -/
theorem visited_action (hplanned : ∀ f d pieces, planned f d = some pieces → Closed pieces)
    (a : Action) : ∀ (f : Frame) (later : List Action) (here : List Declared)
      (around : List (List Declared)), Covers f.reassigned (a.nested ++ later) →
      Ready (a.nested ++ later) (here :: around) →
      Visited later here around (outlineAction env planned f a).1 ∧
        (outlineAction env planned f a).2.reassigned = f.reassigned := by
  cases a with
  | delegate d =>
    intro f later here around hcovers hready
    rw [outlineAction]
    by_cases hinline : env.strategy = .inline
    · rw [if_pos hinline]
      cases hpieces : planned f d with
      | some pieces => exact ⟨visited_of_closed (hplanned f d pieces hpieces) hready.behind, rfl⟩
      | none => exact ⟨visited_nil hready.behind, rfl⟩
    · rw [if_neg hinline]
      exact ⟨visited_step hcovers hready,
        reassigned_frameIn (by simpa [standsAlone] using hinline) f⟩
  | branch _ thenBody elseBody p =>
    intro f later here around hcovers hready
    rw [outlineAction]
    split
    · exact ⟨visited_nil hready.behind, rfl⟩
    · exact visited_sides (by rw [nested]) (visited_outline hplanned thenBody)
        (visited_outline hplanned elseBody) hcovers hready
  | probe body fallback p =>
    intro f later here around hcovers hready
    rw [outlineAction]
    split
    · rename_i presence hpresence
      exact ⟨visited_step hcovers hready, reassigned_frameIn (by simp [standsAlone, hpresence]) f⟩
    · exact visited_sides (by rw [nested]) (visited_outline hplanned body)
        (visited_outline hplanned fallback) hcovers hready
  | _ =>
    intro f later here around hcovers hready
    rw [outlineAction]
    exact ⟨visited_step hcovers hready, reassigned_frameIn rfl f⟩

/-- **Actions that follow each other keep assignments settled.** -/
theorem visited_outline (hplanned : ∀ f d pieces, planned f d = some pieces → Closed pieces)
    (actions : List Action) : KeepsSettled env planned actions := by
  match actions with
  | [] =>
    intro f later here around _ hready
    rw [outline]
    exact ⟨visited_nil (by simpa [all] using hready), rfl⟩
  | a :: rest =>
    intro f later here around hcovers hready
    rw [all, List.append_assoc] at hcovers hready
    obtain ⟨hfirst, hframe⟩ := visited_action hplanned a f _ here around hcovers hready
    obtain ⟨hothers, hframe'⟩ := visited_outline hplanned rest _ later _ around
      (hframe ▸ (List.pairwise_append.mp hcovers).2.1) hfirst.ready
    rw [outline]
    exact ⟨hfirst.append hothers, hframe'.trans hframe⟩

end

/-- A body sees nothing of its own at its start, so its assignments may be made. -/
theorem settled_outline (hplanned : ∀ f d pieces, planned f d = some pieces → Closed pieces)
    (hcovers : Covers f.reassigned (all actions))
    (given : List (String × String)) (here : List Declared) (around : List (List Declared))
    (hforeign : ∀ e ∈ (here :: around).flatten, e.owner = "") :
    Settled (visitAll here around
      (givenLines env given ++ (outline env planned f actions).1)).1 := by
  have hgiven : Visited (all actions ++ []) here around (givenLines env given) :=
    visited_of_closed (closed_givenLines given) (ready_of_foreign hforeign)
  exact (hgiven.append (visited_outline hplanned actions f [] _ around
    (by rwa [List.append_nil]) hgiven.ready).1).settled

theorem closed_body (passed : List String)
    (h : ∀ here around, (∀ e ∈ (here :: around).flatten, e.owner = "") →
      Settled (visitAll here around pieces).1) : Closed [.body passed pieces] := by
  intro here around
  have hsettled := h (here.map Declared.foreign) (around.map (List.map Declared.foreign)) (by
    intro e he
    simp only [List.flatten_cons, List.mem_append, List.mem_flatten, List.mem_map] at he
    rcases he with ⟨_, -, rfl⟩ | ⟨_, ⟨_, -, rfl⟩, he⟩
    · rfl
    · exact owner_of_mem_foreign he)
  refine ⟨by simpa [visitAll, Piece.visit] using hsettled, ?_⟩
  intro e he
  simp only [visitAll, List.append_nil] at he
  exact owner_of_mem_foreign he

theorem closed_methodOutline (hplanned : ∀ f d pieces, planned f d = some pieces → Closed pieces)
    {m : Method} {a : Arrival} (hcovers : Covers f.reassigned (all m.actions)) :
    Closed (methodOutline env planned f m a) := by
  refine closed_body _ ?_
  intro here around hforeign
  split
  · exact settled_outline hplanned hcovers a.bindings here around hforeign
  · have hblock : Settled (visitAll [] (here :: around)
        (givenLines env a.bindings ++ (outline env planned f m.actions).1)).1 :=
      settled_outline hplanned hcovers a.bindings [] (here :: around) (by simpa using hforeign)
    simpa [visitAll, Piece.visit] using hblock

theorem closed_splicedOutline (n : Nat) (f : Frame) (d : Delegation) (pieces : List Piece)
    (h : splicedOutline env n f d = some pieces) : Closed pieces := by
  induction n generalizing f d pieces with
  | zero => cases h
  | succ n ih =>
    obtain ⟨_, -, h⟩ := Option.bind_eq_some_iff.mp h
    obtain ⟨⟨_, m⟩, -, h⟩ := Option.bind_eq_some_iff.mp h
    obtain ⟨a, -, h⟩ := Option.bind_eq_some_iff.mp h
    cases h
    exact closed_methodOutline ih (covers_mutableNames m.actions)

/-- **The assignments of a whole body are settled.** -/
theorem settled_bodyOutline (env : Env) (f : Frame) (actions : List Action) (here : List Declared)
    (around : List (List Declared)) (hforeign : ∀ e ∈ (here :: around).flatten, e.owner = "") :
    Settled (visitAll here around (bodyOutline env f actions).1).1 := by
  refine settled_outline (closed_splicedOutline _) ?_ _ here around hforeign
  exact (covers_mutableNames actions).mono fun n hn => mem_foldl_insertNew.mpr (.inr hn)

theorem closed_hookOutline (env : Env) (label : String) (declared : List String)
    (methods : List (SourceUnit × Method)) : Closed (hookOutline env label declared methods) := by
  induction methods generalizing declared with
  | nil =>
    intro here around
    exact ⟨fun _ ha => (List.not_mem_nil ha).elim, fun _ he => (List.not_mem_nil he).elim⟩
  | cons entry _ ih =>
    obtain ⟨u, m⟩ := entry
    intro here around
    rw [hookOutline]
    obtain ⟨hsettled, hforeign⟩ := closed_body [] (settled_bodyOutline env (Frame.withObjects env
      { unit := u, mode := .test, page := env.profile.pageRef
        body := label ++ ":" ++ u.simpleName ++ "." ++ m.name, declared }) m.actions) here around
    obtain ⟨hsettled', hforeign'⟩ := ih _ _ around
    rw [← List.singleton_append, visitAll_append]
    exact ⟨hsettled.append hsettled', List.forall_mem_append.mpr ⟨hforeign, hforeign'⟩⟩

end Outline

/-! ### The main result -/

theorem wellScoped_iff_of_settled {params : List String} {pieces : List Piece}
    (h : Settled (visitAll [] [] pieces).1) : WellScoped params pieces ↔ InSight params pieces := by
  constructor
  · intro hscoped a ha
    obtain ⟨hdeclared, hmutable⟩ := hscoped a ha
    refine ⟨?_, fun e he => .inl (hmutable e he)⟩
    rcases hdeclared with ⟨e, he, htarget, -⟩ | hparam
    · exact .inl (reached_ne_nil he htarget)
    · exact .inr hparam
  · intro hsight a ha
    obtain ⟨hdeclared, howned⟩ := hsight a ha
    have hmutable : ∀ e ∈ reached a.target a.sight, e.isMutable = true := by
      intro e he
      rcases howned e he with hmutable | ⟨hname, howner⟩
      · exact hmutable
      · exact h a ha hname e he howner
    refine ⟨?_, hmutable⟩
    rcases hdeclared with hseen | hparam
    · obtain ⟨e, he⟩ := List.exists_mem_of_ne_nil _ hseen
      obtain ⟨hmem, htarget⟩ := mem_of_mem_reached he
      exact .inl ⟨e, hmem, htarget, hmutable e he⟩
    · exact .inr hparam

/-- **The variables of a body are well scoped exactly if its assignments have their declarations in
sight.** This holds for every rendered body, with the methods spliced into it, and for the bodies of
a hook, which follow each other in one function. -/
theorem wellScoped_iff_inSight (env : Env) :
    (∀ {actions : List Action} {f : Frame} {declared : List String} {s s' : State},
      (renderBody actions f).run env s = (.ok declared, s') →
        Drawn env.profile.phrases (renderedOutline env f actions).1 s.code s'.code ∧
          (WellScoped (f.params.map env.profile.naming.ident) (renderedOutline env f actions).1 ↔
            InSight (f.params.map env.profile.naming.ident) (renderedOutline env f actions).1)) ∧
      ∀ {label : String} {methods : List (SourceUnit × Method)} {s s' : State},
        (hookBodies label [] methods).run env s = (.ok (), s') →
          Drawn env.profile.phrases (hookOutline env label [] methods) s.code s'.code ∧
            (WellScoped [] (hookOutline env label [] methods) ↔
              InSight [] (hookOutline env label [] methods)) := by
  refine ⟨fun {actions f declared s s'} hrun => ?_, fun {label methods s s'} hrun => ?_⟩
  · have hsettled := settled_bodyOutline env (f.withObjects env) actions [] [] (by simp)
    exact ⟨(draws_renderBody hrun).2.drawn, wellScoped_iff_of_settled hsettled⟩
  · have hclosed := closed_hookOutline env label [] methods [] []
    exact ⟨(draws_hookBodies label hrun).drawn, wellScoped_iff_of_settled hclosed.1⟩

def givingX (text : String) (declare : Bool) : Action :=
  .bind { name := "x", value := textValue text, provenance := ⟨"Flow.java", 3, 3⟩, declare }

def branching (thenBody elseBody : List Action) : Action :=
  .branch (.literal { value := .flag true, kind := .boolean }) thenBody elseBody ⟨"Flow.java", 2, 6⟩

def settingUp (actions : List Action) : List (SourceUnit × Method) :=
  actions.map fun a => (fieldEnv.unit,
    { name := "setUp", params := [], returnType := "void", role := .setup, actions := [a]
      provenance := ⟨"Flow.java", 2, 4⟩ })

def declaredBefore : List Action := [givingX "a" true, branching [givingX "b" false] []]

theorem wellScoped_iff_inSight_declaredBefore :
    (∃ declared s', (renderBody declaredBefore fieldState.frame).run fieldEnv fieldState =
          (.ok declared, s') ∧
        s'.code.lines = ["let x = 'a';", "if (true) \x7b", "  x = 'b';", "\x7d"] ∧
        WellScoped [] (renderedOutline fieldEnv fieldState.frame declaredBefore).1) ∧
      ∃ s', (hookBodies "setup" [] (settingUp [givingX "a" true])).run fieldEnv fieldState =
          (.ok (), s') ∧
        s'.code.lines = ["const x = 'a';"] ∧
        WellScoped [] (hookOutline fieldEnv "setup" [] (settingUp [givingX "a" true])) := by
  have hbody : (renderBody declaredBefore fieldState.frame).run fieldEnv fieldState =
      (.ok ["x"], _) := run_eq_of_toOption (by decide +kernel)
  have hhook : (hookBodies "setup" [] (settingUp [givingX "a" true])).run fieldEnv fieldState =
      (.ok (), _) := run_eq_of_toOption (by decide +kernel)
  obtain ⟨-, hscoped⟩ := (wellScoped_iff_inSight fieldEnv).1 hbody
  obtain ⟨-, hscoped'⟩ := (wellScoped_iff_inSight fieldEnv).2 hhook
  exact ⟨⟨_, _, hbody, by decide +kernel, hscoped.mpr (by decide +kernel)⟩,
    _, hhook, by decide +kernel, hscoped'.mpr (by decide +kernel)⟩

def declaredOnBothSides : List Action := [branching [givingX "a" true] [givingX "b" true]]

/-- Two bodies of a hook that declare the same variable. -/
def declaredByBoth : List (SourceUnit × Method) := settingUp [givingX "a" true, givingX "b" true]

/-- **A variable that both sides of a branch declare is assigned where no declaration is in sight**,
and one that two bodies of a hook declare is assigned although it was declared for good. -/
theorem not_wellScoped_declaredTwice :
    (∃ declared s', (renderBody declaredOnBothSides fieldState.frame).run fieldEnv fieldState =
          (.ok declared, s') ∧
        s'.code.lines =
          ["if (true) \x7b", "  let x = 'a';", "\x7d else \x7b", "  x = 'b';", "\x7d"] ∧
        ¬WellScoped [] (renderedOutline fieldEnv fieldState.frame declaredOnBothSides).1) ∧
      ∃ s', (hookBodies "setup" [] declaredByBoth).run fieldEnv fieldState = (.ok (), s') ∧
        s'.code.lines = ["const x = 'a';", "x = 'b';"] ∧
        ¬WellScoped [] (hookOutline fieldEnv "setup" [] declaredByBoth) := by
  have hbody : (renderBody declaredOnBothSides fieldState.frame).run fieldEnv fieldState =
      (.ok ["x"], _) := run_eq_of_toOption (by decide +kernel)
  have hhook : (hookBodies "setup" [] declaredByBoth).run fieldEnv fieldState = (.ok (), _) :=
    run_eq_of_toOption (by decide +kernel)
  exact ⟨⟨_, _, hbody, by decide +kernel, by decide +kernel⟩,
    _, hhook, by decide +kernel, by decide +kernel⟩

end TestMigration.Rendering
