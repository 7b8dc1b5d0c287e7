import TestMigration.Proofs.Rendering.DeclaredObjects
/-!
# The outline of a body

Statements about the variables of a rendered body are statements about the lines that give a
variable a value, each in its block. The *outline* of a body is the tree of these lines. It is found
from the source, without rendering: an action gives a variable a value, a fork has blocks, and a
spliced call has the outline of its method (`outline`, `splicedOutline`). Which text a variable is
given, and whether an action is given up, depends on the frame alone, so the frame is carried along.

The lines of a written body are those of the outline, in its order and in its blocks, with some
other lines between them (`draws_renderBody`, `Drawn`).
-/

namespace TestMigration.Rendering

open TestMigration.Action Text Profile

/-! ### Lines in blocks -/

/-- The ways in which a variable is given a value. -/
inductive BindForm where
  | declare
  | declareMutable
  | assign
  deriving DecidableEq, Repr

/-- The template of a way to give a variable a value. -/
def BindForm.template (p : Phrases) : BindForm → String
  | declare => p.declare
  | declareMutable => p.declareMutable
  | assign => p.assign

structure VariableLine where
  form : BindForm
  name : String
  /-- Whether the body binds the variable by an action: neither a parameter bound to an argument,
  nor a page object of the setup. -/
  own : Bool
  target : String
  text : String
  deriving DecidableEq, Repr

def VariableLine.statement (p : Phrases) (v : VariableLine) : String :=
  fill (v.form.template p) [("name", v.target), ("value", v.text)]

inductive Piece where
  /-- Lines that give no variable a value, some of them statements. -/
  | rest (lines : List String) (statements : Nat)
  | variable (v : VariableLine)
  /-- Lines one level deeper, behind the line that opens the block. -/
  | block (opening : String) (pieces : List Piece)
  /-- The lines of another body, with the texts passed to it. -/
  | body (passed : List String) (pieces : List Piece)

mutual

def Piece.write (p : Phrases) : Piece → Code → Code
  | .rest lines n, c => c.more lines n
  | .variable v, c => c.line (v.statement p)
  | .block opening pieces, c => (writeAll p pieces (c.line opening).deeper).shallower
  | .body _ pieces, c => writeAll p pieces c

def writeAll (p : Phrases) : List Piece → Code → Code
  | [], c => c
  | piece :: rest, c => writeAll p rest (piece.write p c)

end

mutual

/-- A piece without the lines that give no variable a value. -/
def Piece.bare : Piece → List Piece
  | .rest .. => []
  | .variable v => [.variable v]
  | .block opening pieces => [.block opening (bare pieces)]
  | .body passed pieces => [.body passed (bare pieces)]

def bare : List Piece → List Piece
  | [] => []
  | piece :: rest => piece.bare ++ bare rest

end

theorem writeAll_append (p : Phrases) (pieces more : List Piece) (c : Code) :
    writeAll p (pieces ++ more) c = writeAll p more (writeAll p pieces c) := by
  induction pieces generalizing c with
  | nil => rfl
  | cons _ _ ih => exact ih _

theorem bare_append (pieces more : List Piece) :
    bare (pieces ++ more) = bare pieces ++ bare more := by
  induction pieces with
  | nil => rfl
  | cons _ _ ih => rw [List.cons_append, bare, bare, ih, List.append_assoc]

/-- The code has been written as an outline says, with other lines in between. -/
def Drawn (p : Phrases) (plan : List Piece) (c c' : Code) : Prop :=
  ∃ pieces, bare pieces = plan ∧ writeAll p pieces c = c'

section Drawn

variable {p : Phrases} {plan more : List Piece} {c c' c'' : Code}

theorem drawn_more (p : Phrases) (c : Code) (lines : List String) (n : Nat) :
    Drawn p [] c (c.more lines n) := ⟨[.rest lines n], rfl, rfl⟩

theorem drawn_refl (p : Phrases) (c : Code) : Drawn p [] c c := ⟨[], rfl, rfl⟩

theorem Drawn.trans (h : Drawn p plan c c') (h' : Drawn p more c' c'') :
    Drawn p (plan ++ more) c c'' := by
  obtain ⟨pieces, hplan, hwrite⟩ := h
  obtain ⟨pieces', hmore, hwrite'⟩ := h'
  refine ⟨pieces ++ pieces', by rw [bare_append, hplan, hmore], ?_⟩
  rw [writeAll_append, hwrite, hwrite']

theorem Drawn.thenMore (h : Drawn p plan c c') (lines : List String) (n : Nat) :
    Drawn p plan c (c'.more lines n) := by
  simpa using h.trans (drawn_more p c' lines n)

theorem drawn_variable (p : Phrases) (v : VariableLine) (c : Code) :
    Drawn p [.variable v] c (c.line (v.statement p)) := ⟨[.variable v], rfl, rfl⟩

theorem Drawn.block {opening : String} (h : Drawn p plan (c.line opening).deeper c') :
    Drawn p [.block opening plan] c c'.shallower := by
  obtain ⟨pieces, hplan, hwrite⟩ := h
  refine ⟨[.block opening pieces], by simp [bare, Piece.bare, hplan], ?_⟩
  simp only [writeAll, Piece.write, hwrite]

theorem Drawn.body (passed : List String) (h : Drawn p plan c c') :
    Drawn p [.body passed plan] c c' := by
  obtain ⟨pieces, hplan, hwrite⟩ := h
  refine ⟨[.body passed pieces], by simp [bare, Piece.bare, hplan], ?_⟩
  simp only [writeAll, Piece.write, hwrite]

end Drawn

/-! ### The outline of a body -/

/-- How a body in a frame gives a variable a value. -/
def Frame.bindForm (f : Frame) (name : String) (declare : Bool) : BindForm :=
  if declare && !f.declared.contains name then
    if f.reassigned.contains name then .declareMutable else .declare
  else .assign

def scripted (c : ScriptRun) : Render String := do
  let p ← profile
  let parts ← scriptParts c.code (← scriptArgs fieldText c.args)
  return fill p.script.expression parts

/-- The text of the value that an action gives a variable. -/
def boundText : Action → Option (Render String)
  | .locate l => if l.inline then none else some (lookedUp l)
  | .pick k => if k.inline then none else some (picked k)
  | .script c => if c.bind.isEmpty then none else some (scripted c)
  | .delegate d => if d.bind.isEmpty then none else some (valueText (.call d.call))
  | .bind b => some (valueText b.value)
  | _ => none

/-- The line by which an action gives a variable a value, if that has a target form. -/
def variableLine? (env : Env) (f : Frame) (a : Action) : Option VariableLine :=
  (boundText a).bind fun x => (evalIn env f x).toOption.map fun text =>
    { form := f.bindForm a.boundName a.declares, name := a.boundName, own := true
      target := env.profile.naming.ident a.boundName, text }

def outlineStep (env : Env) (f : Frame) (a : Action) : List Piece × Frame :=
  ((variableLine? env f a).toList.map .variable, frameIn env f (bodyStep (fun _ => pure ()) a))

def outlineFork (opening turn : String) (both : Bool) (first second : List Piece × Frame) :
    List Piece × Frame :=
  (.block opening first.1 :: if both then [.block turn second.1] else [],
    { second.2 with cleared := [] })

/-- What is known of the lines of spliced calls. -/
abbrev Planning := Frame → Delegation → Option (List Piece)

mutual

/-- The outline of an action, and the frame behind it. `splice` gives those of spliced calls. -/
def outlineAction (env : Env) (splice : Planning) (f : Frame) : Action → List Piece × Frame
  | .delegate d =>
    if env.strategy = .inline then
      match splice f d with
      | some pieces => (pieces, { f with cleared := [] })
      | none => ([], f)
    else outlineStep env f (.delegate d)
  | .branch condition thenBody elseBody _ =>
    match evalIn env f (valueText condition) with
    | .error _ => ([], f)
    | .ok test =>
      outlineFork (fill env.profile.phrases.ifOpen
        [("condition", test)]) env.profile.phrases.elseOpen
        (!elseBody.isEmpty) (outline env splice f thenBody)
        (outline env splice (outline env splice f thenBody).2 elseBody)
  | .probe body fallback p =>
    match presenceCheck body fallback with
    | some _ => outlineStep env f (.probe body fallback p)
    | none =>
      outlineFork env.profile.phrases.tryOpen env.profile.phrases.catchOpen true
        (outline env splice f body) (outline env splice (outline env splice f body).2 fallback)
  | .navigate url p => outlineStep env f (.navigate url p)
  | .locate l => outlineStep env f (.locate l)
  | .pick k => outlineStep env f (.pick k)
  | .interact i => outlineStep env f (.interact i)
  | .wait w => outlineStep env f (.wait w)
  | .assert a => outlineStep env f (.assert a)
  | .script s => outlineStep env f (.script s)
  | .bind b => outlineStep env f (.bind b)
  | .ret v p => outlineStep env f (.ret v p)
  | .pause millis p => outlineStep env f (.pause millis p)
  | .command name args p => outlineStep env f (.command name args p)
  | .verbatim text reason p => outlineStep env f (.verbatim text reason p)

def outline (env : Env) (splice : Planning) (f : Frame) : List Action → List Piece × Frame
  | [] => ([], f)
  | a :: rest =>
    ((outlineAction env splice f a).1 ++
      (outline env splice (outlineAction env splice f a).2 rest).1,
      (outline env splice (outlineAction env splice f a).2 rest).2)

end

def Arrival.texts (a : Arrival) : List String :=
  a.elements.map Prod.snd ++ a.subst.map Prod.snd ++ a.bindings.map Prod.snd

/-- The lines that declare variables given to a body, with their texts. -/
def givenLines (env : Env) (given : List (String × String)) : List Piece :=
  given.map fun b => .variable
    { form := .declare, name := b.1, own := false, target := env.profile.naming.ident b.1
      text := b.2 }

/-- The outline of a method spliced in a frame, where `splice` gives those of its calls. -/
def methodOutline (env : Env) (splice : Planning) (f : Frame)
    (m : Method) (a : Arrival) : List Piece :=
  let lines := givenLines env a.bindings ++ (outline env splice f m.actions).1
  let opening := env.profile.phrases.inlineOpen
  [.body a.texts (if opening.isEmpty then lines else [.block opening lines])]

/-- The outline of a spliced call: none if an argument has no target form. -/
def splicedWith (env : Env) (splice : Planning) (f : Frame)
    (d : Delegation) : Option (List Piece) := do
  let key ← env.model.resolve? d.call
  let (callee, m) ← splicedMethod? env d
  let a ← (evalIn env f (passArguments m.name (m.params.zip d.call.args) {})).toOption
  return methodOutline env splice (spliceFrame f callee key m a) m a

/-- The outline of a spliced call, through at most so many other splices. -/
def splicedOutline (env : Env) : Nat → Planning
  | 0 => fun _ _ => none
  | n + 1 => splicedWith env (splicedOutline env n)

def objectLines (env : Env) (f : Frame) (objects : List (String × SourceUnit)) : List Piece :=
  givenLines env (objects.map fun object => (object.1, fill env.profile.phrases.construct
    [("type", object.2.simpleName), ("args", f.page)]))

/-- The frame in which a body starts: it knows the variables with more than one value. -/
def Frame.starting (f : Frame) (actions : List Action) : Frame :=
  { f with
    reassigned := (mutableNames actions).foldl (fun names n => insertNew n names) f.reassigned }

/-- The page objects of the setup that a body starts with. -/
def startObjects (env : Env) (f : Frame) (actions : List Action) : List (String × SourceUnit) :=
  if f.mode = .test || f.mode = .function then declaredObjects env f actions else []

def bodyOutline (env : Env) (f : Frame) (actions : List Action) : List Piece × Frame :=
  let start := f.starting actions
  let objects := startObjects env start actions
  let rest := outline env (splicedOutline env (methodCount env.model))
    { start with
      declared := objects.foldl (fun names o => insertNew o.1 names) start.declared } actions
  (objectLines env start objects ++ rest.1, rest.2)

/-- The frame of a body with the page objects of the setup it may use. -/
def Frame.withObjects (env : Env) (f : Frame) : Frame :=
  { f with
    contextObjects :=
      if f.mode = .test || f.mode = .function then
        ((evalIn env f Rendering.contextObjects).toOption).getD []
      else [] }

/-- The outline of a whole body, and the frame behind it. -/
def renderedOutline (env : Env) (f : Frame) (actions : List Action) : List Piece × Frame :=
  bodyOutline env (f.withObjects env) actions

/-- The outline of the bodies of a hook, which share their variables. -/
def hookOutline (env : Env) (label : String) : List String → List (SourceUnit × Method) → List Piece
  | _, [] => []
  | declared, (u, m) :: rest =>
    let o := renderedOutline env
      { unit := u, mode := .test, page := env.profile.pageRef
        body := label ++ ":" ++ u.simpleName ++ "." ++ m.name, declared } m.actions
    .body [] o.1 :: hookOutline env label o.2.declared rest

end TestMigration.Rendering
